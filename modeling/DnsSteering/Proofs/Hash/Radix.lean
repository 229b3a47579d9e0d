import DnsSteering.Hash.Base36
import Mathlib.Data.Nat.Digits.Lemmas

namespace DnsSteering

-- Signs for the numbers below a base, and what each stands for.
structure Radix (α : Type) where
  base : Nat
  sign : Nat → α
  value : α → Nat
  several : 1 < base
  value_sign : ∀ d < base, value (sign d) = d

namespace Radix

variable {α : Type} (r : Radix α)

def IsSign (x : α) : Prop := ∃ d < r.base, r.sign d = x

def read (xs : List α) : Nat := Nat.ofDigits r.base (xs.map r.value).reverse

def write (n : Nat) : List α := ((Nat.digits r.base n).map r.sign).reverse

-- Zero has the numeral without signs.
structure IsNumeral (n : Nat) (xs : List α) : Prop where
  signs : ∀ x ∈ xs, r.IsSign x
  front : xs.head? ≠ some (r.sign 0)
  number : r.read xs = n

variable {r}

theorem IsSign.value_lt {x : α} (sign : r.IsSign x) : r.value x < r.base := by
  obtain ⟨d, small, rfl⟩ := sign
  rwa [r.value_sign d small]

theorem IsSign.sign_value {x : α} (sign : r.IsSign x) : r.sign (r.value x) = x := by
  obtain ⟨d, small, rfl⟩ := sign
  rw [r.value_sign d small]

theorem write_eq_nil {n : Nat} : r.write n = [] ↔ n = 0 := by
  rw [write, List.reverse_eq_nil_iff, List.map_eq_nil_iff]
  exact Nat.digits_eq_nil_iff_eq_zero

theorem write_zero : r.write 0 = [] := write_eq_nil.mpr rfl

theorem write_signs (n : Nat) : ∀ x ∈ r.write n, r.IsSign x := by
  intro x member
  obtain ⟨d, digit, rfl⟩ := List.mem_map.mp (List.mem_reverse.mp member)
  exact ⟨d, Nat.digits_lt_base r.several digit, rfl⟩

theorem write_front (n : Nat) : (r.write n).head? ≠ some (r.sign 0) := by
  by_cases zero : n = 0
  · simp [zero, write_zero]
  · have positive : 0 < r.base := Nat.lt_trans Nat.zero_lt_one r.several
    have filled : Nat.digits r.base n ≠ [] := Nat.digits_ne_nil_iff_ne_zero.mpr zero
    have small := Nat.digits_lt_base r.several (List.getLast_mem filled)
    rw [write, List.head?_reverse, List.getLast?_map, List.getLast?_eq_some_getLast filled]
    intro front
    have same := congrArg r.value (Option.some.inj front)
    rw [r.value_sign _ small, r.value_sign 0 positive] at same
    exact Nat.getLast_digit_ne_zero r.base zero same

theorem read_write (n : Nat) : r.read (r.write n) = n := by
  have same : ((Nat.digits r.base n).map r.sign).map r.value = Nat.digits r.base n := by
    rw [List.map_map]
    refine (List.map_congr_left fun d digit => ?_).trans (List.map_id _)
    exact r.value_sign d (Nat.digits_lt_base r.several digit)
  rw [read, write, List.map_reverse, List.reverse_reverse, same]
  exact Nat.ofDigits_digits r.base n

theorem write_read {xs : List α} (signs : ∀ x ∈ xs, r.IsSign x) (front : xs.head? ≠ some (r.sign 0)) :
    r.write (r.read xs) = xs := by
  have small : ∀ d ∈ (xs.map r.value).reverse, d < r.base := by
    intro d member
    obtain ⟨x, sign, rfl⟩ := List.mem_map.mp (List.mem_reverse.mp member)
    exact (signs x sign).value_lt
  have last : ∀ filled : (xs.map r.value).reverse ≠ [],
      (xs.map r.value).reverse.getLast filled ≠ 0 := by
    intro filled zero
    cases xs with
    | nil => exact filled rfl
    | cons x xs =>
      have first : r.value x = 0 := by simpa using zero
      refine front ?_
      rw [List.head?_cons, ← first, (signs x (List.mem_cons_self ..)).sign_value]
  have same : (xs.map r.value).map r.sign = xs := by
    rw [List.map_map]
    exact (List.map_congr_left fun x sign => (signs x sign).sign_value).trans (List.map_id _)
  rw [write, read, Nat.digits_ofDigits r.base r.several _ small last, List.map_reverse,
    List.reverse_reverse, same]

-- The smaller the base, the longer the numeral.
theorem length_write_le {β : Type} {s : Radix β} (smaller : s.base ≤ r.base) (n : Nat) :
    (r.write n).length ≤ (s.write n).length := by
  rw [write, write, List.length_reverse, List.length_reverse, List.length_map, List.length_map,
    Nat.digits_length_le_iff r.several]
  exact Nat.lt_of_lt_of_le (Nat.lt_base_pow_length_digits s.several) (Nat.pow_le_pow_left smaller _)

theorem isNumeral_iff {n : Nat} {xs : List α} : r.IsNumeral n xs ↔ xs = r.write n := by
  constructor
  · intro numeral
    rw [← numeral.number, write_read numeral.signs numeral.front]
  · intro written
    rw [written]
    exact ⟨write_signs n, write_front n, read_write n⟩

theorem foldl_read (xs : List α) : xs.foldl (fun n x => r.base * n + r.value x) 0 = r.read xs := by
  rw [read, Nat.ofDigits_eq_foldr, ← List.map_reverse, List.foldr_map, List.foldr_reverse]
  simp only [Nat.cast_id, Nat.add_comm]

-- Whatever takes the last sign off a number, and writes the rest of it before, writes its numeral.
theorem eq_write {f : Nat → List α}
    (step : ∀ n, f n = if n = 0 then [] else f (n / r.base) ++ [r.sign (n % r.base)]) (n : Nat) :
    f n = r.write n := by
  induction n using Nat.strongRecOn with
  | ind n ih =>
    rw [step n]
    split
    · rename_i zero
      rw [zero, write_zero]
    · rename_i some
      rw [ih _ (Nat.div_lt_self (Nat.pos_of_ne_zero some) r.several), write, write,
        Nat.digits_eq_cons_digits_div r.several some, List.map_cons, List.reverse_cons]

end Radix

namespace Base36

def letters : Radix Char := ⟨36, digit, digitValue, by decide, by decide⟩

def octets : Radix UInt8 := ⟨256, UInt8.ofNat, UInt8.toNat, by decide, fun _ => UInt8.toNat_ofNat_of_lt⟩

theorem digits_write (n : Nat) : digits n = letters.write n := by
  refine Radix.eq_write (fun n => ?_) n
  rw [digits]
  rfl

theorem bytes_write (n : Nat) : bytes n = octets.write n := by
  refine Radix.eq_write (fun n => ?_) n
  rw [bytes]
  rfl

theorem ofDigits_read (ds : List Char) : ofDigits ds = letters.read ds := letters.foldl_read ds

theorem number_read (raw : List UInt8) : number raw = octets.read raw := octets.foldl_read raw

theorem octets_sign (b : UInt8) : octets.IsSign b := ⟨b.toNat, b.toNat_lt, UInt8.ofNat_toNat⟩

end Base36
end DnsSteering
