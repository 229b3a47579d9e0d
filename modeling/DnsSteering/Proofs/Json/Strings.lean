import DnsSteering.Json.Printer
import DnsSteering.Proofs.Text.Loose

namespace DnsSteering

theorem Text.hexValue?_digitChar : ∀ d < 16, hexValue? (Nat.digitChar d) = some d := by decide

namespace Json

-- The units of UTF-16 that stand for a character.
def units (c : Char) : List Nat :=
  if c.toNat < 0x10000 then [c.toNat] else [highUnit c.toNat, lowUnit c.toNat]

def letterUnits : LooseText.Letter → List Nat
  | .inl c => units c
  | .inr half => [half.point]

theorem char_range (c : Char) : c.toNat < 0xD800 ∨ (0xDFFF < c.toNat ∧ c.toNat < 0x110000) := c.valid

section Read

variable {opened : Nat} {rest : List Char}

theorem unit?_hexDigits {n : Nat} (small : n < 0x10000) :
    ∃ a b c d, Text.hexDigits 4 n = [a, b, c, d] ∧ unit? a b c d = some n := by
  refine ⟨Nat.digitChar (n / 16 / 16 / 16 % 16), Nat.digitChar (n / 16 / 16 % 16),
    Nat.digitChar (n / 16 % 16), Nat.digitChar (n % 16), rfl, ?_⟩
  have digit : ∀ m, Text.hexValue? (Nat.digitChar (m % 16)) = some (m % 16) := fun m =>
    Text.hexValue?_digitChar _ (Nat.mod_lt _ (by decide))
  simp only [unit?, digit, Option.some.injEq]
  omega

-- Behind the escape of a unit something must follow, if only the closing quote.
theorem readUnits_unit {n : Nat} (small : n < 0x10000) (more : rest ≠ []) :
    readUnits opened (unitEscape n ++ rest) =
      (readUnits opened rest).map fun r => (n :: r.1, r.2) := by
  obtain ⟨a, b, c, d, digits, unit⟩ := unit?_hexDigits small
  simp [unitEscape, digits, readUnits, unit, more]

theorem readUnits_letter {c letter : Char} (other : letter ≠ 'u')
    (known : simpleEscape? letter = some c) :
    readUnits opened ('\\' :: letter :: rest) =
      (readUnits opened rest).map fun r => (c.toNat :: r.1, r.2) := by
  simp [readUnits, other, known]

theorem readUnits_plain {c : Char} (quote : c ≠ '"') (slash : c ≠ '\\') (visible : 32 ≤ c.toNat) :
    readUnits opened (c :: rest) = (readUnits opened rest).map fun r => (c.toNat :: r.1, r.2) := by
  have control : ¬ c.toNat < 32 := Nat.not_lt.mpr visible
  simp [readUnits, slash, control]

-- Characters with an escape of one letter, and the letters.
def letters : List (Char × Char) :=
  [('"', '"'), ('\\', '\\'), ('\n', 'n'), ('\r', 'r'), ('\t', 't'), ('\x0c', 'f'), ('\x08', 'b')]

theorem letters_escape : ∀ p ∈ letters, escape p.1 = ['\\', p.2] ∧ p.2 ≠ 'u' ∧
    simpleEscape? p.2 = some p.1 ∧ p.1.toNat < 0x10000 := by decide

theorem escape_unlettered {c : Char} (unlettered : ∀ p ∈ letters, c ≠ p.1) :
    escape c =
      if 32 ≤ c.toNat && c.toNat < 127 then [c]
      else if c.toNat < 0x10000 then unitEscape c.toNat
      else unitEscape (highUnit c.toNat) ++ unitEscape (lowUnit c.toNat) := by
  simp only [letters, List.forall_mem_cons] at unlettered
  simp [escape, unlettered]

theorem readUnits_escape (c : Char) (more : rest ≠ []) :
    readUnits opened (escape c ++ rest) =
      (readUnits opened rest).map fun r => (units c ++ r.1, r.2) := by
  by_cases lettered : ∃ p ∈ letters, c = p.1
  · obtain ⟨p, listed, rfl⟩ := lettered
    obtain ⟨escaped, other, known, small⟩ := letters_escape p listed
    rw [escaped, units, if_pos small]
    exact readUnits_letter other known
  · have unlettered : ∀ p ∈ letters, c ≠ p.1 := fun p listed same => lettered ⟨p, listed, same⟩
    rw [escape_unlettered unlettered]
    split
    · rename_i visible
      simp only [Bool.and_eq_true, decide_eq_true_eq] at visible
      have small : c.toNat < 0x10000 := by omega
      rw [units, if_pos small]
      exact readUnits_plain (unlettered ('"', '"') (by decide)) (unlettered ('\\', '\\') (by decide))
        visible.1
    · split
      · rename_i small
        rw [units, if_pos small]
        exact readUnits_unit small more
      · rename_i large
        -- A large character is written as two units.
        have range := char_range c
        have high : highUnit c.toNat < 0x10000 := by
          unfold highUnit
          omega
        have low : lowUnit c.toNat < 0x10000 := by
          unfold lowUnit
          omega
        rw [units, if_neg large, List.append_assoc, readUnits_unit high (by simp [unitEscape]),
          readUnits_unit low more]
        cases readUnits opened rest <;> rfl

theorem half_small (half : Surrogate) : half.point < 0x10000 := by
  unfold Surrogate.point
  omega

theorem readUnits_print (ls : List LooseText.Letter) :
    readUnits opened (ls.flatMap escapeLetter ++ '"' :: rest) = .ok (ls.flatMap letterUnits, rest) := by
  induction ls with
  | nil => rfl
  | cons l ls ih =>
    rw [List.flatMap_cons, List.append_assoc]
    cases l with
    | inl c =>
      rw [escapeLetter, readUnits_escape c (by simp), ih]
      rfl
    | inr half =>
      rw [escapeLetter, readUnits_unit (half_small half) (by simp), ih]
      rfl

end Read

theorem joinUnits_single {n : Nat} (single : isHigh n = false) (ns : List Nat) :
    joinUnits (n :: ns) = letterOf n :: joinUnits ns := by
  cases ns with
  | nil => rfl
  | cons m ns => simp [joinUnits, single]

theorem joinUnits_char (c : Char) (ns : List Nat) :
    joinUnits (units c ++ ns) = .inl c :: joinUnits ns := by
  have range := char_range c
  unfold units
  split
  · have high : isHigh c.toNat = false := by
      simp [isHigh]
      omega
    have low : isLow c.toNat = false := by
      simp [isLow]
      omega
    rw [List.singleton_append, joinUnits_single high]
    simp [letterOf, high, low]
  · have high : isHigh (highUnit c.toNat) = true := by
      unfold isHigh highUnit
      simp only [Bool.and_eq_true, decide_eq_true_eq]
      omega
    have low : isLow (lowUnit c.toNat) = true := by
      unfold isLow lowUnit
      simp only [Bool.and_eq_true, decide_eq_true_eq]
      omega
    have number : 0x10000 + (highUnit c.toNat - 0xD800) * 0x400 + (lowUnit c.toNat - 0xDC00) =
        c.toNat := by
      simp only [highUnit, lowUnit]
      omega
    show joinUnits (highUnit c.toNat :: lowUnit c.toNat :: ns) = _
    rw [joinUnits, high, low, number]
    simp

-- The first unit of a letter is the latter one of a pair only where the letter is such a half.
theorem letterUnits_first (l : LooseText.Letter) : ∃ n ns, letterUnits l = n :: ns ∧
    (isLow n = true → ∃ half, l = .inr half ∧ 0x400 ≤ half.val) := by
  cases l with
  | inl c =>
    have range := char_range c
    by_cases small : c.toNat < 0x10000
    · refine ⟨c.toNat, [], by simp [letterUnits, units, small], fun low => ?_⟩
      simp only [isLow, Bool.and_eq_true, decide_eq_true_eq] at low
      omega
    · refine ⟨highUnit c.toNat, [lowUnit c.toNat], by simp [letterUnits, units, small], fun low => ?_⟩
      simp only [isLow, Bool.and_eq_true, decide_eq_true_eq] at low
      unfold highUnit at low
      omega
  | inr half =>
    refine ⟨_, _, rfl, fun low => ⟨half, rfl, ?_⟩⟩
    simpa [isLow_point] using low

theorem joinUnits_units {ls : List LooseText.Letter} (unpaired : ls.IsChain fun l m => ¬ LooseText.Pair l m) :
    joinUnits (ls.flatMap letterUnits) = ls := by
  induction ls with
  | nil => rfl
  | cons l ls ih =>
    have rest := ih unpaired.tail
    cases l with
    | inl c => rw [List.flatMap_cons, letterUnits, joinUnits_char, rest]
    | inr half =>
      cases ls with
      | nil => simp [letterUnits, joinUnits, letterOf_point]
      | cons m ls =>
        obtain ⟨n, ns, first, low⟩ := letterUnits_first m
        have single : ¬ (isHigh half.point && isLow n) = true := by
          intro joined
          simp only [Bool.and_eq_true, isHigh_point, decide_eq_true_eq] at joined
          obtain ⟨next, rfl, latter⟩ := low joined.2
          exact unpaired.rel ⟨joined.1, latter⟩
        rw [List.flatMap_cons, first, List.cons_append] at rest
        rw [List.flatMap_cons, List.flatMap_cons, first, letterUnits, List.singleton_append, List.cons_append,
          joinUnits, if_neg single, letterOf_point, rest]

theorem readString_print {t : LooseText} (unpaired : t.Unpaired) (rest : List Char) :
    readString (t.letters.flatMap escapeLetter ++ '"' :: rest) = .ok (t, rest) := by
  simp [readString, readUnits_print, Except.map, joinUnits_units unpaired, LooseText.ofLetters_letters]

end Json
end DnsSteering
