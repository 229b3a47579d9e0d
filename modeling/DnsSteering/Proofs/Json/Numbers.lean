import DnsSteering.Json.Printer
import DnsSteering.Json.Reader

namespace DnsSteering.Json

-- Nothing that a number could go on with.
def Ended : List Char → Prop
  | [] => True
  | c :: _ => c.isDigit = false ∧ c ≠ '.' ∧ c ≠ 'e' ∧ c ≠ 'E'

theorem ended_cons {c : Char} {cs : List Char}
    (other : c.isDigit = false ∧ c ≠ '.' ∧ c ≠ 'e' ∧ c ≠ 'E') : Ended (c :: cs) := other

theorem toDigits_leading {n : Nat} (positive : 0 < n) :
    ∃ c cs, Nat.toDigits 10 n = c :: cs ∧ c ≠ '0' := by
  induction n using Nat.strongRecOn with
  | ind n ih =>
    by_cases small : n < 10
    · refine ⟨_, [], Nat.toDigits_of_lt_base small, ?_⟩
      rw [ne_eq, Nat.digitChar_eq_zero]
      omega
    · obtain ⟨c, cs, digits, leading⟩ := ih (n / 10) (by omega) (by omega)
      refine ⟨c, cs ++ [Nat.digitChar (n % 10)], ?_, leading⟩
      rw [Nat.toDigits_of_base_le (by decide) (by omega), digits, List.cons_append]

theorem isDigit_toDigits {n : Nat} : ∀ c ∈ Nat.toDigits 10 n, c.isDigit = true := fun _ member =>
  Nat.isDigit_of_mem_toDigits (by decide) (by decide) member

theorem toDigits_digit (n : Nat) :
    ∃ c cs, Nat.toDigits 10 n = c :: cs ∧ ∀ d : Char, d.isDigit = false → c ≠ d := by
  cases written : Nat.toDigits 10 n with
  | nil => exact absurd written Nat.toDigits_ne_nil
  | cons c cs =>
    refine ⟨c, cs, rfl, ?_⟩
    rintro d other rfl
    have digit : c.isDigit = true :=
      isDigit_toDigits (n := n) c (by rw [written]; exact List.mem_cons_self ..)
    rw [digit] at other
    cases other

theorem ofDigits_toDigits (n : Nat) : ofDigits (Nat.toDigits 10 n) = n := by
  have folded : ofDigits (Nat.toDigits 10 n) = Nat.ofDigitChars 10 (Nat.toDigits 10 n) 0 := by
    rw [Nat.ofDigitChars_eq_foldl]
    rfl
  rw [folded, Nat.ofDigitChars_ten_toDigits]

theorem toList_ofNat (m : Nat) : (toString (Int.ofNat m)).toList = Nat.toDigits 10 m := by
  show (toString m).toList = _
  rw [Nat.toString_eq_ofList_toDigits, String.toList_ofList]

theorem toList_negSucc (m : Nat) :
    (toString (Int.negSucc m)).toList = '-' :: Nat.toDigits 10 (m + 1) := by
  show ("-" ++ toString (m + 1)).toList = _
  simp

-- A number begins with a digit or a minus sign.
theorem toString_start (n : Int) : ∃ c cs, (toString n).toList = c :: cs ∧
    ∀ d : Char, d.isDigit = false → d ≠ '-' → c ≠ d := by
  cases n with
  | ofNat m =>
    obtain ⟨c, cs, written, other⟩ := toDigits_digit m
    exact ⟨c, cs, (toList_ofNat m).trans written, fun d digit _ => other d digit⟩
  | negSucc m => exact ⟨'-', _, toList_negSucc m, fun d _ minus => minus.symm⟩

section Read

variable {rest : List Char} (ended : Ended rest)

include ended

theorem digitsOf_append {ds : List Char} (digits : ∀ c ∈ ds, c.isDigit = true) :
    digitsOf (ds ++ rest) = ds ∧ (ds ++ rest).dropWhile Char.isDigit = rest := by
  have stop : rest.takeWhile Char.isDigit = [] ∧ rest.dropWhile Char.isDigit = rest := by
    cases rest with
    | nil => exact ⟨rfl, rfl⟩
    | cons c cs =>
      have other : c.isDigit = false := ended.1
      simp [other]
  rw [digitsOf, List.takeWhile_append_of_pos digits, List.dropWhile_append_of_pos digits, stop.1,
    stop.2]
  simp

theorem readWhole_toDigits (n : Nat) :
    readWhole (Nat.toDigits 10 n ++ rest) = some (Nat.toDigits 10 n, rest) := by
  cases Nat.eq_zero_or_pos n with
  | inl zero => simp [zero, readWhole]
  | inr positive =>
    obtain ⟨taken, left⟩ := digitsOf_append ended (isDigit_toDigits (n := n))
    obtain ⟨c, cs, written, leading⟩ := toDigits_leading positive
    have digit : c.isDigit = true :=
      isDigit_toDigits (n := n) c (by rw [written]; exact List.mem_cons_self ..)
    rw [written] at taken left ⊢
    rw [List.cons_append] at taken left ⊢
    simp [readWhole, digit, taken, left]

theorem readFraction_ended : readFraction rest = (none, rest) := by
  cases rest with
  | nil => rfl
  | cons c cs =>
    have point : c ≠ '.' := ended.2.1
    simp [readFraction, point]

theorem readExponent_ended : readExponent rest = (none, rest) := by
  cases rest with
  | nil => rfl
  | cons c cs => simp [readExponent, ended.2.2.1, ended.2.2.2]

theorem readUnsigned_toDigits (negative : Bool) (n : Nat) :
    readUnsigned negative (Nat.toDigits 10 n ++ rest) =
      some (.int (if negative then -n else n), rest) := by
  simp [readUnsigned, readWhole_toDigits ended, readFraction_ended ended, readExponent_ended ended,
    ofDigits_toDigits]

-- Numbers begin like none of the words.
theorem readPlain_int (n : Int) :
    readPlain ((toString n).toList ++ rest) = .ok (.int n, rest) := by
  cases n with
  | ofNat m =>
    have read := readUnsigned_toDigits ended false m
    obtain ⟨c, cs, written, other⟩ := toDigits_digit m
    rw [toList_ofNat, written, List.cons_append]
    rw [written, List.cons_append] at read
    simp [readPlain, readNumber, other, read]
  | negSucc m =>
    have read := readUnsigned_toDigits ended true (m + 1)
    obtain ⟨c, cs, written, other⟩ := toDigits_digit (m + 1)
    rw [toList_negSucc, written, List.cons_append, List.cons_append]
    rw [written, List.cons_append] at read
    simp [readPlain, readNumber, other, read, Int.negSucc_eq]

end Read

-- A number is read back from its text.
theorem toString_inj {m n : Int} (same : toString m = toString n) : m = n := by
  have ended : Ended [] := trivial
  have read := readPlain_int ended m
  rw [same, readPlain_int ended n] at read
  cases read
  rfl

theorem toString_chars (n : Int) : ∀ c ∈ (toString n).toList, c.isDigit = true ∨ c = '-' := by
  cases n with
  | ofNat m =>
    rw [toList_ofNat]
    exact fun c listed => .inl (isDigit_toDigits c listed)
  | negSucc m =>
    rw [toList_negSucc]
    intro c listed
    rcases List.mem_cons.mp listed with minus | digit
    · exact .inr minus
    · exact .inl (isDigit_toDigits c digit)

end DnsSteering.Json
