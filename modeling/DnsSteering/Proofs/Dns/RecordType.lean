import DnsSteering.Dns.RecordType
import DnsSteering.Proofs.Json.Numbers

namespace DnsSteering.RecordType

theorem ofCode_code (t : RecordType) : ofCode t.code.val = .ok t := by
  simp [ofCode]

theorem names_read : ∀ entry ∈ names, (read entry.1).toOption.map (·.code.val) = some entry.2 := by
  decide +kernel

theorem read_name {entry : String × Nat} (listed : entry ∈ names) {t : RecordType}
    (code : entry.2 = t.code.val) : read entry.1 = .ok t := by
  have numbered := names_read entry listed
  cases done : read entry.1 with
  | error f => simp [done, Except.toOption] at numbered
  | ok u =>
    have equal : u.code.val = t.code.val := by simpa [done, Except.toOption, code] using numbered
    rw [show u = t from congrArg mk (Fin.ext equal)]

-- A single name looks like a type without a name, and it has the number that it shows.
theorem names_type : ∀ entry ∈ names ++ aliases, entry.1.toList.take 4 = "TYPE".toList →
    entry.1.toList.drop 4 = ['0'] := by decide +kernel

theorem capital_digit {c : Char} (digit : c.isDigit = true) : capital c = [c] := by
  simp only [Char.isDigit, Bool.and_eq_true, decide_eq_true_eq, UInt32.le_iff_toNat_le] at digit
  have last : c.val.toNat ≤ 57 := digit.2
  have plain : c.toNat < 128 := Nat.lt_of_le_of_lt last (by decide)
  have upper : c.toUpper = c := by
    unfold Char.toUpper
    split
    · rename_i small
      have first : 97 ≤ c.val.toNat := UInt32.le_iff_toNat_le.mp small.1
      omega
    · rfl
  rw [capital, if_pos plain, upper]

theorem capital_digits {ds : List Char} (digits : ∀ c ∈ ds, c.isDigit = true) :
    ds.flatMap capital = ds := by
  induction ds with
  | nil => rfl
  | cons c cs ih =>
    obtain ⟨first, rest⟩ := List.forall_mem_cons.mp digits
    rw [List.flatMap_cons, capital_digit first, ih rest, List.singleton_append]

theorem number_toDigits (n : Nat) : number (Nat.toDigits 10 n) = n := Json.ofDigits_toDigits n

theorem ofDigits_toDigits (n : Nat) : ofDigits (Nat.toDigits 10 n) = ofCode n := by
  have filled : (Nat.toDigits 10 n).isEmpty = false := by simp
  have digits : (Nat.toDigits 10 n).all Char.isDigit = true :=
    List.all_eq_true.mpr Json.isDigit_toDigits
  simp [ofDigits, filled, digits, number_toDigits]

theorem read_numbered {n : Nat} (unnamed : ∀ entry ∈ names, entry.2 ≠ n) :
    read ("TYPE" ++ toString n) = ofCode n := by
  have letters : ("TYPE" ++ toString n).toList = 'T' :: 'Y' :: 'P' :: 'E' :: Nat.toDigits 10 n := by
    simp [String.toList_append]
  have capitals : ("TYPE" ++ toString n).toList.flatMap capital =
      'T' :: 'Y' :: 'P' :: 'E' :: Nat.toDigits 10 n := by
    rw [letters]
    simp only [List.flatMap_cons, capital_digits Json.isDigit_toDigits]
    rfl
  have positive : n ≠ 0 := fun zero => unnamed ("TYPE0", 0) (List.mem_cons_self ..) zero.symm
  have missing : (names ++ aliases).lookup
      (String.ofList ('T' :: 'Y' :: 'P' :: 'E' :: Nat.toDigits 10 n)) = none := by
    cases found : (names ++ aliases).lookup
        (String.ofList ('T' :: 'Y' :: 'P' :: 'E' :: Nat.toDigits 10 n)) with
    | none => rfl
    | some code =>
      obtain ⟨before, after, listed, _⟩ := List.lookup_eq_some_iff.mp found
      have zero := names_type _ (by rw [listed]; exact List.mem_append_right _ (List.mem_cons_self ..))
        (by simp)
      have shown : Nat.toDigits 10 n = ['0'] := by simpa using zero
      have count := number_toDigits n
      rw [shown] at count
      exact absurd count.symm positive
  unfold read
  simp only [capitals, missing, ofDigits_toDigits]

theorem read_text (t : RecordType) : read t.text = .ok t := by
  unfold text
  split
  · rename_i entry found
    have code : entry.2 = t.code.val := by simpa using List.find?_some found
    exact read_name (List.mem_of_find?_eq_some found) code
  · rename_i absent
    have unnamed : ∀ entry ∈ names, entry.2 ≠ t.code.val := by
      simpa using List.find?_eq_none.mp absent
    rw [read_numbered unnamed]
    exact ofCode_code t

end DnsSteering.RecordType
