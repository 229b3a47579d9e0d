import DnsSteering.Proofs.Address.Ipv6
import DnsSteering.Proofs.Zone.Tokens
import DnsSteering.Zone.Data

namespace DnsSteering.Zone

-- Characters that part tokens or escape one another. Nothing else does.
def special : List Char := ['\n', '\r', ' ', '\t', ';', '(', ')', '"', '\\']

theorem special_notMem {c : Char} (other : c ∉ special) :
    Token.isDelimiter c = false ∧ c ≠ '\\' := by
  simp only [special, List.mem_cons, List.not_mem_nil, or_false, not_or] at other
  simp [Token.isDelimiter, Token.isBreak, other]

structure IsWord (cs : List Char) : Prop where
  some : cs ≠ []
  plain : ∀ c ∈ cs, Token.isDelimiter c = false ∧ c ≠ '\\'

section Words

variable {cs : List Char}

theorem Token.readIdentifier_append {front : List Char}
    (plain : ∀ c ∈ front, isDelimiter c = false ∧ c ≠ '\\') (cs : List Char) :
    readIdentifier (front ++ cs) = (readIdentifier cs).map fun r => (front ++ r.1, r.2) := by
  induction front with
  | nil =>
    rw [List.nil_append]
    cases readIdentifier cs <;> rfl
  | cons c front ih =>
    obtain ⟨inside, noEscape⟩ := plain c (List.mem_cons_self ..)
    have rest := ih fun d listed => plain d (List.mem_cons_of_mem _ listed)
    rw [List.cons_append, readIdentifier_cons noEscape inside, rest]
    cases readIdentifier cs <;> rfl

theorem Token.next_append {front : List Char} (word : IsWord front) (cs : List Char) :
    next false 0 (front ++ cs) =
      (readIdentifier cs).map fun r => ⟨.identifier (front ++ r.1), 0, r.2⟩ := by
  obtain ⟨c, more, rfl⟩ := List.exists_cons_of_ne_nil word.some
  have inside := (word.plain c (List.mem_cons_self ..)).1
  have read := readIdentifier_append word.plain cs
  rw [List.cons_append] at read ⊢
  rw [next_inside inside, read]
  cases readIdentifier cs <;> rfl

theorem Data.unescape_append {front : List Char} (plain : ∀ c ∈ front, c ≠ '\\') (cs : List Char) :
    unescape (front ++ cs) = (unescape cs).map (front ++ ·) := by
  induction front with
  | nil =>
    rw [List.nil_append]
    cases unescape cs <;> rfl
  | cons c front ih =>
    have noEscape := plain c (List.mem_cons_self ..)
    have rest := ih fun d listed => plain d (List.mem_cons_of_mem _ listed)
    rw [List.cons_append, unescape]
    · rw [rest]
      cases unescape cs <;> rfl
    · rintro rfl
      exact absurd rfl noEscape
    · rintro d more rfl
      exact absurd rfl noEscape

theorem Data.read_word (word : IsWord cs) (type : RecordType) : read type cs = readValue type cs := by
  have found := Token.next_append word []
  rw [List.append_nil] at found
  simp only [read, found, Token.readIdentifier, Except.map, List.append_nil]
  cases readValue type cs <;> rfl

theorem Data.read_alias (word : IsWord cs) {d : Data} :
    read .cname cs = .ok d ↔ ∃ name, Name.ofChars cs = .ok name ∧ d = .alias name := by
  have other : RecordType.cname ≠ RecordType.a := by decide
  rw [read_word word]
  simp only [readValue, other, if_false, if_true, readAlias]
  cases Name.ofChars cs <;> simp [eq_comm]

theorem Data.read_octets {octets : List Nat} (made : Ipv4.octets? cs = some octets) :
    read .a cs = .ok (.address octets) := by
  have plain : ∀ c ∈ cs, Token.isDelimiter c = false ∧ c ≠ '\\' := by
    have strange : ∀ d ∈ special, ¬ (d.isDigit = true ∨ d = '.') := Text.forall_of_all (by decide)
    intro c listed
    exact special_notMem fun member => strange c member (Ipv4.octets?_chars made c listed)
  have some : cs ≠ [] := by
    rintro rfl
    cases made
  have unescaped := unescape_append (fun c listed => (plain c listed).2) []
  rw [List.append_nil] at unescaped
  simp [read_word ⟨some, plain⟩, readValue, readAddress, unescaped, unescape, Except.map, made]

-- The token of an IPv6 address holds its first colon.
theorem Data.read_ipv6 (valid : Ipv6.isValid cs = true) (d : Data) : read .a cs ≠ .ok d := by
  obtain ⟨front, rest, rfl, digits⟩ := Ipv6.isValid_front valid
  have word : IsWord (front ++ [':']) := by
    refine ⟨by simp, ?_⟩
    have strange : ∀ d ∈ special, (Text.hexValue? d).isSome = false :=
      Text.forall_of_all (by decide)
    intro c listed
    rcases List.mem_append.mp listed with digit | colon
    · refine special_notMem fun member => ?_
      have none := strange c member
      rw [digits c digit] at none
      cases none
    · rw [List.mem_singleton.mp colon]
      decide
  have split : front ++ ':' :: rest = front ++ [':'] ++ rest := by simp
  have malformed : ∀ more, Ipv4.octets? (front ++ [':'] ++ more) = none := by
    intro more
    cases made : Ipv4.octets? (front ++ [':'] ++ more) with
    | none => rfl
    | some octets => exact absurd (Ipv4.octets?_chars made ':' (by simp)) (by decide)
  intro done
  rw [split, read, Token.next_append word] at done
  cases token : Token.readIdentifier rest with
  | error f => simp [token, Except.map] at done
  | ok r =>
    have unescaped := unescape_append (fun c listed => (word.plain c listed).2) r.1
    simp only [token, Except.map, readValue, if_true, readAddress, unescaped] at done
    cases more : unescape r.1 with
    | error f => simp [more] at done
    | ok more' =>
      rw [more] at done
      dsimp only at done
      rw [malformed more'] at done
      cases done

end Words
end DnsSteering.Zone
