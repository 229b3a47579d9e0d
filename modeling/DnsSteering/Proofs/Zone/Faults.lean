import DnsSteering.Proofs.Zone.Lines

namespace DnsSteering

theorem ZoneFault.toFault_syntactic (f : ZoneFault) : f.toFault.isSyntactic = true := by
  cases f with
  | name fault => cases fault <;> rfl
  | _ => rfl

theorem NameFault.syntactic_or_long (e : NameFault) :
    (Fault.name e).isSyntactic = true ∨ e = .nameTooLong := by
  cases e with
  | nameTooLong => exact .inr rfl
  | _ => exact .inl rfl

namespace Zone

-- The name of a record is a text that is too long for a name.
def LongNamed (r : Record) : Prop := ∃ s, r.name = .str s ∧ Name.read s.mended = .error .nameTooLong

-- An address record or an alias, all of texts but for a time to live that is a whole number.
structure Regular (r : Record) : Prop where
  text : r.IsText
  type : r.type = .a ∨ r.type = .cname
  targets : ∀ t ∈ r.targets, t.IsText
  ttl : ∃ n, r.ttl = .int n
  attributes : r.attributes.Textual

-- Records up to the first one that cannot be rendered, and that one is of a kind.
def StopsAt (kind : Record → Prop) (rs : List Record) : Prop :=
  ∃ before r after, rs = before ++ r :: after ∧ (∀ q ∈ before, Renderable q) ∧ kind r

section Faults

variable {r : Record} {rs : List Record} {f : Fault}

theorem owner_fault (named : r.name.IsText) (failed : Name.ofJson r.name = .error f) :
    f.isSyntactic = true ∨ (f = .name .nameTooLong ∧ LongNamed r) := by
  obtain ⟨s, given⟩ := named
  rw [given] at failed
  cases read : Name.read s.mended with
  | ok name => simp [Name.ofJson, read] at failed
  | error e =>
    simp only [Name.ofJson, read, Except.error.injEq] at failed
    rw [← failed]
    rcases e.syntactic_or_long with syntactic | long
    · exact .inl syntactic
    · rw [long] at read ⊢
      exact .inr ⟨rfl, s, given, read⟩

theorem comment_fault (failed : comment r = .error f) : f = .wrongKind := by
  unfold comment at failed
  split at failed
  · cases failed
    rfl
  · split at failed <;> cases failed

theorem data_fault {type : RecordType} {t : Json} (text : t.IsText) (failed : data type t = .error f) :
    f.isSyntactic = true := by
  obtain ⟨s, rfl⟩ := text
  cases read : Data.read type s.mended.toList with
  | ok d => simp [data, read] at failed
  | error e =>
    simp only [data, read, Except.error.injEq] at failed
    rw [← failed]
    exact e.toFault_syntactic

theorem targetLines_fault {owner : Name} {note : LooseText} {ts : List Json} (text : ∀ t ∈ ts, t.IsText)
    (failed : targetLines r owner note ts = .error f) : f.isSyntactic = true := by
  induction ts with
  | nil => cases failed
  | cons t ts ih =>
    obtain ⟨first, rest⟩ := List.forall_mem_cons.mp text
    unfold targetLines at failed
    cases made : data r.type t with
    | error e =>
      simp only [made] at failed
      cases failed
      exact data_fault first made
    | ok d =>
      cases later : targetLines r owner note ts with
      | ok ls => simp [made, later, Except.map] at failed
      | error e =>
        simp only [made, later, Except.map] at failed
        cases failed
        exact ih rest later

theorem recordLines_fault (named : r.name.IsText) (text : ∀ t ∈ r.targets, t.IsText)
    (failed : recordLines r = .error f) :
    f.isSyntactic = true ∨ (f = .name .nameTooLong ∧ LongNamed r) ∨
      (f = .wrongKind ∧ comment r = .error .wrongKind) := by
  unfold recordLines at failed
  cases owned : Name.ofJson r.name with
  | error e =>
    simp only [owned] at failed
    cases failed
    rcases owner_fault named owned with syntactic | long
    · exact .inl syntactic
    · exact .inr (.inl long)
  | ok owner =>
    cases noted : comment r with
    | error e =>
      simp only [owned, noted] at failed
      cases failed
      have kind := comment_fault noted
      exact .inr (.inr ⟨kind, by rw [← kind]⟩)
    | ok note =>
      simp only [owned, noted] at failed
      exact .inl (targetLines_fault text failed)

theorem LongNamed.fault (long : LongNamed r) : recordLines r = .error (.name .nameTooLong) := by
  obtain ⟨s, given, read⟩ := long
  simp [recordLines, given, Name.ofJson, read]

-- A name that is too long is never said of a target.
theorem recordLines_long (named : r.name.IsText) (text : ∀ t ∈ r.targets, t.IsText) :
    recordLines r = .error (.name .nameTooLong) ↔ LongNamed r := by
  refine ⟨fun failed => ?_, LongNamed.fault⟩
  rcases recordLines_fault named text failed with syntactic | ⟨_, long⟩ | ⟨other, _⟩
  · cases syntactic
  · exact long
  · cases other

-- Lines are rendered one record after the other, and the first that fails says how they fail.
theorem lines_fault : lines rs = .error f ↔ StopsAt (fun r => recordLines r = .error f) rs := by
  induction rs with
  | nil => simp [StopsAt, lines]
  | cons r rs ih =>
    unfold StopsAt at ih ⊢
    rw [stops_cons, ← ih, ← recordLines_renderable]
    cases first : recordLines r with
    | error e => simp [lines, first]
    | ok ls => cases rest : lines rs <;> simp [lines, first, rest, Except.map]

end Faults
end Zone
end DnsSteering
