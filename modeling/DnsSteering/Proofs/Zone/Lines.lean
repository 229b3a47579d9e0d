import DnsSteering.Proofs.Zone.Comments
import Mathlib.Data.List.Forall2

namespace DnsSteering.Zone

-- All parts of a record can be written.
structure Renderable (r : Record) : Prop where
  owner : ∃ owner, Name.ofJson r.name = .ok owner
  comment : ∃ text, comment r = .ok text
  data : ∀ t ∈ r.targets, ∃ d, data r.type t = .ok d

-- The line of a record and one of its targets.
def Rendered (target : Record × Json) (text : LooseText) : Prop :=
  ∃ owner note d, Name.ofJson target.1.name = .ok owner ∧ comment target.1 = .ok note ∧
    data target.1.type target.2 = .ok d ∧ text = line target.1 owner note d

section Lines

variable {r : Record} {rs : List Record} {ls : List LooseText}

theorem targetLines_ok {owner : Name} {note : LooseText} {ts : List Json} :
    targetLines r owner note ts = .ok ls ↔
      List.Forall₂ (fun t l => ∃ d, data r.type t = .ok d ∧ l = line r owner note d) ts ls := by
  induction ts generalizing ls with
  | nil => simp [targetLines, eq_comm]
  | cons t ts ih =>
    rw [targetLines, List.forall₂_cons_left_iff]
    cases made : data r.type t with
    | error f => simp
    | ok d =>
      constructor
      · intro done
        obtain ⟨more, rest, rfl⟩ := ok_of_map done
        exact ⟨_, more, ⟨d, rfl, rfl⟩, ih.mp rest, rfl⟩
      · rintro ⟨l, more, ⟨d', same, rfl⟩, rest, rfl⟩
        cases same
        simp [ih.mpr rest, Except.map]

theorem targetLines_line {owner : Name} {note : LooseText} {ts : List Json}
    (done : targetLines r owner note ts = .ok ls) : ∀ l ∈ ls, ∃ d, l = line r owner note d := by
  have each := targetLines_ok.mp done
  clear done
  induction each with
  | nil => simp
  | cons first _ ih =>
    obtain ⟨d, _, written⟩ := first
    exact List.forall_mem_cons.mpr ⟨⟨d, written⟩, ih⟩

theorem recordLines_ok : recordLines r = .ok ls ↔
    ∃ owner note, Name.ofJson r.name = .ok owner ∧ comment r = .ok note ∧
      targetLines r owner note r.targets = .ok ls := by
  unfold recordLines
  cases Name.ofJson r.name with
  | error f => simp
  | ok owner => cases comment r <;> simp

theorem recordLines_renderable : (∃ ls, recordLines r = .ok ls) ↔ Renderable r := by
  constructor
  · rintro ⟨ls, done⟩
    obtain ⟨owner, note, named, noted, targets⟩ := recordLines_ok.mp done
    refine ⟨⟨owner, named⟩, ⟨note, noted⟩, ?_⟩
    intro t member
    obtain ⟨i, inside, rfl⟩ := List.mem_iff_getElem.mp member
    have each := targetLines_ok.mp targets
    obtain ⟨d, made, _⟩ := List.forall₂_iff_get.mp each |>.2 i inside (by rwa [← each.length_eq])
    exact ⟨d, made⟩
  · rintro ⟨⟨owner, named⟩, ⟨note, noted⟩, data⟩
    have targets : ∀ ts : List Json, (∀ t ∈ ts, ∃ d, Zone.data r.type t = .ok d) →
        ∃ ls, targetLines r owner note ts = .ok ls := by
      intro ts each
      induction ts with
      | nil => exact ⟨[], rfl⟩
      | cons t ts ih =>
        obtain ⟨d, made⟩ := each t (List.mem_cons_self ..)
        obtain ⟨more, rest⟩ := ih fun t listed => each t (List.mem_cons_of_mem _ listed)
        exact ⟨line r owner note d :: more, by simp [targetLines, made, rest, Except.map]⟩
    obtain ⟨ls, done⟩ := targets r.targets data
    exact ⟨ls, recordLines_ok.mpr ⟨owner, note, named, noted, done⟩⟩

theorem lines_renderable : (∃ ls, lines rs = .ok ls) ↔ ∀ r ∈ rs, Renderable r := by
  induction rs with
  | nil => simp [lines]
  | cons r rs ih =>
    rw [List.forall_mem_cons, ← ih, ← recordLines_renderable, lines]
    cases recordLines r with
    | error f => simp
    | ok ls => cases lines rs <;> simp [Except.map]

theorem recordLines_each (done : recordLines r = .ok ls) :
    List.Forall₂ Rendered (r.targets.map fun t => (r, t)) ls := by
  obtain ⟨owner, note, named, noted, targets⟩ := recordLines_ok.mp done
  rw [List.forall₂_map_left_iff]
  refine (targetLines_ok.mp targets).imp ?_
  rintro t l ⟨d, made, written⟩
  exact ⟨owner, note, d, named, noted, made, written⟩

theorem lines_each (done : lines rs = .ok ls) :
    List.Forall₂ Rendered (rs.flatMap fun r => r.targets.map fun t => (r, t)) ls := by
  induction rs generalizing ls with
  | nil =>
    cases done
    exact .nil
  | cons r rs ih =>
    rw [lines] at done
    cases first : recordLines r with
    | error f => simp [first] at done
    | ok here =>
      simp only [first] at done
      obtain ⟨more, rest, rfl⟩ := ok_of_map done
      exact List.rel_append (recordLines_each first) (ih rest)

end Lines
end DnsSteering.Zone
