import DnsSteering.CommandLine.Run
import DnsSteering.Proofs.Zone.Faults
import DnsSteering.Proofs.Zone.Layout

namespace DnsSteering

-- A text that stays on one line. Half of a pair breaks none.
def Unbroken (t : LooseText) : Prop := ∀ c ∈ t.mended.toList, Zone.Token.isBreak c = false

instance (t : LooseText) : Decidable (Unbroken t) :=
  decidable_of_iff ((t.mended.toList.all fun c => !Zone.Token.isBreak c) = true) (by simp [Unbroken])

theorem unbroken_append {t u : LooseText} : Unbroken (t ++ u) ↔ Unbroken t ∧ Unbroken u := by
  simp only [Unbroken, LooseText.mended_append, String.toList_append, List.forall_mem_append]

theorem unbroken_intercalate {separator : LooseText} (parted : Unbroken separator)
    (parts : List LooseText) :
    Unbroken (LooseText.intercalate separator parts) ↔ ∀ p ∈ parts, Unbroken p := by
  induction parts with
  | nil => simp [LooseText.intercalate, Unbroken]
  | cons p parts ih =>
    cases parts with
    | nil => simp [LooseText.intercalate]
    | cons q more =>
      rw [LooseText.intercalate, unbroken_append, unbroken_append, ih, and_iff_left parted,
        List.forall_mem_cons (a := p)]
      exact List.cons_ne_nil _ _

theorem Visible.unbroken {cs : List Char} (visible : Visible cs) :
    ∀ c ∈ cs, Zone.Token.isBreak c = false := fun c listed => (visible c listed).noBreak

namespace Zone

section Comment

variable {r : Record} {note : LooseText}

theorem Notes.unbroken (notes : Notes r note) (text : r.identifier.IsText) :
    Unbroken note ↔ Unbroken r.identifier.display ∧
      ∀ e ∈ r.attributes, Unbroken e.1.display ∧ Unbroken e.2.display := by
  obtain ⟨s, identified⟩ := text
  have unset : r.identifier.truthy = false → Unbroken r.identifier.display := by
    intro untrue
    have empty : s = "" := by simpa [identified, Json.truthy] using untrue
    simp [identified, Json.display, empty, Unbroken]
  by_cases none : note = ""
  · obtain ⟨untrue, nothing⟩ := notes.bare.mp none
    have clear : Unbroken note := by
      rw [none]
      decide
    simpa [nothing, unset untrue] using clear
  · obtain ⟨attributes, perm, _, written⟩ := notes.listed none
    have listed : (∀ e ∈ r.attributes, Unbroken e.1.display ∧ Unbroken e.2.display) ↔
        ∀ e ∈ attributes, Unbroken e.1 ∧ Unbroken e.2.display := by
      simp only [← perm.mem_iff, List.forall_mem_map, Json.display]
    have equals : Unbroken "=" := by decide
    have entry : ∀ e : LooseText × Json, Unbroken (e.1 ++ .plain "=" ++ e.2.display) ↔
        Unbroken e.1 ∧ Unbroken e.2.display := fun e => by
      rw [unbroken_append, unbroken_append, and_iff_left equals]
    have start : Unbroken "set-identifier=" := by decide
    rw [written, unbroken_append, unbroken_intercalate (by decide), and_iff_right (by decide),
      List.forall_mem_append, List.forall_mem_map, listed]
    simp only [entry]
    cases set : r.identifier.truthy with
    | false => simp [unset set]
    | true => simp [unbroken_append, start]

end Comment

section Line

variable {r : Record} {ls : List LooseText}

-- What stands in front of a comment is on one line.
theorem line_unbroken (regular : Regular r) {owner : Name} {note : LooseText} {d : Data} :
    Unbroken (line r owner note d) ↔ Unbroken note := by
  obtain ⟨n, whole⟩ := regular.ttl
  have time : Visible r.ttl.display.mended.toList := by
    rw [whole]
    exact visible_whole n
  have type : Unbroken r.type.text := by
    rcases regular.type with address | aliased
    · rw [address]
      decide
    · rw [aliased]
      decide
  have blank : Token.isBreak ' ' = false := by decide
  have word : Unbroken "IN" := by decide
  rw [Unbroken, toList_line]
  simp only [List.forall_mem_append, List.forall_mem_cons]
  exact ⟨fun every => every.2.2.2.2.2.2.2.2.2, fun unbroken => ⟨owner.text_visible.unbroken, blank,
    time.unbroken, blank, word, blank, type, blank, d.text_visible.unbroken, unbroken⟩⟩

-- There is a line for each target, and it is broken by nothing else than what the comment says.
theorem recordLines_unbroken (regular : Regular r) (done : recordLines r = .ok ls) :
    ls.length = r.targets.length ∧
      ((∀ l ∈ ls, Unbroken l) ↔ r.targets = [] ∨ (Unbroken r.identifier.display ∧
        ∀ e ∈ r.attributes, Unbroken e.1.display ∧ Unbroken e.2.display)) := by
  obtain ⟨owner, note, _, noted, targets⟩ := recordLines_ok.mp done
  obtain ⟨_, noted', notes⟩ := comment_notes regular.attributes.isNamed
  cases Except.ok.inj (noted'.symm.trans noted)
  have said := notes.unbroken regular.text.identifier
  have counted := (targetLines_ok.mp targets).length_eq
  have none : ls = [] ↔ r.targets = [] := by
    rw [← List.length_eq_zero_iff, ← counted, List.length_eq_zero_iff]
  have shaped : ∀ l ∈ ls, (Unbroken l ↔ Unbroken note) := by
    intro l listed
    obtain ⟨d, rfl⟩ := targetLines_line targets l listed
    exact line_unbroken regular
  refine ⟨counted.symm, ?_⟩
  rw [← said, ← none]
  constructor
  · intro every
    cases ls with
    | nil => exact .inl rfl
    | cons l more =>
      have first : l ∈ l :: more := List.mem_cons_self ..
      exact .inr ((shaped l first).mp (every l first))
  · rintro (nothing | unbroken) l listed
    · rw [nothing] at listed
      cases listed
    · exact (shaped l listed).mpr unbroken

end Line

-- A label for the geography with a record of its own in the second line.
def forgedLabel : String := "IE\nevil.x. 60 IN A 192.0.2.66 ;"

-- What is published for it. Of the target, what follows the break is left unread.
def forged : Record :=
  ⟨.str "klb.app.x", .cname, [.str "ie\nevil.x. 60 in a 192.0.2.66 ;.klb.app.x"], .int 300,
    .str forgedLabel, [(.str "geo-code", .str forgedLabel)], []⟩

theorem forged_regular : Regular forged := by
  refine ⟨⟨⟨_, rfl⟩, ⟨_, rfl⟩⟩, .inr rfl, ?_, ⟨300, rfl⟩, ?_⟩
  · intro t member
    cases List.mem_singleton.mp member
    exact ⟨_, rfl⟩
  · exact ⟨List.forall_mem_singleton.mpr ⟨⟨_, rfl⟩, ⟨_, rfl⟩⟩, List.nodup_singleton _⟩

theorem forged_lines : recordLines forged = .ok [
    "klb.app.x. 300 IN CNAME ie. ; set-identifier=IE\nevil.x. 60 IN A 192.0.2.66 ; " ++
      "geo-code=IE\nevil.x. 60 IN A 192.0.2.66 ;"] := by decide +kernel

theorem forged_unbroken : Regular forged ∧ ∃ ls, recordLines forged = .ok ls ∧
    ls.length = 1 ∧ ((∀ l ∈ ls, Unbroken l) ↔ forged.targets = [] ∨
      (Unbroken forged.identifier.display ∧
        ∀ e ∈ forged.attributes, Unbroken e.1.display ∧ Unbroken e.2.display)) :=
  ⟨forged_regular, _, forged_lines, recordLines_unbroken forged_regular forged_lines⟩

end Zone

-- A break in a label of the gateway puts a record in the zone that nobody published.
theorem forged_breaks : (¬ ∀ r ls, Zone.Regular r → Zone.recordLines r = .ok ls →
      ls.length = r.targets.length ∧ ∀ l ∈ ls, Unbroken l) ∧
    ∃ before after, (CommandLine.run (Zone.locatedWords "IE\\nevil.x. 60 IN A 192.0.2.66 ;")).ending =
      .printed (before ++ "\nevil.x. 60 IN A 192.0.2.66 ;" ++ after) := by
  constructor
  · intro every
    have unbroken := (every Zone.forged _ Zone.forged_regular Zone.forged_lines).2 _
      (List.mem_singleton.mpr rfl)
    revert unbroken
    decide +kernel
  · refine ⟨"app.x. 300 IN CNAME klb.app.x.\n" ++
      "ie\\010evil.x.\\03260\\032in\\032a\\032192.0.2.66\\032\\;.klb.app.x. 60 IN CNAME edge.x. " ++
      "; set-identifier=edge.x weight=120\n" ++ "klb.app.x. 300 IN CNAME ie. ; set-identifier=IE",
      " geo-code=IE\nevil.x. 60 IN A 192.0.2.66 ;\n", ?_⟩
    decide +kernel

end DnsSteering
