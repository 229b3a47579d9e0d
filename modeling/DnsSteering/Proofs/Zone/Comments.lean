import DnsSteering.Proofs.Order
import DnsSteering.Proofs.Records.Exchange
import DnsSteering.Zone.Line

namespace DnsSteering

theorem Number.less_self (x : Number) : x.less x = false := by
  unfold less
  cases x.standing <;> simp

mutual
theorem Json.less?_self : ∀ v : Json, v.less? v ≠ some true
  | .null => by simp [less?, number?]
  | .bool _ => by simp [less?, number?, Number.less_self]
  | .int _ => by simp [less?, number?, Number.less_self]
  | .float _ => by simp [less?, number?, Number.less_self]
  | .str _ => by simp [less?]
  | .arr items => by simpa [less?] using lessItems?_self items
  | .obj _ => by simp [less?, number?]
theorem Json.lessItems?_self : ∀ items : List Json, lessItems? items items ≠ some true
  | [] => by simp [lessItems?]
  | v :: vs => by
    unfold lessItems?
    split
    · exact lessItems?_self vs
    · exact less?_self v
end

namespace Zone

-- What a comment says about a record.
structure Notes (r : Record) (note : LooseText) : Prop where
  bare : note = "" ↔ r.identifier.truthy = false ∧ r.attributes = []
  listed : note ≠ "" → ∃ attributes : List (LooseText × Json),
    (attributes.map fun e => (Json.str e.1, e.2)).Perm r.attributes ∧
    attributes.Pairwise (fun e f => e.1 < f.1) ∧
    note = .plain " ; " ++ LooseText.intercalate " "
      ((if r.identifier.truthy then [.plain "set-identifier=" ++ r.identifier.display] else []) ++
        attributes.map fun e => e.1 ++ .plain "=" ++ e.2.display)

section Sorting

variable {es : Entries} (named : es.Named)

include named

theorem lessEntry?_named {e f : Json × Json} (one : e ∈ es) (two : f ∈ es) :
    ( lessEntry? e f).getD false = decide (e.1.textOf < f.1.textOf) := by
  obtain ⟨s, keyed⟩ := named.texts e one
  obtain ⟨t, keyed'⟩ := named.texts f two
  by_cases same : s = t
  · have equal : e = f := by
      refine List.inj_on_of_nodup_map named.once one two ?_
      rw [keyed, keyed', same]
    have notLess := Json.less?_self f.2
    subst equal
    cases answer : e.2.less? e.2 with
    | none => simp [ lessEntry?, keyed, Json.same, answer]
    | some b =>
      cases b with
      | true => exact absurd answer notLess
      | false => simp [ lessEntry?, keyed, Json.same, answer]
  · simp [ lessEntry?, keyed, keyed', Json.same, same, Json.less?, Json.textOf]

theorem sort_named : ∃ sorted, Order.sort? (fun e => e.1.isOrderly) lessEntry? es = some sorted ∧
    sorted.Perm es ∧ sorted.Pairwise fun e f => e.1.textOf < f.1.textOf := by
  have apart : es.Pairwise fun e f => e.1 ≠ f.1 := List.pairwise_map.mp named.once
  have compared : es.Pairwise fun e f => ( lessEntry? e f).isSome = true := by
    refine apart.imp_of_mem ?_
    intro e f one two other
    obtain ⟨s, keyed⟩ := named.texts e one
    obtain ⟨t, keyed'⟩ := named.texts f two
    have names : s ≠ t := by
      rintro rfl
      exact other (keyed.trans keyed'.symm)
    simp [ lessEntry?, keyed, keyed', Json.same, names, Json.less?]
  obtain ⟨sorted, done, perm, ascending⟩ := Order.sort?_pairwise (fun e : Json × Json => e.1.textOf)
    (fun e member => (named.texts e member).isOrderly) compared
    fun e one f two => lessEntry?_named named one two
  refine ⟨sorted, done, perm, ?_⟩
  -- No name stands twice, so what ascends, ascends strictly.
  have others := perm.symm.pairwise apart fun other => Ne.symm other
  refine (ascending.and others).imp_of_mem ?_
  intro e f one two facts
  refine lt_of_le_of_ne facts.1 fun same => facts.2 ?_
  rw [← (named.texts e (perm.mem_iff.mp one)).str_textOf,
    ← (named.texts f (perm.mem_iff.mp two)).str_textOf, same]

end Sorting

theorem comment_notes {r : Record} (named : r.attributes.Named) :
    ∃ note, comment r = .ok note ∧ Notes r note := by
  obtain ⟨sorted, ordered, perm, ascending⟩ := sort_named named
  have texts : ∀ e ∈ sorted, e.1.IsText := fun e member => named.texts e (perm.mem_iff.mp member)
  have spelled : (sorted.map fun e => (e.1.textOf, e.2)).map (fun e => (Json.str e.1, e.2)) = sorted := by
    rw [List.map_map]
    refine (List.map_congr_left fun e member => ?_).trans (List.map_id sorted)
    exact Prod.ext (texts e member).str_textOf rfl
  have shown : sorted.map attributeText =
      (sorted.map fun e => (e.1.textOf, e.2)).map fun e => e.1 ++ .plain "=" ++ e.2.display := by
    rw [List.map_map]
    refine List.map_congr_left fun e member => ?_
    obtain ⟨s, keyed⟩ := texts e member
    simp [attributeText, keyed, Json.display, Json.textOf]
  simp only [comment, ordered]
  cases parts : commentParts r sorted with
  | nil =>
    refine ⟨"", rfl, ?_, fun some => absurd rfl some⟩
    simp only [commentParts, List.append_eq_nil_iff, List.map_eq_nil_iff] at parts
    obtain ⟨unset, rfl⟩ := parts
    simpa [List.nil_perm.mp perm] using unset
  | cons part more =>
    have filled : .plain " ; " ++ LooseText.intercalate " " (part :: more) ≠ "" := by
      intro empty
      have none := congrArg LooseText.letters empty
      simp at none
    refine ⟨.plain " ; " ++ LooseText.intercalate " " (part :: more), rfl, ?_, fun _ => ?_⟩
    · refine iff_of_false filled ?_
      rintro ⟨unset, none⟩
      rw [none] at perm
      simp [commentParts, unset, List.perm_nil.mp perm] at parts
    · have names : (sorted.map fun e => (e.1.textOf, e.2)).Pairwise fun e f => e.1 < f.1 :=
        List.pairwise_map.mpr ascending
      refine ⟨sorted.map fun e => (e.1.textOf, e.2), by rwa [spelled], names, ?_⟩
      rw [← shown, ← parts]
      rfl

theorem comment_named {r : Record} (named : r.attributes.Named) : ∃ text, comment r = .ok text := by
  obtain ⟨note, noted, _⟩ := comment_notes named
  exact ⟨note, noted⟩

end Zone
end DnsSteering
