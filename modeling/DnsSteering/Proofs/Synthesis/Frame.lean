import DnsSteering.Proofs.Synthesis.Bystanders
import DnsSteering.Proofs.Synthesis.Delivery

namespace DnsSteering

namespace Plan

-- What is no longer pending was given out.
structure Handed (start l : Ledger) : Prop where
  sound : l.Sound
  handed : ∀ h ∈ start.pending, h ∈ l.pending ∨ h.2 ∈ l.emittedIds

theorem Handed.step {start l after : Ledger} {e : Emission} {id : Nat} {r : Record}
    (handed : Handed start l) (answered : l.Answered e.request after id)
    (there : after.records[id]? = some (e.request.renew r)) :
    Handed start { after with records := after.records.set id (e.imprint r) } := by
  refine ⟨(answered.sound handed.sound).replace there rfl, ?_⟩
  intro h listed
  cases handed.handed h listed with
  | inl waiting =>
    cases answered.pending_left waiting with
    | inl still => exact .inl still
    | inr number =>
      rw [number]
      exact .inr (List.mem_map_of_mem answered.held)
  | inr given =>
    obtain ⟨k, held, number⟩ := List.mem_map.mp given
    exact .inr (number ▸ List.mem_map_of_mem (answered.emitted_old held))

theorem runActs_handed {start : Ledger} {acts : List Act} (sound : start.Sound)
    (fit : ∀ e ∈ emissions acts, e.Fit) :
    ∃ after log, runActs start acts = (after, none, log) ∧ Handed start after :=
  runActs_preserves (I := Handed start) (fun _ fit => fit) (fun handed => handed.sound)
    (fun _ handed answered there => handed.step answered there)
    ⟨sound, fun _ held => .inl held⟩ fit

end Plan

namespace Synthesis

-- What stays of a record that is published again. Attributes keep their places, and new ones follow.
structure Continued (r after : Record) : Prop where
  name : after.name = r.name
  identifier : after.identifier = r.identifier
  labels : after.labels = r.labels
  keys : Entries.keys r.attributes <+: Entries.keys after.attributes
  others : ∀ key, key ≠ .str "weight" → key ≠ .str "geo-code" →
    Entries.value? key after.attributes = Entries.value? key r.attributes

section Frame

variable {p : Policy} {g : Gateway} {hostname : LooseText} {base : String} {es : List Emission}

theorem keys_grown {k : Json} (text : k.IsText) (value : Json) (entries : Entries) :
    Entries.keys entries <+: Entries.keys (entries.set k value) := by
  rw [Entries.keys_set text]
  split
  · exact List.prefix_refl _
  · exact List.prefix_append _ _

theorem imprintAll_continued (labels : TextLabels g.labels) (emits : EmitsDue p g hostname base es)
    (s : Slot) (r : Record) : Continued r (Emission.imprintAll s es r) := by
  have fit : ∀ e ∈ es, e.Fit := by
    intro e member
    obtain ⟨row, marks, due, rfl⟩ := (emits e).mp member
    exact due.fit labels
  have printed := Emission.imprintAll_imprinted s es r
  refine ⟨printed.name, printed.identifier, printed.labels, ?_, ?_⟩
  · refine Emission.imprintAll_attributes
      (P := fun entries => Entries.keys r.attributes <+: Entries.keys entries) ?_ (List.prefix_refl _)
    intro e member m mark entries grown
    exact grown.trans (keys_grown ((fit e member).marks m mark) m.2 entries)
  · intro key notWeight notGeo
    rcases Emission.value?_imprintAll fit s key r with ⟨v, marked, _⟩ | ⟨_, same⟩
    · obtain ⟨row, marks, due, _, mark⟩ := (marks_iff emits).mp marked
      rcases due.mark_cases mark with ⟨weight, _⟩ | ⟨geo, _⟩
      · exact absurd weight notWeight
      · exact absurd geo notGeo
    · exact same

-- A record from the start of a plan's run, at its end.
theorem progress_frames (labels : TextLabels g.labels) (emits : EmitsDue p g hostname base es)
    {start l : Ledger} (progress : Plan.Progress start es l) {id : Nat} {r : Record}
    (there : start.records[id]? = some r) :
    ∃ after, l.records[id]? = some after ∧ (id ∉ l.emittedIds → after = r) ∧
      (id ∈ l.emittedIds → (∃ s, (s, id) ∈ start.pending) ∧ Continued r after) := by
  have bound : id < start.records.length := (List.getElem?_eq_some_iff.mp there).1
  by_cases emitted : id ∈ l.emittedIds
  · obtain ⟨h, held, rfl⟩ := List.mem_map.mp emitted
    obtain ⟨origin, source, now⟩ := progress.drawn h held
    refine ⟨_, now, fun left => absurd emitted left, fun _ => ?_⟩
    cases source with
    | waiting t pending was =>
      cases Option.some.inj (was.symm.trans there)
      exact ⟨⟨t, pending⟩, imprintAll_continued labels emits _ _⟩
    | blank fresh _ => exact absurd bound (Nat.not_lt.mpr fresh)
  · exact ⟨r, (progress.kept id bound emitted).trans there, fun _ => rfl,
      fun given => absurd given emitted⟩

theorem publish_frames_text {records : List Record} {current ids : List Nat}
    (labels : TextLabels g.labels) (text : AllText records current)
    (done : (publish g (.str hostname) p records (some current)).published = .ok ids) :
    (∀ id r, records[id]? = some r →
      ∃ after, (publish g (.str hostname) p records (some current)).records[id]? = some after ∧
        (id ∉ ids → after = r) ∧ (id ∈ ids → id ∈ current ∧ Continued r after)) ∧
    ∃ base start, listenerBase (.str hostname) = .ok base ∧
      Ledger.opening records current = .ok start ∧
      ∀ h ∈ start.pending, h ∉ ((plan p g (.str hostname) base).run start).1.pending → h.2 ∈ ids := by
  obtain ⟨base, left, accepted, sound⟩ := publish_parts done
  have fit := plan_fit labels sound
  obtain ⟨start, opened, startSound, none, same, waiting⟩ := Ledger.opening_sound text
  obtain ⟨l, log, ran, progress⟩ :=
    Plan.runActs_progress startSound (Plan.opening_progress startSound none) fit
  obtain ⟨l', log', ran', handed⟩ := Plan.runActs_handed startSound fit
  cases ran.symm.trans ran'
  rw [List.nil_append] at progress
  have final : (plan p g (.str hostname) base).run start = (l, .none, log) := by
    simp [Plan.run, ran, sound]
  have shown : (publish g (.str hostname) p records (some current)).records = l.records := by
    simp [publish, left, accepted, opened, carryOut, final]
  have perm : ids.Perm l.emittedIds := emitted_perm progress fit (by
    simpa [publish, left, accepted, opened, carryOut, final] using done)
  rw [shown]
  refine ⟨?_, base, start, left, opened, ?_⟩
  · intro id r there
    rw [← same] at there
    obtain ⟨after, now, unnamed, given⟩ :=
      progress_frames labels (plan_emissions labels sound) progress there
    refine ⟨after, now, fun unlisted => unnamed (mt perm.mem_iff.mpr unlisted), fun listed => ?_⟩
    obtain ⟨⟨s, pending⟩, continued⟩ := given (perm.mem_iff.mp listed)
    exact ⟨waiting _ pending, continued⟩
  · intro h pending taken
    rw [final] at taken
    exact perm.mem_iff.mpr ((handed.handed h pending).resolve_left taken)

end Frame

-- A record is published or stays as it was, and what was taken from the pending ones is published.
theorem publish_frames {g : Gateway} {hostname : LooseText} {p : Policy} {records : List Record}
    {current ids : List Nat} (labels : TextLabels g.labels)
    (done : (publish g (.str hostname) p records (some current)).published = .ok ids) :
    (∀ id r, records[id]? = some r →
      ∃ after, (publish g (.str hostname) p records (some current)).records[id]? = some after ∧
        (id ∉ ids → after = r) ∧ (id ∈ ids → id ∈ current ∧ Continued r after)) ∧
    -- What the plan takes from the pending records is published.
    ∃ base start, listenerBase (.str hostname) = .ok base ∧
      Ledger.opening records current = .ok start ∧
      ∀ h ∈ start.pending, h ∉ ((plan p g (.str hostname) base).run start).1.pending → h.2 ∈ ids := by
  obtain ⟨start, opened⟩ := publish_opened done
  rw [publish_textual labels opened] at done ⊢
  obtain ⟨kept, base, texts, left, openedTexts, handed⟩ :=
    publish_frames_text labels (filter_allText records current) done
  cases Except.ok.inj (openedTexts.symm.trans (Ledger.opening_textual opened))
  refine ⟨fun id r there => ?_, base, start, left, opened, fun h waiting taken => ?_⟩
  · obtain ⟨after, now, unnamed, given⟩ := kept id r there
    exact ⟨after, now, unnamed, fun listed =>
      ⟨(List.mem_filter.mp (given listed).1).1, (given listed).2⟩⟩
  · -- What is no text stays pending, so what was taken is a text and was taken among the texts.
    have plain : ∀ e ∈ Plan.emissions (plan p g (.str hostname) base).acts, Plan.Plain e :=
      plan_plain labels (listenerBase_kind left)
    have text : h.1.isText = true := by
      by_contra other
      rw [Plan.run_ledger] at taken
      exact taken (Plan.runActs_spares plain waiting other)
    refine handed h (List.mem_filter.mpr ⟨waiting, text⟩) fun still => taken ?_
    rw [Plan.run_textual plain] at still
    exact (List.mem_filter.mp still).1

-- Two records for the entry, of which the later one is published again with what was added to it.
def crowded : List Record := misplaced ++ [
  ⟨.str "*.x", .cname, [.str "old.x"], .int 300, .str "", [], [(.str "id", .str "one")]⟩,
  ⟨.str "*.x", .cname, [.str "old.x"], .int 300, .str "", [(.str "note", .str "n")],
    [(.str "id", .str "two")]⟩]

-- Beside them stands a record whose name is a number.
def littered : List Record := crowded ++ [⟨.int 5, .a, [.str "192.0.2.9"], .int 60, .str "", [], []⟩]

theorem littered_published :
    (publish ireland (.str "*.x") spread littered (some [0, 1, 2, 3])).published =
      .ok [2, 4, 6, 5, 0, 7] := by
  decide +kernel

theorem littered_frames : TextLabels ireland.labels ∧
    (publish ireland (.str "*.x") spread littered (some [0, 1, 2, 3])).published =
      .ok [2, 4, 6, 5, 0, 7] ∧
    (∀ id r, littered[id]? = some r →
      ∃ after, (publish ireland (.str "*.x") spread littered (some [0, 1, 2, 3])).records[id]? =
          some after ∧
        (id ∉ [2, 4, 6, 5, 0, 7] → after = r) ∧
        (id ∈ [2, 4, 6, 5, 0, 7] → id ∈ [0, 1, 2, 3] ∧ Continued r after)) ∧
    ∃ base start, listenerBase (.str "*.x") = .ok base ∧
      Ledger.opening littered [0, 1, 2, 3] = .ok start ∧
      ∀ h ∈ start.pending, h ∉ ((plan spread ireland (.str "*.x") base).run start).1.pending →
        h.2 ∈ [2, 4, 6, 5, 0, 7] :=
  ⟨ireland_labels, littered_published, publish_frames ireland_labels littered_published⟩

end Synthesis
end DnsSteering
