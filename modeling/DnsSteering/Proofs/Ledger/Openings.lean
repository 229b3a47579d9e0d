import DnsSteering.Proofs.Ledger.Bystanders

namespace DnsSteering

-- The slots of current records, as they are listed.
def currentSlots (records : List Record) (current : List Nat) : List Slot :=
  current.filterMap fun id => (records[id]?).map Record.slot

-- The last of the current records in a slot.
def latest? (records : List Record) (current : List Nat) (s : Slot) : Option Nat :=
  current.reverse.find? fun id => (records[id]?).map Record.slot = some s

section Current

variable {records : List Record} {current : List Nat} {s : Slot} {id : Nat}

theorem mem_currentSlots :
    s ∈ currentSlots records current ↔ ∃ id ∈ current, ∃ r, records[id]? = some r ∧ r.slot = s := by
  simp [currentSlots, Option.map_eq_some_iff]

theorem latest?_cons (records : List Record) (id : Nat) (ids : List Nat) (s : Slot) :
    latest? records (id :: ids) s = (latest? records ids s).or
      (if (records[id]?).map Record.slot = some s then some id else none) := by
  rw [latest?, List.reverse_cons, List.find?_append, List.find?_singleton, latest?]
  simp only [decide_eq_true_eq]

theorem latest?_some (found : latest? records current s = some id) :
    id ∈ current ∧ ∃ r, records[id]? = some r ∧ r.slot = s := by
  have listed := List.mem_reverse.mp (List.mem_of_find?_eq_some found)
  have slot : (records[id]?).map Record.slot = some s := by simpa using List.find?_some found
  exact ⟨listed, Option.map_eq_some_iff.mp slot⟩

theorem latest?_isSome :
    (∃ id, latest? records current s = some id) ↔ s ∈ currentSlots records current := by
  constructor
  · intro some
    obtain ⟨id, found⟩ := some
    obtain ⟨listed, there⟩ := latest?_some found
    exact mem_currentSlots.mpr ⟨id, listed, there⟩
  · intro listed
    obtain ⟨id, member, r, there, slot⟩ := mem_currentSlots.mp listed
    apply Option.isSome_iff_exists.mp
    exact List.find?_isSome.mpr ⟨id, List.mem_reverse.mpr member, by simp [there, slot]⟩

end Current

section Pending

variable {records : List Record} {ids : List Nat} {hs pending : Holdings}

theorem pendingOf_latest (text : AllText records ids) (once : hs.slots.Nodup)
    (done : Ledger.pendingOf records ids hs = .ok pending) {s : Slot} {n : Nat} :
    (s, n) ∈ pending ↔
      latest? records ids s = some n ∨ (latest? records ids s = none ∧ (s, n) ∈ hs) := by
  induction ids generalizing hs with
  | nil =>
    cases Except.ok.inj done
    simp [latest?]
  | cons id ids ih =>
    have later : AllText records ids := fun n member => text n (List.mem_cons_of_mem _ member)
    rw [latest?_cons]
    unfold Ledger.pendingOf at done
    cases there : records[id]? with
    | none =>
      simp only [there] at done
      simpa using ih later once done
    | some r =>
      have slotText : r.slot.IsText := text id (List.mem_cons_self ..) r there
      have accepted : r.canIdentify = true := slotText.canIdentify
      simp only [there, accepted, if_true] at done
      rw [ih later (Holdings.nodup_put slotText once) done, Holdings.mem_put_iff slotText once]
      cases latest? records ids s with
      | some m => simp
      | none =>
        by_cases here : r.slot = s
        · simp [here, eq_comm]
        · simp [here, Ne.symm here]

theorem pendingOf_first (text : AllText records ids)
    (done : Ledger.pendingOf records ids hs = .ok pending) (wanted : Slot → Bool) :
    pending.slots.find? wanted = (hs.slots ++ currentSlots records ids).find? wanted := by
  induction ids generalizing hs with
  | nil =>
    cases Except.ok.inj done
    simp [currentSlots]
  | cons id ids ih =>
    have later : AllText records ids := fun n member => text n (List.mem_cons_of_mem _ member)
    unfold Ledger.pendingOf at done
    cases there : records[id]? with
    | none =>
      simp only [there] at done
      have same : currentSlots records (id :: ids) = currentSlots records ids := by
        simp [currentSlots, there]
      rw [same]
      exact ih later done
    | some r =>
      have slotText : r.slot.IsText := text id (List.mem_cons_self ..) r there
      have accepted : r.canIdentify = true := slotText.canIdentify
      simp only [there, accepted, if_true] at done
      have split : currentSlots records (id :: ids) = r.slot :: currentSlots records ids := by
        simp [currentSlots, there]
      rw [ih later done, split, List.append_cons, List.find?_append, List.find?_append,
        Holdings.find?_put slotText]

end Pending

namespace Ledger

theorem pendingOf_identified {records : List Record} {ids : List Nat}
    (identified : ∀ id ∈ ids, ∀ r, records[id]? = some r → r.canIdentify = true) (hs : Holdings) :
    ∃ pending, pendingOf records ids hs = .ok pending := by
  induction ids generalizing hs with
  | nil => exact ⟨hs, rfl⟩
  | cons id ids ih =>
    have later : ∀ n ∈ ids, ∀ r, records[n]? = some r → r.canIdentify = true :=
      fun n member => identified n (List.mem_cons_of_mem _ member)
    unfold pendingOf
    cases there : records[id]? with
    | none => exact ih later hs
    | some r =>
      simp only [identified id (List.mem_cons_self ..) r there, if_true]
      exact ih later _

theorem pendingOf_refused {records : List Record} {ids : List Nat} {hs : Holdings}
    (other : ¬ ∀ id ∈ ids, ∀ r, records[id]? = some r → r.canIdentify = true) :
    pendingOf records ids hs = .error .wrongKind := by
  induction ids generalizing hs with
  | nil => exact absurd (by simp) other
  | cons id ids ih =>
    unfold pendingOf
    cases there : records[id]? with
    | none =>
      refine ih fun identified => other ?_
      intro n listed r there'
      rcases List.mem_cons.mp listed with rfl | later
      · cases there.symm.trans there'
      · exact identified n later r there'
    | some r =>
      by_cases accepted : r.canIdentify = true
      · simp only [accepted, if_true]
        refine ih fun identified => other ?_
        intro n listed r' there'
        rcases List.mem_cons.mp listed with rfl | later
        · cases Option.some.inj (there.symm.trans there')
          exact accepted
        · exact identified n later r' there'
      · simp [accepted]

theorem opening_refused {records : List Record} {current : List Nat}
    (other : ¬ ∀ id ∈ current, ∀ r, records[id]? = some r → r.canIdentify = true) :
    opening records current = .error .wrongKind := by
  rw [opening, pendingOf_refused other]
  rfl

theorem opening_identified {records : List Record} {current : List Nat}
    (identified : ∀ id ∈ current, ∀ r, records[id]? = some r → r.canIdentify = true) :
    ∃ start, opening records current = .ok start := by
  obtain ⟨pending, done⟩ := pendingOf_identified identified []
  exact ⟨⟨records, pending, []⟩, by rw [opening, done]; rfl⟩

-- What is pending at first: the last record of every slot.
theorem opening_latest {records : List Record} {current : List Nat} {start : Ledger}
    (text : AllText records current) (opened : opening records current = .ok start) {s : Slot}
    {n : Nat} : (s, n) ∈ start.pending ↔ latest? records current s = some n := by
  obtain ⟨pending, done, rfl⟩ := ok_of_map opened
  have none : (Holdings.slots []).Nodup := List.nodup_nil
  simpa using pendingOf_latest text none done

theorem opening_slots {records : List Record} {current : List Nat} {start : Ledger}
    (text : AllText records current) (opened : opening records current = .ok start) {s : Slot} :
    s ∈ start.pending.slots ↔ s ∈ currentSlots records current := by
  rw [Holdings.mem_slots, ← latest?_isSome]
  simp only [opening_latest text opened]

theorem opening_first {records : List Record} {current : List Nat} {start : Ledger}
    (text : AllText records current) (opened : opening records current = .ok start)
    (wanted : Slot → Bool) :
    start.pending.slots.find? wanted = (currentSlots records current).find? wanted := by
  obtain ⟨pending, done, rfl⟩ := ok_of_map opened
  simpa using pendingOf_first text done wanted

theorem currentSlots_textual (records : List Record) (ids : List Nat) :
    currentSlots records (ids.filter (standsText records)) =
      (currentSlots records ids).filter Slot.isText := by
  induction ids with
  | nil => rfl
  | cons id ids ih =>
    cases there : records[id]? with
    | none =>
      have kept : standsText records id = true := by simp [standsText, there]
      rw [List.filter_cons_of_pos kept]
      simpa [currentSlots, there] using ih
    | some r =>
      by_cases text : r.slot.isText = true
      · have kept : standsText records id = true := by simpa [standsText, there] using text
        rw [List.filter_cons_of_pos kept]
        simpa [currentSlots, there, text] using ih
      · have dropped : ¬ standsText records id = true := by simpa [standsText, there] using text
        rw [List.filter_cons_of_neg dropped]
        simpa [currentSlots, there, text] using ih

-- The last record of a slot that is a text is found without the others.
theorem latest?_textual {records : List Record} {ids : List Nat} {s : Slot} {id : Nat}
    (found : latest? records (ids.filter (standsText records)) s = some id) :
    latest? records ids s = some id := by
  obtain ⟨member, r, there, slot⟩ := latest?_some found
  have text : s.isText = true := by
    have stands := (List.mem_filter.mp member).2
    rw [standsText, there] at stands
    rw [← slot]
    exact stands
  rw [← found, latest?, latest?, ← List.filter_reverse, List.find?_filter]
  congr 1
  funext n
  cases other : records[n]? with
  | none => simp
  | some r' =>
    by_cases same : r'.slot = s <;> simp [standsText, other, same, text]

end Ledger
end DnsSteering
