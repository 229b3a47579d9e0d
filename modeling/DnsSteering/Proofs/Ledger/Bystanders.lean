import DnsSteering.Proofs.Ledger.Holdings

namespace DnsSteering

def Json.isText : Json → Bool
  | .str _ => true
  | _ => false

theorem Json.isText_iff {v : Json} : v.isText = true ↔ v.IsText := by
  cases v <;> simp [isText, IsText]

def Slot.isText (s : Slot) : Bool := s.name.isText && s.identifier.isText

theorem Slot.isText_true {s : Slot} : s.isText = true ↔ s.IsText := by
  simp [isText, Json.isText_iff, Slot.isText_iff]

theorem Json.isText_same {v w : Json} (same : v.same w = true) : v.isText = w.isText := by
  cases v with
  | str s => rw [Json.str_same.mp same]
  | _ =>
    cases w with
    | str t => exact absurd (Json.same_str.mp same) (by simp)
    | _ => rfl

-- Of two slots with the same key both are texts, or neither is.
theorem Slot.isText_sameKey {s t : Slot} (same : t.sameKey s = true) : t.isText = s.isText := by
  simp only [sameKey, Bool.and_eq_true] at same
  rw [isText, isText, Json.isText_same same.1, Json.isText_same same.2]

theorem Slot.isText_same {s t : Slot} (same : t.same s = true) : t.isText = s.isText := by
  simp only [Slot.same, Bool.and_eq_true] at same
  exact isText_sameKey same.1

namespace Holdings

def textual (hs : Holdings) : Holdings := hs.filter fun h => h.1.isText

theorem textual_text {h : Slot × Nat} (text : h.1.isText = true) (hs : Holdings) :
    textual (h :: hs) = h :: hs.textual :=
  List.filter_cons_of_pos text

theorem textual_other {h : Slot × Nat} (other : ¬ h.1.isText = true) (hs : Holdings) :
    textual (h :: hs) = hs.textual :=
  List.filter_cons_of_neg other

theorem put_textual {s : Slot} (text : s.isText = true) (id : Nat) (hs : Holdings) :
    (put s id hs).textual = put s id hs.textual := by
  induction hs with
  | nil => exact textual_text text []
  | cons h hs ih =>
    obtain ⟨t, old⟩ := h
    by_cases same : t.same s = true
    · have here : t.isText = true := (Slot.isText_same same).trans text
      rw [textual_text here, put, put, if_pos same, if_pos same]
      exact textual_text here hs
    · by_cases here : t.isText = true
      · rw [textual_text here, put, put, if_neg same, if_neg same, ← ih]
        exact textual_text here _
      · rw [textual_other here, put, if_neg same, ← ih]
        exact textual_other here _

theorem put_bystander {s : Slot} (other : ¬ s.isText = true) (id : Nat) (hs : Holdings) :
    (put s id hs).textual = hs.textual := by
  induction hs with
  | nil => exact textual_other other []
  | cons h hs ih =>
    obtain ⟨t, old⟩ := h
    rw [put]
    split
    · rename_i same
      have here : ¬ t.isText = true := by
        rw [Slot.isText_same same]
        exact other
      rw [textual_other here, textual_other here]
    · by_cases here : t.isText = true
      · rw [textual_text here, textual_text here, ih]
      · rw [textual_other here, textual_other here, ih]

theorem take_textual {wanted : Slot → Bool} (only : ∀ t, wanted t = true → t.isText = true)
    (hs : Holdings) :
    take? wanted hs.textual = (take? wanted hs).map fun r => (r.1, r.2.textual) := by
  induction hs with
  | nil => rfl
  | cons h hs ih =>
    obtain ⟨t, id⟩ := h
    by_cases want : wanted t = true
    · rw [textual_text (only t want), take?, take?, if_pos want, if_pos want]
      rfl
    · by_cases here : t.isText = true
      · rw [textual_text here, take?, take?, if_neg want, if_neg want, ih]
        cases take? wanted hs with
        | none => rfl
        | some r => simp [textual_text (h := (t, id)) here]
      · rw [textual_other here, take?, if_neg want, ih]
        cases take? wanted hs with
        | none => rfl
        | some r => simp [textual_other (h := (t, id)) here]

theorem claim_textual {s : Slot} (text : s.isText = true) (hs : Holdings) :
    claim? s hs.textual = (claim? s hs).map fun r => (r.1, r.2.textual) := by
  unfold claim?
  rw [take_textual fun t same => (Slot.isText_same same).trans text,
    take_textual fun t same => (Slot.isText_sameKey same).trans text]
  cases take? (fun t => t.same s) hs <;> rfl

end Holdings

namespace Ledger

-- The ledger with other records pending.
def awaiting (l : Ledger) (pending : Holdings) : Ledger := { l with pending := pending }

section Awaiting

-- What renews, makes or marks a record does not look at what is pending.
theorem reuse_awaiting (l : Ledger) (ks : Holdings) (id : Nat) (q : Request) :
    (l.awaiting ks).reuse id q = ((l.reuse id q).1.awaiting ks, (l.reuse id q).2) := by
  have renewed : (l.awaiting ks).renew id q = ((l.renew id q).1.awaiting ks, (l.renew id q).2) := by
    unfold renew
    cases there : l.records[id]? <;> simp [awaiting, there]
  unfold reuse
  rw [renewed]
  rcases l.renew id q with ⟨after, _ | f⟩ <;> rfl

theorem create_awaiting (l : Ledger) (ks : Holdings) (q : Request) :
    (l.awaiting ks).create q = ((l.create q).1.awaiting ks, (l.create q).2) := by
  unfold create
  cases Record.make q.name q.type q.targets q.ttl q.identifier .null .null <;> rfl

theorem setAttribute_awaiting (l : Ledger) (ks : Holdings) (id : Nat) (key value : Json) :
    (l.awaiting ks).setAttribute id key value =
      ((l.setAttribute id key value).1.awaiting ks, (l.setAttribute id key value).2) := by
  unfold setAttribute
  cases there : l.records[id]? with
  | none => simp [awaiting, there]
  | some r =>
    have same : (l.awaiting ks).records[id]? = some r := there
    simp only [same]
    cases r.setAttribute key value <;> rfl

theorem setAttributes_awaiting (l : Ledger) (ks : Holdings) (id : Nat) (marks : List (Json × Json)) :
    (l.awaiting ks).setAttributes id marks =
      ((l.setAttributes id marks).1.awaiting ks, (l.setAttributes id marks).2) := by
  induction marks generalizing l with
  | nil => rfl
  | cons m marks ih =>
    simp only [setAttributes, setAttribute_awaiting]
    rcases l.setAttribute id m.1 m.2 with ⟨after, _ | f⟩
    · exact ih after
    · rfl

-- So neither does it change what is pending.
theorem reuse_pending (l : Ledger) (id : Nat) (q : Request) : (l.reuse id q).1.pending = l.pending :=
  congrArg (fun r => r.1.pending) (reuse_awaiting l l.pending id q)

theorem create_pending (l : Ledger) (q : Request) : (l.create q).1.pending = l.pending :=
  congrArg (fun r => r.1.pending) (create_awaiting l l.pending q)

theorem setAttribute_pending (l : Ledger) (id : Nat) (key value : Json) :
    (l.setAttribute id key value).1.pending = l.pending :=
  congrArg (fun r => r.1.pending) (setAttribute_awaiting l l.pending id key value)

theorem setAttributes_pending (l : Ledger) (id : Nat) (marks : List (Json × Json)) :
    (l.setAttributes id marks).1.pending = l.pending :=
  congrArg (fun r => r.1.pending) (setAttributes_awaiting l l.pending id marks)

end Awaiting

-- The ledger without the pending records that are no texts.
def textual (l : Ledger) : Ledger := l.awaiting l.pending.textual

theorem reuse_textual (l : Ledger) (id : Nat) (q : Request) :
    l.textual.reuse id q = ((l.reuse id q).1.textual, (l.reuse id q).2) := by
  rw [textual, textual, reuse_pending]
  exact reuse_awaiting l _ id q

theorem create_textual (l : Ledger) (q : Request) :
    l.textual.create q = ((l.create q).1.textual, (l.create q).2) := by
  rw [textual, textual, create_pending]
  exact create_awaiting l _ q

theorem setAttribute_textual (l : Ledger) (id : Nat) (key value : Json) :
    l.textual.setAttribute id key value =
      ((l.setAttribute id key value).1.textual, (l.setAttribute id key value).2) := by
  rw [textual, textual, setAttribute_pending]
  exact setAttribute_awaiting l _ id key value

theorem setAttributes_textual (l : Ledger) (id : Nat) (marks : List (Json × Json)) :
    l.textual.setAttributes id marks =
      ((l.setAttributes id marks).1.textual, (l.setAttributes id marks).2) := by
  rw [textual, textual, setAttributes_pending]
  exact setAttributes_awaiting l _ id marks

theorem put_textual {q : Request} (plain : q.slot.isText = true ∨ q.slot.canIdentify = false)
    (l : Ledger) : l.textual.put q = ((l.put q).1.textual, (l.put q).2) := by
  unfold put
  split
  · rfl
  · rename_i identified
    have text : q.slot.isText = true := plain.resolve_right (by simpa using identified)
    have claimed : l.textual.pending.claim? q.slot =
        (l.pending.claim? q.slot).map fun r => (r.1, r.2.textual) :=
      Holdings.claim_textual text l.pending
    cases given : l.emitted.find? q.slot with
    | some id =>
      have same : l.textual.emitted.find? q.slot = some id := given
      simp only [same]
      exact reuse_textual l id q
    | none =>
      have same : l.textual.emitted.find? q.slot = none := given
      simp only [same, claimed]
      cases l.pending.claim? q.slot with
      | none => exact create_textual l q
      | some r => exact reuse_textual { l with pending := r.2 } r.1 q

-- And no request takes one of them.
theorem put_spares {q : Request} (plain : q.slot.isText = true ∨ q.slot.canIdentify = false)
    (l : Ledger) {h : Slot × Nat} (waiting : h ∈ l.pending) (other : ¬ h.1.isText = true) :
    h ∈ (l.put q).1.pending := by
  unfold put
  split
  · exact waiting
  · rename_i identified
    have text : q.slot.isText = true := plain.resolve_right (by simpa using identified)
    cases l.emitted.find? q.slot with
    | some id =>
      simp only [reuse_pending]
      exact waiting
    | none =>
      cases claimed : l.pending.claim? q.slot with
      | none =>
        simp only [create_pending]
        exact waiting
      | some r =>
        simp only [reuse_pending]
        obtain ⟨before, t, after, split, joined, alike, _⟩ :=
          Holdings.claim_parts (Slot.isText_true.mp text) claimed
        rw [split] at waiting
        rw [joined]
        rcases List.mem_append.mp waiting with early | late
        · exact List.mem_append_left _ early
        · rcases List.mem_cons.mp late with taken | behind
          · have own : h.1.isText = true :=
              taken ▸ Slot.isText_true.mpr (alike.isText (Slot.isText_true.mp text))
            exact absurd own other
          · exact List.mem_append_right _ behind

-- A number stands for a text, or for nothing.
def standsText (records : List Record) (id : Nat) : Bool := (records[id]?).all fun r => r.slot.isText

theorem pendingOf_textual {records : List Record} {ids : List Nat} {hs pending : Holdings}
    (done : pendingOf records ids hs = .ok pending) :
    pendingOf records (ids.filter (standsText records)) hs.textual = .ok pending.textual := by
  induction ids generalizing hs with
  | nil =>
    cases Except.ok.inj done
    rfl
  | cons id ids ih =>
    unfold pendingOf at done
    cases there : records[id]? with
    | none =>
      simp only [there] at done
      have kept : standsText records id = true := by simp [standsText, there]
      rw [List.filter_cons_of_pos kept, pendingOf, there]
      exact ih done
    | some r =>
      simp only [there] at done
      split at done
      · rename_i identified
        by_cases text : r.slot.isText = true
        · have kept : standsText records id = true := by simpa [standsText, there] using text
          rw [List.filter_cons_of_pos kept, pendingOf, there]
          simp only [identified, if_true]
          rw [← Holdings.put_textual text]
          exact ih done
        · -- A record that is no text is put beside those of texts and changes none of them.
          have dropped : ¬ standsText records id = true := by simpa [standsText, there] using text
          rw [List.filter_cons_of_neg dropped, ← Holdings.put_bystander text id hs]
          exact ih done
      · cases done

theorem opening_textual {records : List Record} {ids : List Nat} {start : Ledger}
    (opened : opening records ids = .ok start) :
    opening records (ids.filter (standsText records)) = .ok start.textual := by
  obtain ⟨pending, done, rfl⟩ := ok_of_map opened
  have same : pendingOf records (ids.filter (standsText records)) [] = .ok pending.textual :=
    pendingOf_textual done
  rw [opening, same]
  rfl

end Ledger

theorem filter_allText (records : List Record) (current : List Nat) :
    AllText records (current.filter (Ledger.standsText records)) := by
  intro id member r there
  have stands := (List.mem_filter.mp member).2
  rw [Ledger.standsText, there] at stands
  exact Slot.isText_true.mp stands

end DnsSteering
