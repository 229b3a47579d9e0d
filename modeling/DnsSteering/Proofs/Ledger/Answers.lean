import DnsSteering.Proofs.Ledger.Holdings

namespace DnsSteering

namespace Request

def items (q : Request) : List Json := q.targets.items?.getD []

-- Names and identifiers are texts, and there is a list of targets.
structure Fit (q : Request) : Prop where
  text : q.slot.IsText
  listed : q.targets.items? = some q.items

-- A record with what the request gives. Name, identifier, attributes and labels stay.
def renew (q : Request) (r : Record) : Record :=
  { r with type := q.type, targets := q.items, ttl := q.ttl }

end Request

-- The record of a slot with nothing in it.
def Slot.blank (s : Slot) : Record := ⟨s.name, s.type, [], .null, s.identifier, [], []⟩

@[simp] theorem Slot.blank_slot (s : Slot) : s.blank.slot = s := rfl

theorem Request.renew_slot {q : Request} {r : Record} (alike : r.slot.Alike q.slot) :
    (q.renew r).slot = q.slot :=
  Slot.Alike.eq_of_type alike rfl

namespace Record

-- A record without its attributes.
def bare (r : Record) : Record := { r with attributes := [] }

def marked (r : Record) (marks : List (Json × Json)) : Record :=
  { r with attributes := marks.foldl (fun es m => es.set m.1 m.2) r.attributes }

end Record

theorem Record.update_fit {q : Request} (fit : q.Fit) (r : Record) :
    r.update q.type q.targets q.ttl = (q.renew r, none) := by
  simp [Record.update, Json.itemList, fit.listed, Request.renew]

theorem Record.make_fit {q : Request} (fit : q.Fit) :
    Record.make q.name q.type q.targets q.ttl q.identifier .null .null =
      .ok (q.renew q.slot.blank) := by
  have identifier : Record.plainIdentifier q.identifier = q.identifier :=
    plainIdentifier_text fit.text.identifier
  simp [Record.make, Json.itemList, fit.listed, Entries.ofJson, Json.truthy, identifier,
    Request.renew, Slot.blank, Request.slot]

namespace Ledger

-- What the ledger is at every point of a run.
structure Sound (l : Ledger) : Prop where
  once : (Holdings.slots (l.emitted ++ l.pending)).Nodup
  holds : Holds l.records (l.emitted ++ l.pending)

section Sound

variable {l : Ledger} (sound : l.Sound)

include sound

theorem Sound.emitted_once : l.emitted.slots.Nodup := by
  have once := sound.once
  rw [Holdings.slots_append] at once
  exact once.of_append_left

theorem Sound.pending_once : l.pending.slots.Nodup := by
  have once := sound.once
  rw [Holdings.slots_append] at once
  exact once.of_append_right

theorem Sound.emitted_holds : Holds l.records l.emitted :=
  fun h held => sound.holds h (List.mem_append_left _ held)

theorem Sound.pending_holds : Holds l.records l.pending :=
  fun h held => sound.holds h (List.mem_append_right _ held)

-- A record has one slot, so it is held for one slot only.
theorem Sound.slot_unique {s t : Slot} {id : Nat} (one : (s, id) ∈ l.emitted ++ l.pending)
    (two : (t, id) ∈ l.emitted ++ l.pending) : s = t := by
  obtain ⟨r, there, slot⟩ := sound.holds _ one
  obtain ⟨r', there', slot'⟩ := sound.holds _ two
  have equal : r = r' := Option.some.inj (there.symm.trans there')
  exact slot.symm.trans (equal ▸ slot')

theorem Sound.ids_once : (l.emitted ++ l.pending).map (·.2) |>.Nodup := by
  refine List.Nodup.map_on ?_ (List.Nodup.of_map _ sound.once)
  intro h one k two equal
  obtain ⟨s, id⟩ := h
  obtain ⟨t, other⟩ := k
  cases equal
  rw [sound.slot_unique one two]

theorem Sound.emittedIds_once : l.emittedIds.Nodup := by
  have once := sound.ids_once
  rw [List.map_append] at once
  exact once.of_append_left

-- The records given out have the slots that were asked for.
theorem Sound.emitted_shown :
    l.emittedIds.map (fun id => (l.records[id]?).map Record.slot) = l.emitted.slots.map some := by
  unfold emittedIds Holdings.slots
  rw [List.map_map, List.map_map]
  refine List.map_congr_left fun h held => ?_
  obtain ⟨r, there, slot⟩ := sound.emitted_holds h held
  simp [there, slot]

-- What a record holds besides its slot does not matter.
theorem Sound.replace {id : Nat} {r after : Record} (there : l.records[id]? = some r)
    (same : after.slot = r.slot) : Sound { l with records := l.records.set id after } := by
  have bound : id < l.records.length := (List.getElem?_eq_some_iff.mp there).1
  refine ⟨sound.once, ?_⟩
  intro h held
  obtain ⟨r', there', slot⟩ := sound.holds h held
  by_cases here : h.2 = id
  · rw [here] at there' ⊢
    have equal : r = r' := Option.some.inj (there.symm.trans there')
    exact ⟨after, by simp [bound], same.trans (equal ▸ slot)⟩
  · exact ⟨r', (List.getElem?_set_ne (Ne.symm here)).trans there', slot⟩

theorem Sound.lt_of_held {h : Slot × Nat} (held : h ∈ l.emitted ++ l.pending) :
    h.2 < l.records.length := by
  obtain ⟨r, there, _⟩ := sound.holds h held
  exact (List.getElem?_eq_some_iff.mp there).1

theorem Sound.pending_notEmitted {s : Slot} {id : Nat} (waiting : (s, id) ∈ l.pending) :
    id ∉ l.emittedIds := by
  intro given
  obtain ⟨⟨t, n⟩, member, rfl⟩ := List.mem_map.mp given
  have once := sound.ids_once
  rw [List.map_append] at once
  exact List.disjoint_of_nodup_append once (List.mem_map_of_mem member)
    (List.mem_map.mpr ⟨_, waiting, rfl⟩)

end Sound

-- How a request is answered, with the ledger after it and the number of the slot's record.
inductive Answered (l : Ledger) (q : Request) : Ledger → Nat → Prop where
  | again {id : Nat} {r : Record} (given : (q.slot, id) ∈ l.emitted)
      (there : l.records[id]? = some r) :
      Answered l q { l with records := l.records.set id (q.renew r) } id
  | claimed {id : Nat} {r : Record} {t : Slot} {before after : Holdings}
      (new : q.slot ∉ l.emitted.slots) (split : l.pending = before ++ (t, id) :: after)
      (alike : t.Alike q.slot) (own : q.slot ∈ l.pending.slots → t = q.slot)
      (there : l.records[id]? = some r) :
      Answered l q ⟨l.records.set id (q.renew r), before ++ after, l.emitted ++ [(q.slot, id)]⟩ id
  | made (new : q.slot ∉ l.emitted.slots) (none : ∀ t ∈ l.pending.slots, ¬ t.Alike q.slot) :
      Answered l q ⟨l.records ++ [q.renew q.slot.blank], l.pending,
        l.emitted ++ [(q.slot, l.records.length)]⟩ l.records.length

theorem reuse_fit {l : Ledger} {q : Request} (fit : q.Fit) {id : Nat} {r : Record}
    (there : l.records[id]? = some r) :
    l.reuse id q = (({ l with records := l.records.set id (q.renew r) } : Ledger).emit q.slot id,
      .ok id) := by
  simp [reuse, renew, there, Record.update_fit fit]

theorem create_fit {l : Ledger} {q : Request} (fit : q.Fit) :
    l.create q = (({ l with records := l.records ++ [q.renew q.slot.blank] } : Ledger).emit q.slot
      l.records.length, .ok l.records.length) := by
  simp [create, Record.make_fit fit]

theorem put_answered {l : Ledger} {q : Request} (sound : l.Sound) (fit : q.Fit) :
    ∃ after id, l.put q = (after, .ok id) ∧ l.Answered q after id := by
  unfold put
  rw [if_neg (by simp [fit.text.canIdentify])]
  cases given : l.emitted.find? q.slot with
  | some id =>
    have held := Holdings.mem_of_find fit.text given
    obtain ⟨r, there, _⟩ := sound.emitted_holds _ held
    refine ⟨_, id, reuse_fit fit there, ?_⟩
    unfold emit
    rw [Holdings.put_held fit.text sound.emitted_once held]
    exact .again held there
  | none =>
    have new := Holdings.notMem_of_find fit.text given
    cases claim : l.pending.claim? q.slot with
    | some result =>
      obtain ⟨id, rest⟩ := result
      obtain ⟨before, t, after, split, joined, alike, own⟩ := Holdings.claim_parts fit.text claim
      have waiting : (t, id) ∈ l.pending := by rw [split]; simp
      obtain ⟨r, there, _⟩ := sound.pending_holds _ waiting
      refine ⟨_, id, reuse_fit (l := { l with pending := rest }) fit there, ?_⟩
      unfold emit
      rw [Holdings.put_new fit.text new, joined]
      exact .claimed new split alike own there
    | none =>
      refine ⟨_, _, create_fit fit, ?_⟩
      unfold emit
      rw [Holdings.put_new fit.text new]
      exact .made new (Holdings.claim_none fit.text claim)

-- Where nothing is held for a slot itself, the first pending one of its name and identifier is taken.
theorem put_first {l after : Ledger} {q : Request} {id : Nat} (sound : l.Sound) (fit : q.Fit)
    (new : q.slot ∉ l.emitted.slots) (missing : q.slot ∉ l.pending.slots)
    (alike : ∃ t ∈ l.pending.slots, t.Alike q.slot) (done : l.put q = (after, .ok id)) :
    ∃ t, l.pending.slots.find? (fun t => t.key = q.slot.key) = some t ∧ (t, id) ∈ l.pending := by
  have wanted : (fun t : Slot => t.sameKey q.slot) = fun t => decide (t.key = q.slot.key) := by
    funext t
    rw [Bool.eq_iff_iff, Slot.sameKey_iff fit.text, Slot.alike_iff, decide_eq_true_iff]
  unfold put at done
  rw [if_neg (by simp [fit.text.canIdentify])] at done
  cases given : l.emitted.find? q.slot with
  | some n => exact absurd (Holdings.slots_mem (Holdings.mem_of_find fit.text given)) new
  | none =>
    simp only [given] at done
    cases claim : l.pending.claim? q.slot with
    | some result =>
      obtain ⟨n, rest⟩ := result
      obtain ⟨t, found, held⟩ := Holdings.claim_first fit.text missing claim
      obtain ⟨r, there, _⟩ := sound.pending_holds _ held
      simp only [claim, reuse_fit (l := { l with pending := rest }) fit there] at done
      have number : n = id := Except.ok.inj (congrArg Prod.snd done)
      exact ⟨t, wanted ▸ found, number ▸ held⟩
    | none =>
      obtain ⟨t, held, same⟩ := alike
      exact absurd same (Holdings.claim_none fit.text claim t held)

section Answered

variable {l after : Ledger} {q : Request} {id : Nat}

theorem Answered.held (answered : l.Answered q after id) : (q.slot, id) ∈ after.emitted := by
  cases answered with
  | again given there => exact given
  | claimed new split alike own there => simp
  | made new none => simp

theorem Answered.emitted_slots (answered : l.Answered q after id) :
    after.emitted.slots =
      if q.slot ∈ l.emitted.slots then l.emitted.slots else l.emitted.slots ++ [q.slot] := by
  cases answered with
  | again given there => rw [if_pos (Holdings.slots_mem given)]
  | claimed new split alike own there => rw [if_neg new]; simp
  | made new none => rw [if_neg new]; simp

-- What was given out stays given out.
theorem Answered.emitted_old (answered : l.Answered q after id) {h : Slot × Nat}
    (held : h ∈ l.emitted) : h ∈ after.emitted := by
  cases answered with
  | again given there => exact held
  | claimed new split alike own there => exact List.mem_append_left _ held
  | made new none => exact List.mem_append_left _ held

theorem Answered.emitted_cases (answered : l.Answered q after id) {h : Slot × Nat}
    (held : h ∈ after.emitted) : h = (q.slot, id) ∨ h ∈ l.emitted := by
  cases answered with
  | again given there => exact .inr held
  | claimed new split alike own there =>
    cases List.mem_append.mp held with
    | inl old => exact .inr old
    | inr fresh => exact .inl (List.mem_singleton.mp fresh)
  | made new none =>
    cases List.mem_append.mp held with
    | inl old => exact .inr old
    | inr fresh => exact .inl (List.mem_singleton.mp fresh)

theorem Answered.pending_old (answered : l.Answered q after id) {h : Slot × Nat}
    (held : h ∈ after.pending) : h ∈ l.pending := by
  cases answered with
  | again given there => exact held
  | claimed new split alike own there =>
    rw [split]
    cases List.mem_append.mp held with
    | inl one => exact List.mem_append_left _ one
    | inr two => exact List.mem_append_right _ (List.mem_cons_of_mem _ two)
  | made new none => exact held

-- Of what was pending at most the record of the answer is gone.
theorem Answered.pending_left (answered : l.Answered q after id) {h : Slot × Nat}
    (held : h ∈ l.pending) : h ∈ after.pending ∨ h.2 = id := by
  cases answered with
  | again given there => exact .inl held
  | claimed new split alike own there =>
    rw [split] at held
    rcases List.mem_append.mp held with one | two
    · exact .inl (List.mem_append_left _ one)
    · rcases List.mem_cons.mp two with rfl | two
      · exact .inr rfl
      · exact .inl (List.mem_append_right _ two)
  | made new none => exact .inl held

-- If it is, it was held for the slot itself, or nothing was.
theorem Answered.waits (sound : l.Sound) (answered : l.Answered q after id) {s : Slot} {n : Nat}
    (waiting : (s, n) ∈ l.pending) :
    (s, n) ∈ after.pending ∨
      (n = id ∧ s.Alike q.slot ∧ (q.slot ∈ l.pending.slots → s = q.slot)) := by
  rcases answered.pending_left waiting with still | number
  · exact .inl still
  · cases answered with
    | again given there => exact .inl waiting
    | made new none => exact .inl waiting
    | @claimed _ _ t before rest new split alike own there =>
      have claimed : (t, id) ∈ l.pending := by rw [split]; simp
      rw [show n = id from number] at waiting
      obtain rfl : s = t := sound.slot_unique (List.mem_append_right _ waiting)
        (List.mem_append_right _ claimed)
      exact .inr ⟨number, alike, own⟩

theorem Answered.grown (answered : l.Answered q after id) :
    l.records.length ≤ after.records.length := by
  cases answered <;> simp

-- No other record changes.
theorem Answered.others (answered : l.Answered q after id) {n : Nat} (other : n ≠ id)
    (old : n < l.records.length) : after.records[n]? = l.records[n]? := by
  cases answered with
  | again given there => exact List.getElem?_set_ne other.symm
  | claimed new split alike own there => exact List.getElem?_set_ne other.symm
  | made new none => exact List.getElem?_append_left old

-- The record that is renewed: the one given out before, a pending one, or a blank one.
inductive Source (l : Ledger) (s : Slot) (id : Nat) (r : Record) : Prop where
  | given (held : (s, id) ∈ l.emitted) (there : l.records[id]? = some r)
  | waiting (new : s ∉ l.emitted.slots) (t : Slot) (held : (t, id) ∈ l.pending)
      (there : l.records[id]? = some r)
  | blank (new : s ∉ l.emitted.slots) (fresh : id = l.records.length) (empty : r = s.blank)

theorem Answered.renewed (sound : l.Sound) (answered : l.Answered q after id) :
    ∃ r, after.records[id]? = some (q.renew r) ∧ r.slot.Alike q.slot ∧ l.Source q.slot id r := by
  cases answered with
  | @again id r given there =>
    obtain ⟨r', there', slot⟩ := sound.emitted_holds _ given
    have equal : r = r' := Option.some.inj (there.symm.trans there')
    have bound : id < l.records.length := (List.getElem?_eq_some_iff.mp there).1
    have alike : r.slot = q.slot := equal ▸ slot
    exact ⟨r, by simp [bound], by rw [alike]; exact ⟨rfl, rfl⟩, .given given there⟩
  | @claimed id r t before after new split alike own there =>
    have waiting : (t, id) ∈ l.pending := by rw [split]; simp
    obtain ⟨r', there', slot⟩ := sound.pending_holds _ waiting
    have equal : r = r' := Option.some.inj (there.symm.trans there')
    have bound : id < l.records.length := (List.getElem?_eq_some_iff.mp there).1
    have was : r.slot = t := equal ▸ slot
    exact ⟨r, by simp [bound], by rw [was]; exact alike, .waiting new t waiting there⟩
  | made new none => exact ⟨q.slot.blank, by simp, ⟨rfl, rfl⟩, .blank new rfl rfl⟩

theorem Answered.once (sound : l.Sound) (answered : l.Answered q after id) :
    (Holdings.slots (after.emitted ++ after.pending)).Nodup := by
  have once := sound.once
  cases answered with
  | again given there => exact once
  | @claimed _ _ t before after new split alike own there =>
    rw [split] at once
    simp only [Holdings.slots_append, Holdings.slots_cons, Holdings.slots_nil] at once ⊢
    -- What is claimed was pending under the slot itself, or nothing was.
    have left : q.slot ∉ before.slots ++ after.slots := by
      intro held
      have equal : t = q.slot := own (by
        rw [split, Holdings.slots_append, Holdings.slots_cons]
        exact List.mem_append.mpr ((List.mem_append.mp held).imp_right (List.mem_cons_of_mem _)))
      have apart := List.nodup_cons.mp (List.nodup_middle.mp once.of_append_right)
      exact apart.1 (equal ▸ held)
    rw [List.append_assoc, List.singleton_append]
    refine List.nodup_middle.mpr (List.nodup_cons.mpr ⟨?_, ?_⟩)
    · intro held
      cases List.mem_append.mp held with
      | inl given => exact new given
      | inr waiting => exact left waiting
    · refine once.sublist ((List.Sublist.refl _).append ?_)
      exact (List.Sublist.refl _).append (List.sublist_cons_self ..)
  | made new none =>
    simp only [Holdings.slots_append, Holdings.slots_cons, Holdings.slots_nil] at once ⊢
    rw [List.append_assoc, List.singleton_append]
    refine List.nodup_middle.mpr (List.nodup_cons.mpr ⟨?_, once⟩)
    intro held
    cases List.mem_append.mp held with
    | inl given => exact new given
    | inr waiting => exact none q.slot waiting ⟨rfl, rfl⟩

-- The record of the answer is held for no other slot, neither before nor after.
theorem Answered.otherHeld (sound : l.Sound) (answered : l.Answered q after id) {h : Slot × Nat}
    (held : h ∈ after.emitted ++ after.pending) (other : h.1 ≠ q.slot) :
    h ∈ l.emitted ++ l.pending ∧ h.2 ≠ id := by
  have old : h ∈ l.emitted ++ l.pending := by
    cases List.mem_append.mp held with
    | inl given =>
      rcases answered.emitted_cases given with rfl | given
      · exact absurd rfl other
      · exact List.mem_append_left _ given
    | inr waiting => exact List.mem_append_right _ (answered.pending_old waiting)
  refine ⟨old, ?_⟩
  obtain ⟨s, n⟩ := h
  rintro (rfl : n = id)
  obtain ⟨r, _, _, source⟩ := answered.renewed sound
  cases source with
  | given given there => exact other (sound.slot_unique old (List.mem_append_left _ given))
  | blank new fresh empty =>
    have bound := sound.lt_of_held old
    exact absurd bound (by simp [fresh])
  | waiting new t waiting there =>
    obtain rfl : s = t := sound.slot_unique old (List.mem_append_right _ waiting)
    cases answered with
    | again given there => exact new (Holdings.slots_mem given)
    | made new none => exact absurd (sound.lt_of_held old) (Nat.lt_irrefl _)
    | @claimed _ _ t before after new split alike own there =>
      have claimed : (t, n) ∈ l.pending := by rw [split]; simp
      obtain rfl : s = t := sound.slot_unique old (List.mem_append_right _ claimed)
      -- What was pending is not given out, and what is claimed is no longer pending.
      cases List.mem_append.mp held with
      | inl given =>
        cases List.mem_append.mp given with
        | inl given => exact sound.pending_notEmitted claimed (List.mem_map_of_mem given)
        | inr fresh => exact other (congrArg Prod.fst (List.mem_singleton.mp fresh))
      | inr left =>
        have once := sound.pending_once
        rw [split, Holdings.slots_append, Holdings.slots_cons] at once
        have apart := List.nodup_cons.mp (List.nodup_middle.mp once)
        rw [← Holdings.slots_append] at apart
        exact apart.1 (Holdings.slots_mem left)

-- A record given out for another slot stays as it is.
theorem Answered.kept (sound : l.Sound) (answered : l.Answered q after id) {n : Nat}
    {other : Record} (given : n ∈ l.emittedIds) (there : l.records[n]? = some other)
    (distinct : other.slot ≠ q.slot) : after.records[n]? = some other := by
  obtain ⟨h, held, rfl⟩ := List.mem_map.mp given
  obtain ⟨r, there', slot⟩ := sound.emitted_holds h held
  cases Option.some.inj (there'.symm.trans there)
  have apart := answered.otherHeld sound (List.mem_append_left _ (answered.emitted_old held))
    (by rw [← slot]; exact distinct)
  exact (answered.others apart.2 (sound.lt_of_held apart.1)).trans there

theorem Answered.sound (sound : l.Sound) (answered : l.Answered q after id) : after.Sound := by
  refine ⟨answered.once sound, ?_⟩
  intro h held
  by_cases here : h.1 = q.slot
  · obtain ⟨r, there, alike, _⟩ := answered.renewed sound
    have number : h.2 = id := by
      refine Holdings.holding_unique (answered.once sound) ?_ (List.mem_append_left _ answered.held)
      rw [← here]
      exact held
    exact ⟨q.renew r, number ▸ there, (Request.renew_slot alike).trans here.symm⟩
  · obtain ⟨old, other⟩ := answered.otherHeld sound held here
    obtain ⟨r, there, slot⟩ := sound.holds h old
    exact ⟨r, (answered.others other (sound.lt_of_held old)).trans there, slot⟩

end Answered

section Marks

-- A ledger that differs in attributes of records only.
structure Remarked (l after : Ledger) : Prop where
  pending : after.pending = l.pending
  emitted : after.emitted = l.emitted
  records : ∀ n : Nat, (after.records[n]?).map Record.bare = (l.records[n]?).map Record.bare

theorem setAttribute_remarked (l : Ledger) (id : Nat) (key value : Json) :
    l.Remarked (l.setAttribute id key value).1 := by
  unfold setAttribute
  cases there : l.records[id]? with
  | none => exact ⟨rfl, rfl, fun _ => rfl⟩
  | some r =>
    unfold Record.setAttribute
    by_cases plain : key.canIdentify = true
    · refine ⟨by simp [plain], by simp [plain], ?_⟩
      intro n
      simp only [plain, if_true]
      by_cases here : n = id
      · subst here
        have bound : n < l.records.length := (List.getElem?_eq_some_iff.mp there).1
        rw [there, List.getElem?_set_self bound]
        rfl
      · rw [List.getElem?_set_ne (Ne.symm here)]
    · exact ⟨by simp [plain], by simp [plain], by simp [plain]⟩

theorem Remarked.there {l after : Ledger} (remarked : l.Remarked after) {n : Nat} {r : Record}
    (there : l.records[n]? = some r) : ∃ r', after.records[n]? = some r' ∧ r'.bare = r.bare := by
  have bare := remarked.records n
  rw [there] at bare
  exact Option.map_eq_some_iff.mp bare

theorem Remarked.sound {l after : Ledger} (sound : l.Sound) (remarked : l.Remarked after) :
    after.Sound := by
  refine ⟨?_, ?_⟩
  · rw [remarked.emitted, remarked.pending]
    exact sound.once
  · intro h held
    rw [remarked.emitted, remarked.pending] at held
    obtain ⟨r, there, slot⟩ := sound.holds h held
    obtain ⟨r', there', bare⟩ := remarked.there there
    exact ⟨r', there', (congrArg Record.slot bare).trans slot⟩

theorem setAttributes_text {l : Ledger} {id : Nat} {r : Record} {marks : List (Json × Json)}
    (text : ∀ m ∈ marks, m.1.IsText) (there : l.records[id]? = some r) :
    l.setAttributes id marks = ({ l with records := l.records.set id (r.marked marks) }, none) := by
  have bound : id < l.records.length := (List.getElem?_eq_some_iff.mp there).1
  induction marks generalizing l r with
  | nil =>
    have same : l.records.set id r = l.records := by
      rw [← (List.getElem?_eq_some_iff.mp there).2, List.set_getElem_self]
    simp [setAttributes, Record.marked, same]
  | cons m marks ih =>
    obtain ⟨key, value⟩ := m
    have plain : key.canIdentify = true := (text _ (List.mem_cons_self ..)).canIdentify
    have one : l.setAttribute id key value =
        ({ l with records := l.records.set id (r.marked [(key, value)]) }, none) := by
      simp [setAttribute, there, Record.setAttribute, plain, Record.marked]
    unfold setAttributes
    rw [one]
    have rest := ih (l := { l with records := l.records.set id (r.marked [(key, value)]) })
      (r := r.marked [(key, value)]) (fun m member => text m (List.mem_cons_of_mem _ member))
      (by simp [bound]) (by simpa using bound)
    simpa [Record.marked] using rest

end Marks
end Ledger
end DnsSteering
