import DnsSteering.Proofs.Order
import DnsSteering.Proofs.Synthesis.Emission

namespace DnsSteering

namespace Synthesis

-- The records that numbers stand for, all of which are there.
def Shows (records : List Record) (ids : List Nat) (rs : List Record) : Prop :=
  ids.map (fun id => records[id]?) = rs.map some

theorem Shows.mem_id {records rs : List Record} {ids : List Nat} (shows : Shows records ids rs)
    {r : Record} (member : r ∈ rs) : ∃ id ∈ ids, records[id]? = some r := by
  have listed : some r ∈ ids.map fun id => records[id]? := by
    rw [show ids.map (fun id => records[id]?) = rs.map some from shows]
    exact List.mem_map_of_mem member
  exact List.mem_map.mp listed

theorem Shows.mem_record {records rs : List Record} {ids : List Nat} (shows : Shows records ids rs)
    {id : Nat} (member : id ∈ ids) : ∃ r ∈ rs, records[id]? = some r := by
  have listed : records[id]? ∈ rs.map some := by
    rw [← show ids.map (fun id => records[id]?) = rs.map some from shows]
    exact List.mem_map_of_mem member
  obtain ⟨r, there, equal⟩ := List.mem_map.mp listed
  exact ⟨r, there, equal.symm⟩

theorem Shows.slots {records rs : List Record} {ids : List Nat} (shows : Shows records ids rs) :
    (rs.map Record.slot).map some = ids.map fun id => (records[id]?).map Record.slot := by
  have mapped := congrArg (List.map (Option.map Record.slot)) (show ids.map _ = rs.map some from shows)
  rw [List.map_map, List.map_map] at mapped
  rw [List.map_map]
  exact mapped.symm

theorem shows_range (rs : List Record) : Shows rs (List.range rs.length) rs := by
  unfold Shows
  apply List.ext_getElem
  · simp
  · intro n _ bound
    have inside : n < rs.length := by simpa using bound
    simp [inside]

theorem Shows.filterMap {records rs : List Record} {ids : List Nat} (shows : Shows records ids rs) :
    ids.filterMap (fun id => records[id]?) = rs := by
  have joined := congrArg (List.filterMap id) (show ids.map (fun id => records[id]?) = rs.map some from shows)
  rw [List.filterMap_map, List.filterMap_map] at joined
  simpa using joined

-- What holds for each number and its record holds for each record and a number of it.
theorem Shows.forall_record {records rs : List Record} {ids : List Nat} {P : Nat → Record → Prop}
    (shows : Shows records ids rs) (all : ∀ id ∈ ids, ∃ r, records[id]? = some r ∧ P id r) :
    ∀ r ∈ rs, ∃ id ∈ ids, records[id]? = some r ∧ P id r := by
  intro r member
  obtain ⟨id, listed, there⟩ := shows.mem_id member
  obtain ⟨r', there', holds⟩ := all id listed
  cases Option.some.inj (there'.symm.trans there)
  exact ⟨id, listed, there, holds⟩

theorem numbered_facts {records : List Record} {ids : List Nat}
    (there : ∀ id ∈ ids, ∃ r, records[id]? = some r) :
    ((ids.filterMap fun id => (records[id]?).map fun r => (id, r)).map (·.1)) = ids ∧
      ∀ x ∈ ids.filterMap (fun id => (records[id]?).map fun r => (id, r)), records[x.1]? = some x.2 := by
  constructor
  · induction ids with
    | nil => rfl
    | cons id ids ih =>
      obtain ⟨r, here⟩ := there id (List.mem_cons_self ..)
      have rest := ih fun n member => there n (List.mem_cons_of_mem _ member)
      simp only [List.filterMap_cons, here, Option.map_some, List.map_cons, rest]
  · intro x member
    obtain ⟨id, r⟩ := x
    obtain ⟨n, _, made⟩ := List.mem_filterMap.mp member
    obtain ⟨r', here, equal⟩ := Option.map_eq_some_iff.mp made
    cases equal
    exact here

theorem orderedIds_text {records : List Record} {ids : List Nat}
    (text : ∀ id ∈ ids, ∃ r, records[id]? = some r ∧ r.IsText) :
    ∃ sorted rs, orderedIds records ids = .ok sorted ∧ sorted.Perm ids ∧ Shows records sorted rs ∧
      rs.Pairwise fun r s => r.rank ≤ s.rank := by
  have there : ∀ id ∈ ids, ∃ r, records[id]? = some r := by
    intro id member
    obtain ⟨r, there, _⟩ := text id member
    exact ⟨r, there⟩
  obtain ⟨numbers, here⟩ := numbered_facts there
  unfold orderedIds
  generalize ids.filterMap (fun id => (records[id]?).map fun r => (id, r)) = numbered at numbers here ⊢
  have isText : ∀ x ∈ numbered, x.2.IsText := by
    intro x member
    have listed : x.1 ∈ ids := numbers ▸ List.mem_map_of_mem member
    obtain ⟨r, there, textual⟩ := text x.1 listed
    have equal : x.2 = r := Option.some.inj ((here x member).symm.trans there)
    rw [equal]
    exact textual
  have orderly : ∀ x ∈ numbered, x.2.isOrderly = true := by
    intro x member
    have textual := isText x member
    simp [Record.isOrderly, show x.2.name.isOrderly = true from textual.name.isOrderly,
      show x.2.identifier.isOrderly = true from textual.identifier.isOrderly]
  -- Records of texts can all be compared, and so they are sorted.
  have compared : ∀ x ∈ numbered, ∀ y ∈ numbered,
      x.2.less? y.2 = some (decide (x.2.rank < y.2.rank)) :=
    fun x one y two => Record.less?_rank (isText x one) (isText y two)
  have comparable : numbered.Pairwise fun x y => (x.2.less? y.2).isSome = true :=
    List.pairwise_of_forall_mem_list fun x one y two => by simp [compared x one y two]
  have by_rank : ∀ x ∈ numbered, ∀ y ∈ numbered,
      (x.2.less? y.2).getD false = decide (x.2.rank < y.2.rank) :=
    fun x one y two => by simp [compared x one y two]
  obtain ⟨sorted, done, perm, ascending⟩ :=
    Order.sort?_pairwise (fun x : Nat × Record => x.2.rank) orderly comparable by_rank
  simp only [done]
  refine ⟨_, sorted.map (·.2), rfl, ?_, ?_, ?_⟩
  · rw [← numbers]
    exact perm.map _
  · unfold Shows
    rw [List.map_map, List.map_map]
    exact List.map_congr_left fun x member => here x (perm.mem_iff.mp member)
  · exact List.pairwise_map.mpr ascending

-- What a publication leaves, given the emissions of its plan.
structure Completed (start : Ledger) (es : List Emission) (records : List Record) (ids : List Nat)
    (rs : List Record) : Prop where
  shows : Shows records ids rs
  ordered : rs.Pairwise fun r s => r.rank ≤ s.rank
  once : ids.Nodup
  apart : (rs.map Record.slot).Nodup
  slots : ∀ s, s ∈ rs.map Record.slot ↔ ∃ e ∈ es, e.slot = s
  drawn : ∀ id ∈ ids, ∃ s r₀, (∃ e ∈ es, e.slot = s) ∧ Plan.Origin start s id r₀ ∧
    records[id]? = some (Emission.imprintAll s es r₀)
  kept : ∀ n < start.records.length, n ∉ ids → records[n]? = start.records[n]?

theorem emitted_requested {start l : Ledger} {es : List Emission} (progress : Plan.Progress start es l)
    {s : Slot} (held : s ∈ l.emitted.slots) : ∃ e ∈ es, e.slot = s := by
  rw [progress.slots, Request.mem_slots] at held
  obtain ⟨q, member, slot⟩ := held
  obtain ⟨e, listed, rfl⟩ := List.mem_map.mp member
  exact ⟨e, listed, slot⟩

theorem emitted_text {start l : Ledger} {es : List Emission} (progress : Plan.Progress start es l)
    (fit : ∀ e ∈ es, e.Fit) : ∀ id ∈ l.emittedIds, ∃ r, l.records[id]? = some r ∧ r.IsText := by
  intro id member
  obtain ⟨h, held, rfl⟩ := List.mem_map.mp member
  obtain ⟨r, there, slot⟩ := progress.sound.emitted_holds h held
  obtain ⟨e, listed, equal⟩ := emitted_requested progress (Holdings.slots_mem held)
  refine ⟨r, there, ?_⟩
  rw [Record.IsText, slot, ← equal]
  exact (fit e listed).request.text

-- What is published is what was given out.
theorem emitted_perm {start l : Ledger} {es : List Emission} {ids : List Nat}
    (progress : Plan.Progress start es l) (fit : ∀ e ∈ es, e.Fit)
    (ordered : orderedIds l.records l.emittedIds = .ok ids) : ids.Perm l.emittedIds := by
  obtain ⟨sorted, rs, done, perm, _⟩ := orderedIds_text (emitted_text progress fit)
  cases Except.ok.inj (done.symm.trans ordered)
  exact perm

theorem emitted_completed {start l : Ledger} {es : List Emission} (progress : Plan.Progress start es l)
    (fit : ∀ e ∈ es, e.Fit) :
    ∃ ids rs, orderedIds l.records l.emittedIds = .ok ids ∧ Completed start es l.records ids rs := by
  obtain ⟨ids, rs, ordered, perm, shows, sorted⟩ := orderedIds_text (emitted_text progress fit)
  have slots : (rs.map Record.slot).Perm l.emitted.slots := by
    have matched := perm.map fun id => (l.records[id]?).map Record.slot
    rw [← shows.slots, progress.sound.emitted_shown] at matched
    simpa using matched.filterMap id
  refine ⟨ids, rs, ordered, shows, sorted, perm.nodup_iff.mpr progress.sound.emittedIds_once,
    slots.nodup_iff.mpr progress.sound.emitted_once, ?_, ?_, ?_⟩
  · intro s
    rw [slots.mem_iff]
    constructor
    · exact emitted_requested progress
    · intro wanted
      obtain ⟨e, member, slot⟩ := wanted
      rw [progress.slots, Request.mem_slots]
      exact ⟨e.request, List.mem_map_of_mem member, slot⟩
  · intro id member
    obtain ⟨h, held, rfl⟩ := List.mem_map.mp (perm.mem_iff.mp member)
    obtain ⟨r₀, origin, there⟩ := progress.drawn h held
    exact ⟨h.1, r₀, emitted_requested progress (Holdings.slots_mem held), origin, there⟩
  · intro n old unheld
    exact progress.kept n old fun held => unheld (perm.mem_iff.mpr held)

variable {g : Gateway} {hostname : Json} {p : Policy} {records : List Record} {current : List Nat}

-- The emissions of a plan have texts for names and identifiers, lists of targets and texts as keys.
def FitPlan (p : Policy) (g : Gateway) (hostname : Json) (base : String) : Prop :=
  ∀ e ∈ Plan.emissions (plan p g hostname base).acts, e.Fit

theorem publish_completed {base : String} (text : AllText records current)
    (left : listenerBase hostname = .ok base) (accepted : p.refusal? = none)
    (sound : (plan p g hostname base).fault = none) (fit : FitPlan p g hostname base) :
    ∃ start ids rs, Ledger.opening records current = .ok start ∧ start.records = records ∧
      (∀ h ∈ start.pending, h.2 ∈ current) ∧
      (publish g hostname p records (some current)).published = .ok ids ∧
      Completed start (Plan.emissions (plan p g hostname base).acts)
        (publish g hostname p records (some current)).records ids rs := by
  obtain ⟨start, opened, startSound, none, same, waiting⟩ := Ledger.opening_sound text
  obtain ⟨l, log, ran, progress⟩ :=
    Plan.runActs_progress startSound (Plan.opening_progress startSound none) fit
  rw [List.nil_append] at progress
  obtain ⟨ids, rs, ordered, completed⟩ := emitted_completed progress fit
  have done : publish g hostname p records (some current) =
      ⟨l.records, .ok ids, log ++ [summaryLine l.emittedIds.length hostname p]⟩ := by
    simp [publish, left, accepted, opened, carryOut, Plan.run, ran, sound, ordered]
  exact ⟨start, ids, rs, opened, same, waiting, by rw [done], by rw [done]; exact completed⟩

-- A publication that succeeds had a hostname, an accepted policy and a plan without a fault.
theorem publish_parts {ids : List Nat}
    (done : (publish g hostname p records (some current)).published = .ok ids) :
    ∃ base, listenerBase hostname = .ok base ∧ p.refusal? = none ∧
      (plan p g hostname base).fault = none := by
  unfold publish at done
  cases left : listenerBase hostname with
  | error f => simp [left] at done
  | ok base =>
    cases accepted : p.refusal? with
    | some f => simp [left, accepted] at done
    | none =>
      cases opened : Ledger.opening records current with
      | error f => simp [left, accepted, opened] at done
      | ok start =>
        simp only [left, accepted, opened, carryOut, Plan.run] at done
        cases fault : (plan p g hostname base).fault with
        | none => exact ⟨base, rfl, rfl, fault⟩
        | some f =>
          rcases ran : Plan.runActs start (plan p g hostname base).acts with ⟨l, _ | stop, log⟩ <;>
            simp [ran, fault] at done

theorem publish_opened {ids : List Nat}
    (done : (publish g hostname p records (some current)).published = .ok ids) :
    ∃ start, Ledger.opening records current = .ok start := by
  obtain ⟨base, left, accepted, _⟩ := publish_parts done
  cases opened : Ledger.opening records current with
  | error f => simp [publish, left, accepted, opened] at done
  | ok start => exact ⟨start, rfl⟩

end Synthesis
end DnsSteering
