import DnsSteering.Proofs.Ledger.Openings
import DnsSteering.Proofs.Synthesis.Delivery
import Mathlib.Data.List.Sort

namespace DnsSteering

-- An answer from a record that was there replaces that record and no other.
theorem Ledger.Answered.replaced {l after : Ledger} {q : Request} {id : Nat} {r : Record}
    (answered : l.Answered q after id) (there : l.records[id]? = some r) :
    after.records = l.records.set id (q.renew r) := by
  cases answered with
  | again given there' => rw [Option.some.inj (there.symm.trans there')]
  | claimed new split alike own there' => rw [Option.some.inj (there.symm.trans there')]
  | made new none =>
    have bound := (List.getElem?_eq_some_iff.mp there).1
    exact absurd bound (Nat.lt_irrefl _)

namespace Plan

-- The record that waits for the slot of an emission is as the emission would leave it.
def Upheld (start : Ledger) (e : Emission) : Prop :=
  ∃ id r, (e.slot, id) ∈ start.pending ∧ start.records[id]? = some r ∧ e.imprint r = r

-- What holds at every point of a plan whose emissions are all upheld: what is given out was waiting
-- for that very slot.
structure Steady (start l : Ledger) : Prop where
  sound : l.Sound
  records : l.records = start.records
  given : ∀ h ∈ l.emitted, h ∈ start.pending
  waiting : ∀ h ∈ l.pending, h ∈ start.pending
  left : ∀ h ∈ start.pending, h ∈ l.emitted ∨ h ∈ l.pending

section Steady

variable {start l after : Ledger} {e : Emission} {id : Nat}

-- Nothing is taken from a slot for another type of its name and identifier.
theorem Steady.own (steady : Steady start l) (upheld : Upheld start e)
    (answered : l.Answered e.request after id) : (e.slot, id) ∈ start.pending := by
  obtain ⟨own, r, held, _⟩ := upheld
  cases answered with
  | again given there => exact steady.given _ given
  | @claimed _ _ t before rest new split alike own there =>
    have pending : e.slot ∈ l.pending.slots := by
      cases steady.left _ held with
      | inl given => exact absurd (Holdings.slots_mem given) new
      | inr left => exact Holdings.slots_mem left
    obtain rfl : t = e.slot := own pending
    exact steady.waiting _ (by rw [split]; simp)
  | made new none =>
    cases steady.left _ held with
    | inl given => exact absurd (Holdings.slots_mem given) new
    | inr left => exact absurd ⟨rfl, rfl⟩ (none e.slot (Holdings.slots_mem left))

theorem Steady.step (sound : start.Sound) (steady : Steady start l) (upheld : Upheld start e)
    (answered : l.Answered e.request after id) {r : Record}
    (there : after.records[id]? = some (e.request.renew r)) :
    Steady start { after with records := after.records.set id (e.imprint r) } := by
  have own := steady.own upheld answered
  obtain ⟨id', r', held, was, same⟩ := upheld
  obtain rfl : id = id' := Holdings.holding_unique sound.pending_once own held
  have bound : id < l.records.length := by
    rw [steady.records]
    exact (List.getElem?_eq_some_iff.mp was).1
  have changed : after.records = l.records.set id (e.request.renew r') :=
    answered.replaced (by rw [steady.records]; exact was)
  have renewed : e.request.renew r = e.request.renew r' := by
    rw [changed, List.getElem?_set_self bound] at there
    exact (Option.some.inj there).symm
  have imprinted : e.imprint r = r' := by
    rw [← same, Emission.imprint, renewed, Emission.imprint]
  have records : after.records.set id (e.imprint r) = start.records := by
    rw [imprinted, changed, List.set_set, steady.records]
    rw [← (List.getElem?_eq_some_iff.mp was).2, List.set_getElem_self]
  refine ⟨(answered.sound steady.sound).replace there rfl, records, ?_, ?_, ?_⟩
  · intro h given
    rcases answered.emitted_cases given with rfl | old
    · exact own
    · exact steady.given h old
  · intro h listed
    exact steady.waiting h (answered.pending_old listed)
  · intro h listed
    rcases steady.left h listed with given | waiting
    · exact .inl (answered.emitted_old given)
    · rcases answered.pending_left waiting with still | number
      · exact .inr still
      · obtain ⟨s, n⟩ := h
        obtain rfl : n = id := number
        obtain rfl : s = e.slot := sound.slot_unique (List.mem_append_right _ listed)
          (List.mem_append_right _ own)
        exact .inl answered.held

end Steady

theorem opening_steady {start : Ledger} (sound : start.Sound) (none : start.emitted = []) :
    Steady start start :=
  ⟨sound, rfl, by simp [none], fun _ held => held, fun _ held => .inr held⟩

theorem runActs_steady {start : Ledger} {acts : List Act} (sound : start.Sound)
    (none : start.emitted = []) (upheld : ∀ e ∈ emissions acts, e.Fit ∧ Upheld start e) :
    ∃ after log, runActs start acts = (after, .none, log) ∧ Steady start after :=
  runActs_preserves (I := Steady start) (fun _ allowed => allowed.1) (fun steady => steady.sound)
    (fun allowed steady answered there => steady.step sound allowed.2 answered there)
    (opening_steady sound none) upheld

end Plan

namespace Synthesis

-- Records that stand as a publication leaves them, whoever published them.
structure Standing (p : Policy) (g : Gateway) (hostname : LooseText) (base : String) (records : List Record)
    (ids : List Nat) (rs : List Record) : Prop where
  shows : Shows records ids rs
  ordered : rs.Pairwise fun r s => r.rank < s.rank
  rows : ∀ row, (∃ r ∈ rs, r.row = row) ↔ ∃ marks, Due p g hostname base row marks
  advertised : ∀ r ∈ rs, ∀ key value, Advertises p g hostname base r.slot key value →
    Entries.value? key r.attributes = some value

section Standing

variable {p : Policy} {g : Gateway} {hostname : LooseText} {base : String} {records rs : List Record}
  {current ids : List Nat}

theorem Delivered.standing {start : Ledger}
    (delivered : Delivered p g hostname base start records ids rs) :
    Standing p g hostname base records ids rs := by
  refine ⟨delivered.shows, delivered.ordered, delivered.rows, ?_⟩
  intro r member key value advertised
  obtain ⟨id, _, _, origin, drawn⟩ := delivered.shows.forall_record delivered.drawn r member
  exact drawn.advertised key value advertised

-- What matters are the records and not how they are numbered.
theorem Standing.renumbered (standing : Standing p g hostname base records ids rs) :
    Standing p g hostname base rs (List.range rs.length) rs :=
  ⟨shows_range rs, standing.ordered, standing.rows, standing.advertised⟩

theorem Standing.text (labels : TextLabels g.labels)
    (standing : Standing p g hostname base records ids rs) : ∀ r ∈ rs, r.IsText := by
  intro r member
  obtain ⟨marks, due⟩ := (standing.rows r.row).mp ⟨r, member, rfl⟩
  exact due.slot_text labels

theorem Standing.allText (labels : TextLabels g.labels)
    (standing : Standing p g hostname base records ids rs) : AllText records ids := by
  intro id listed r there
  obtain ⟨r', member, there'⟩ := standing.shows.mem_record listed
  cases Option.some.inj (there.symm.trans there')
  exact standing.text labels r member

-- No two of them have one slot, so a slot tells the number of its record.
theorem Standing.once (standing : Standing p g hostname base records ids rs) :
    (ids.map fun id => (records[id]?).map Record.slot).Nodup := by
  have apart : (rs.map Record.slot).Nodup := by
    refine List.pairwise_map.mpr (standing.ordered.imp ?_)
    intro r s less same
    have equal : r.rank = s.rank := congrArg Slot.rank same
    exact absurd less (equal ▸ lt_irrefl _)
  rw [← standing.shows.slots]
  exact apart.map (Option.some_injective _)

theorem Standing.number (standing : Standing p g hostname base records ids rs) {one two : Nat}
    {r s : Record} (listed : one ∈ ids) (listed' : two ∈ ids) (there : records[one]? = some r)
    (there' : records[two]? = some s) (same : r.slot = s.slot) : one = two := by
  refine List.inj_on_of_nodup_map standing.once listed listed' ?_
  rw [there, there', Option.map_some, Option.map_some, same]

-- Numbers of records in ascending order of the records.
def Before (records : List Record) (one two : Nat) : Prop :=
  ∃ r s, records[one]? = some r ∧ records[two]? = some s ∧ r.rank < s.rank

theorem Standing.before (standing : Standing p g hostname base records ids rs) :
    ids.Pairwise (Before records) := by
  let lifted : Option Record → Option Record → Prop := fun a b =>
    ∃ r s, a = some r ∧ b = some s ∧ r.rank < s.rank
  have shown : (ids.map fun id => records[id]?).Pairwise lifted := by
    rw [show ids.map (fun id => records[id]?) = rs.map some from standing.shows]
    refine List.pairwise_map.mpr (standing.ordered.imp ?_)
    intro r s less
    exact ⟨r, s, rfl, rfl, less⟩
  have numbered := List.pairwise_map.mp shown
  exact numbered

theorem Standing.numbers_unique {ids' : List Nat} {rs' : List Record}
    (one : Standing p g hostname base records ids rs)
    (two : Standing p g hostname base records ids' rs') (inside : ∀ id ∈ ids', id ∈ ids) :
    ids' = ids := by
  have irreflexive : Std.Irrefl (Before records) := by
    refine ⟨fun id less => ?_⟩
    obtain ⟨r, s, there, there', less⟩ := less
    cases Option.some.inj (there.symm.trans there')
    exact lt_irrefl _ less
  have antisymmetric : Std.Antisymm (Before records) := by
    refine ⟨fun a b less more => ?_⟩
    obtain ⟨r, s, there, there', less⟩ := less
    obtain ⟨s', r', here', here, more⟩ := more
    cases Option.some.inj (there.symm.trans here)
    cases Option.some.inj (there'.symm.trans here')
    exact absurd more (lt_asymm less)
  refine two.before.eq_of_mem_iff one.before fun id => ⟨inside id, ?_⟩
  intro listed
  obtain ⟨r, member, there⟩ := one.shows.mem_record listed
  obtain ⟨s, member', row⟩ := (two.rows r.row).mpr ((one.rows r.row).mp ⟨r, member, rfl⟩)
  obtain ⟨id', listed', there'⟩ := two.shows.mem_id member'
  rw [one.number listed (inside id' listed') there there' (congrArg Row.slot row).symm]
  exact listed'

theorem imprint_same {r : Record} {marks : List (Json × Json)} (text : ∀ m ∈ marks, m.1.IsText)
    (held : ∀ m ∈ marks, Entries.value? m.1 r.attributes = some m.2) :
    (r.row.emission marks).imprint r = r := by
  have marked : r.marked marks = r := by
    induction marks with
    | nil => rfl
    | cons m marks ih =>
      have first : r.attributes.set m.1 m.2 = r.attributes :=
        Entries.set_held (text m (List.mem_cons_self ..)) (held m (List.mem_cons_self ..))
      have rest := ih (fun n member => text n (List.mem_cons_of_mem _ member))
        fun n member => held n (List.mem_cons_of_mem _ member)
      simpa [Record.marked, first] using rest
  exact marked

theorem Standing.upheld (labels : TextLabels g.labels)
    (standing : Standing p g hostname base records ids rs) {start : Ledger} (sound : start.Sound)
    (opened : Ledger.opening records ids = .ok start) (same : start.records = records)
    (waiting : ∀ h ∈ start.pending, h.2 ∈ ids) {row : Row} {marks : List (Json × Json)}
    (due : Due p g hostname base row marks) : Plan.Upheld start (row.emission marks) := by
  obtain ⟨r, member, rfl⟩ := (standing.rows row).mpr ⟨marks, due⟩
  obtain ⟨id, listed, there⟩ := standing.shows.mem_id member
  have pending : r.slot ∈ start.pending.slots :=
    (Ledger.opening_slots (standing.allText labels) opened).mpr
      (mem_currentSlots.mpr ⟨id, listed, r, there, rfl⟩)
  obtain ⟨id', held⟩ := Holdings.mem_slots.mp pending
  obtain ⟨r', there', slot⟩ := sound.pending_holds _ held
  rw [same] at there'
  obtain rfl : id' = id := standing.number (waiting _ held) listed there' there slot
  refine ⟨id', r, held, by rw [same]; exact there, imprint_same due.mark_text ?_⟩
  intro m mark
  exact standing.advertised r member m.1 m.2 ⟨r.row, marks, due, rfl, mark⟩

-- What stands is published as it stands.
theorem publish_standing (labels : TextLabels g.labels) (left : listenerBase (.str hostname) = .ok base)
    (accepted : p.refusal? = none) (sound : (plan p g (.str hostname) base).fault = none)
    (standing : Standing p g hostname base records ids rs) :
    (publish g (.str hostname) p records (some ids)).published = .ok ids ∧
      (publish g (.str hostname) p records (some ids)).records = records := by
  have text := standing.allText labels
  obtain ⟨start, opened, startSound, none, same, waiting⟩ := Ledger.opening_sound text
  have upheld : ∀ e ∈ Plan.emissions (plan p g (.str hostname) base).acts,
      e.Fit ∧ Plan.Upheld start e := by
    intro e member
    obtain ⟨row, marks, due, rfl⟩ := (plan_emissions labels sound e).mp member
    exact ⟨due.fit labels, standing.upheld labels startSound opened same waiting due⟩
  obtain ⟨after, log, ran, steady⟩ := Plan.runActs_steady startSound none upheld
  have kept : (publish g (.str hostname) p records (some ids)).records = records := by
    simp [publish, left, accepted, opened, carryOut, Plan.run, ran, sound, steady.records, same]
  obtain ⟨start', ids', rs', same', waiting', done, delivered⟩ :=
    publish_delivered labels text left accepted sound
  rw [kept] at delivered
  have inside : ∀ id ∈ ids', id ∈ ids := by
    intro id listed
    obtain ⟨r, there, origin, drawn⟩ := delivered.drawn id listed
    cases drawn.source with
    | waiting t held => exact waiting' _ held
    | blank fresh _ =>
      have bound : id < records.length := (List.getElem?_eq_some_iff.mp there).1
      rw [same'] at fresh
      exact absurd bound (Nat.not_lt.mpr fresh)
  refine ⟨?_, kept⟩
  rw [done, standing.numbers_unique delivered.standing inside]

end Standing

-- Publishing again, on what was published and for the same gateway, hostname and policy, gives the
-- same records in the same order and leaves every record there is as it was.
theorem publish_again {g : Gateway} {hostname : LooseText} {p : Policy} {records : List Record}
    {current ids : List Nat} (labels : TextLabels g.labels) (text : AllText records current)
    (done : (publish g (.str hostname) p records (some current)).published = .ok ids) :
    let once := publish g (.str hostname) p records (some current)
    let twice := publish g (.str hostname) p once.records (some ids)
    twice.published = .ok ids ∧ twice.records = once.records := by
  obtain ⟨base, left, accepted, sound⟩ := publish_parts done
  obtain ⟨start, ids', rs, _, _, done', delivered⟩ := publish_delivered labels text left accepted sound
  cases Except.ok.inj (done'.symm.trans done)
  exact publish_standing labels left accepted sound delivered.standing

theorem ireland_again : TextLabels ireland.labels ∧ AllText misplaced [0] ∧
    (publish ireland (.str "*.x") spread misplaced (some [0])).published = .ok [5, 1, 3, 2, 0, 4] ∧
    (publish ireland (.str "*.x") spread
      (publish ireland (.str "*.x") spread misplaced (some [0])).records
      (some [5, 1, 3, 2, 0, 4])).published = .ok [5, 1, 3, 2, 0, 4] ∧
    (publish ireland (.str "*.x") spread
      (publish ireland (.str "*.x") spread misplaced (some [0])).records
      (some [5, 1, 3, 2, 0, 4])).records =
      (publish ireland (.str "*.x") spread misplaced (some [0])).records :=
  ⟨ireland_labels, misplaced_text, ireland_published,
    publish_again ireland_labels misplaced_text ireland_published⟩

end Synthesis
end DnsSteering
