import DnsSteering.Proofs.Ledger.Calls
import DnsSteering.Synthesis

namespace DnsSteering

structure Emission where
  request : Request
  marks : List (Json × Json)

namespace Emission

abbrev slot (e : Emission) : Slot := e.request.slot

structure Fit (e : Emission) : Prop where
  request : e.request.Fit
  marks : ∀ m ∈ e.marks, m.1.IsText

def imprint (e : Emission) (r : Record) : Record := (e.request.renew r).marked e.marks

-- The emissions of a slot, one after the other.
def imprintAll (s : Slot) (es : List Emission) (r : Record) : Record :=
  es.foldl (fun r e => if e.slot = s then e.imprint r else r) r

theorem imprintAll_concat (s : Slot) (es : List Emission) (e : Emission) (r : Record) :
    imprintAll s (es ++ [e]) r =
      if e.slot = s then e.imprint (imprintAll s es r) else imprintAll s es r := by
  simp [imprintAll]

theorem imprintAll_none {s : Slot} {es : List Emission} (none : ∀ e ∈ es, e.slot ≠ s) (r : Record) :
    imprintAll s es r = r := by
  induction es using List.reverseRecOn with
  | nil => rfl
  | append_singleton es e ih =>
    have last : e.slot ≠ s := none e (List.mem_append_right _ (List.mem_singleton.mpr rfl))
    rw [imprintAll_concat, if_neg last]
    exact ih fun d member => none d (List.mem_append_left _ member)

-- Name, identifier and labels are those of the origin, all else that is no mark is of one emission.
structure Imprinted (es : List Emission) (s : Slot) (r after : Record) : Prop where
  name : after.name = r.name
  identifier : after.identifier = r.identifier
  labels : after.labels = r.labels
  renewed : (∃ e ∈ es, e.slot = s) → ∃ e ∈ es, e.slot = s ∧ after.type = s.type ∧
    after.targets = e.request.items ∧ after.ttl = e.request.ttl

theorem imprintAll_imprinted (s : Slot) (es : List Emission) (r : Record) :
    Imprinted es s r (imprintAll s es r) := by
  induction es using List.reverseRecOn with
  | nil => exact ⟨rfl, rfl, rfl, by simp⟩
  | append_singleton es e ih =>
    rw [imprintAll_concat]
    by_cases here : e.slot = s
    · rw [if_pos here]
      refine ⟨ih.name, ih.identifier, ih.labels, fun _ => ?_⟩
      have type : e.request.type = s.type := congrArg Slot.type here
      exact ⟨e, List.mem_append_right _ (List.mem_singleton.mpr rfl), here, type, rfl, rfl⟩
    · rw [if_neg here]
      refine ⟨ih.name, ih.identifier, ih.labels, ?_⟩
      intro requested
      obtain ⟨d, member, slot⟩ := requested
      cases List.mem_append.mp member with
      | inl old =>
        obtain ⟨f, held, facts⟩ := ih.renewed ⟨d, old, slot⟩
        exact ⟨f, List.mem_append_left _ held, facts⟩
      | inr last =>
        rw [List.mem_singleton.mp last] at slot
        exact absurd slot here

-- What every mark keeps of attributes, the emissions of a slot keep.
theorem imprintAll_attributes {P : Entries → Prop} {s : Slot} {es : List Emission} {r : Record}
    (kept : ∀ e ∈ es, ∀ m ∈ e.marks, ∀ entries, P entries → P (entries.set m.1 m.2))
    (first : P r.attributes) : P (imprintAll s es r).attributes := by
  have one : ∀ marks : List (Json × Json),
      (∀ m ∈ marks, ∀ entries, P entries → P (entries.set m.1 m.2)) →
      ∀ entries, P entries → P (marks.foldl (fun es m => es.set m.1 m.2) entries) := by
    intro marks
    induction marks with
    | nil => intro _ entries holds; exact holds
    | cons m marks ih =>
      intro each entries holds
      exact ih (fun n member => each n (List.mem_cons_of_mem _ member)) _
        (each m (List.mem_cons_self ..) entries holds)
  induction es using List.reverseRecOn with
  | nil => exact first
  | append_singleton es e ih =>
    have earlier := ih fun d member => kept d (List.mem_append_left _ member)
    rw [imprintAll_concat]
    by_cases here : e.slot = s
    · rw [if_pos here]
      exact one e.marks (kept e (by simp)) _ earlier
    · rw [if_neg here]
      exact earlier

-- The slot is marked with a key by some emission.
def Marks (es : List Emission) (s : Slot) (key value : Json) : Prop :=
  ∃ e ∈ es, e.slot = s ∧ (key, value) ∈ e.marks

theorem value?_marked {marks : List (Json × Json)} (text : ∀ m ∈ marks, m.1.IsText) (key : Json)
    (r : Record) :
    (∃ v, (key, v) ∈ marks ∧ Entries.value? key (r.marked marks).attributes = some v) ∨
      ((∀ v, (key, v) ∉ marks) ∧
        Entries.value? key (r.marked marks).attributes = Entries.value? key r.attributes) := by
  induction marks using List.reverseRecOn with
  | nil => exact .inr ⟨by simp, rfl⟩
  | append_singleton marks m ih =>
    obtain ⟨k, v⟩ := m
    have here : k.IsText := text _ (List.mem_append_right _ (List.mem_singleton.mpr rfl))
    have set : (r.marked (marks ++ [(k, v)])).attributes = (r.marked marks).attributes.set k v := by
      simp [Record.marked]
    rw [set, Entries.value?_set here]
    by_cases same : key = k
    · subst same
      exact .inl ⟨v, by simp, by simp⟩
    · rw [if_neg same]
      rcases ih fun m member => text m (List.mem_append_left _ member) with ⟨w, member, got⟩ | ⟨none, got⟩
      · exact .inl ⟨w, List.mem_append_left _ member, got⟩
      · refine .inr ⟨fun w member => ?_, got⟩
        cases List.mem_append.mp member with
        | inl old => exact none w old
        | inr last => exact same (congrArg Prod.fst (List.mem_singleton.mp last))

-- What stands under a key in the end was set by an emission of the slot, or else nothing set it.
theorem value?_imprintAll {es : List Emission} (fit : ∀ e ∈ es, e.Fit) (s : Slot) (key : Json)
    (r : Record) :
    (∃ v, Marks es s key v ∧ Entries.value? key (imprintAll s es r).attributes = some v) ∨
      ((∀ v, ¬ Marks es s key v) ∧
        Entries.value? key (imprintAll s es r).attributes = Entries.value? key r.attributes) := by
  induction es using List.reverseRecOn with
  | nil => exact .inr ⟨by simp [Marks], rfl⟩
  | append_singleton es e ih =>
    have earlier := ih fun d member => fit d (List.mem_append_left _ member)
    have kept : ∀ v, Marks es s key v → Marks (es ++ [e]) s key v := by
      intro v mark
      obtain ⟨d, member, facts⟩ := mark
      exact ⟨d, List.mem_append_left _ member, facts⟩
    have split : ∀ v, Marks (es ++ [e]) s key v →
        Marks es s key v ∨ (e.slot = s ∧ (key, v) ∈ e.marks) := by
      intro v marked
      obtain ⟨d, member, slot, mark⟩ := marked
      cases List.mem_append.mp member with
      | inl old => exact .inl ⟨d, old, slot, mark⟩
      | inr last =>
        rw [List.mem_singleton.mp last] at slot mark
        exact .inr ⟨slot, mark⟩
    have last : e ∈ es ++ [e] := List.mem_append_right _ (List.mem_singleton.mpr rfl)
    rw [imprintAll_concat]
    -- Only the last emission of the slot that marks the key counts.
    by_cases here : e.slot = s
    · rw [if_pos here]
      rcases value?_marked (fit e last).marks key (e.request.renew (imprintAll s es r)) with
        ⟨v, mark, got⟩ | ⟨unmarked, got⟩
      · exact .inl ⟨v, ⟨e, last, here, mark⟩, got⟩
      · rcases earlier with ⟨v, mark, before⟩ | ⟨none, before⟩
        · exact .inl ⟨v, kept v mark, got.trans before⟩
        · refine .inr ⟨fun v mark => ?_, got.trans before⟩
          exact (split v mark).elim (none v) fun own => unmarked v own.2
    · rw [if_neg here]
      rcases earlier with ⟨v, mark, before⟩ | ⟨none, before⟩
      · exact .inl ⟨v, kept v mark, before⟩
      · exact .inr ⟨fun v mark => (split v mark).elim (none v) fun own => here own.1, before⟩

end Emission

def Act.emission? : Act → Option Emission
  | .emit request attributes => some ⟨request, attributes⟩
  | .note _ => none

namespace Plan

def emissions (acts : List Act) : List Emission := acts.filterMap Act.emission?

@[simp] theorem emissions_nil : emissions [] = [] := rfl

@[simp] theorem emissions_emit (q : Request) (marks : List (Json × Json)) (acts : List Act) :
    emissions (.emit q marks :: acts) = ⟨q, marks⟩ :: emissions acts := rfl

@[simp] theorem emissions_note (line : Log.Line) (acts : List Act) :
    emissions (.note line :: acts) = emissions acts := rfl

@[simp] theorem emissions_append (acts more : List Act) :
    emissions (acts ++ more) = emissions acts ++ emissions more := by
  simp [emissions]

@[simp] theorem emissions_notes (log : List Log.Line) : emissions (log.map .note) = [] := by
  induction log with
  | nil => rfl
  | cons line log ih => simp [ih]

-- Where the record of a slot comes from: it was waiting, or it is made for the slot.
inductive Origin (start : Ledger) (s : Slot) (id : Nat) (r : Record) : Prop where
  | waiting (t : Slot) (held : (t, id) ∈ start.pending) (there : start.records[id]? = some r)
      (alike : r.slot.Alike s)
  | blank (fresh : start.records.length ≤ id) (empty : r = s.blank)

theorem Origin.alike {start : Ledger} {s : Slot} {id : Nat} {r : Record} (origin : Origin start s id r) :
    r.slot.Alike s := by
  cases origin with
  | waiting t held there alike => exact alike
  | blank fresh empty =>
    rw [empty]
    exact ⟨rfl, rfl⟩

-- What holds at every point of a plan, given the emissions so far.
structure Progress (start : Ledger) (done : List Emission) (l : Ledger) : Prop where
  sound : l.Sound
  slots : l.emitted.slots = Request.slots (done.map (·.request))
  drawn : ∀ h ∈ l.emitted, ∃ r, Origin start h.1 h.2 r ∧
    l.records[h.2]? = some (Emission.imprintAll h.1 done r)
  pending : ∀ h ∈ l.pending, h ∈ start.pending
  kept : ∀ n < start.records.length, n ∉ l.emittedIds → l.records[n]? = start.records[n]?
  grown : start.records.length ≤ l.records.length

theorem Progress.unemitted {start l : Ledger} {done : List Emission} (progress : Progress start done l)
    {s : Slot} (new : s ∉ l.emitted.slots) : ∀ e ∈ done, e.slot ≠ s := by
  intro e member here
  apply new
  rw [progress.slots, Request.mem_slots, ← here]
  exact ⟨e.request, List.mem_map_of_mem member, rfl⟩

section Step

variable {start l after : Ledger} {done : List Emission} {e : Emission} {id : Nat}

-- The record that an answer renews has an origin, and all earlier emissions of its slot.
theorem Progress.source (sound : start.Sound) (progress : Progress start done l) {r : Record}
    (alike : r.slot.Alike e.slot) (source : l.Source e.slot id r) :
    ∃ r₀, Origin start e.slot id r₀ ∧ Emission.imprintAll e.slot done r₀ = r := by
  cases source with
  | given held there =>
    obtain ⟨r₀, origin, got⟩ := progress.drawn _ held
    exact ⟨r₀, origin, Option.some.inj (got.symm.trans there)⟩
  | waiting new t held there =>
    refine ⟨r, ?_, Emission.imprintAll_none (progress.unemitted new) r⟩
    have first := progress.pending _ held
    have old := sound.lt_of_held (List.mem_append_right _ first)
    have untouched := progress.kept id old (progress.sound.pending_notEmitted held)
    exact .waiting t first (untouched ▸ there) alike
  | blank new fresh empty =>
    refine ⟨r, .blank ?_ empty, Emission.imprintAll_none (progress.unemitted new) r⟩
    rw [fresh]
    exact progress.grown

theorem Progress.step (sound : start.Sound) (progress : Progress start done l)
    (answered : l.Answered e.request after id) {r : Record}
    (there : after.records[id]? = some (e.request.renew r)) (alike : r.slot.Alike e.slot)
    (source : l.Source e.slot id r) :
    Progress start (done ++ [e]) { after with records := after.records.set id (e.imprint r) } := by
  have bound : id < after.records.length := (List.getElem?_eq_some_iff.mp there).1
  have answer_sound := answered.sound progress.sound
  have others : ∀ n, n ≠ id → n < l.records.length →
      (after.records.set id (e.imprint r))[n]? = l.records[n]? := by
    intro n other old
    rw [List.getElem?_set_ne (Ne.symm other)]
    exact answered.others other old
  refine ⟨answer_sound.replace there rfl, ?_, ?_, ?_, ?_, ?_⟩
  · rw [List.map_append, List.map_singleton, Request.slots_concat, ← progress.slots]
    exact answered.emitted_slots
  · intro h held
    -- The record of the answer is the only one that changes.
    by_cases here : h.1 = e.slot
    · have number : h.2 = id := by
        refine Holdings.holding_unique answer_sound.emitted_once ?_ answered.held
        rw [← show h.1 = e.request.slot from here]
        exact held
      obtain ⟨r₀, origin, was⟩ := progress.source sound alike source
      refine ⟨r₀, by rw [here, number]; exact origin, ?_⟩
      rw [number, here, Emission.imprintAll_concat, if_pos rfl, was]
      exact List.getElem?_set_self bound
    · obtain ⟨old, other⟩ := answered.otherHeld progress.sound (List.mem_append_left _ held) here
      have given : h ∈ l.emitted := (answered.emitted_cases held).resolve_left fun own =>
        here (congrArg Prod.fst own)
      obtain ⟨r₀, origin, got⟩ := progress.drawn h given
      refine ⟨r₀, origin, ?_⟩
      rw [Emission.imprintAll_concat, if_neg (Ne.symm here), ← got]
      exact others h.2 other (progress.sound.lt_of_held old)
  · intro h held
    exact progress.pending h (answered.pending_old held)
  · intro n old unheld
    have other : n ≠ id := by
      intro here
      apply unheld
      rw [here]
      exact List.mem_map_of_mem answered.held
    have before : n ∉ l.emittedIds := by
      intro held
      obtain ⟨h, given, rfl⟩ := List.mem_map.mp held
      exact unheld (List.mem_map_of_mem (answered.emitted_old given))
    refine (others n other (Nat.lt_of_lt_of_le old progress.grown)).trans ?_
    exact progress.kept n old before
  · rw [List.length_set]
    exact Nat.le_trans progress.grown answered.grown

end Step

-- What each emission keeps is kept by a plan, and a plan whose emissions are fit runs to its end. The
-- induction is on what is left of it.
theorem runActs_keeps {I : List Emission → Ledger → Prop} {allowed : Emission → Prop}
    (fit : ∀ e, allowed e → e.Fit) (sound : ∀ {done l}, I done l → l.Sound)
    (step : ∀ {done l e after id r}, allowed e → I done l → l.Answered e.request after id →
      after.records[id]? = some (e.request.renew r) → r.slot.Alike e.slot → l.Source e.slot id r →
      I (done ++ [e]) { after with records := after.records.set id (e.imprint r) })
    {l : Ledger} {done : List Emission} {acts : List Act} (holds : I done l)
    (given : ∀ e ∈ emissions acts, allowed e) :
    ∃ after log, runActs l acts = (after, none, log) ∧ I (done ++ emissions acts) after := by
  induction acts generalizing l done with
  | nil => exact ⟨l, [], rfl, by simpa using holds⟩
  | cons act acts ih =>
    cases act with
    | note line =>
      obtain ⟨after, log, ran, reached⟩ := ih holds given
      exact ⟨after, line :: log, by simp [runActs, ran], reached⟩
    | emit q marks =>
      have first : allowed ⟨q, marks⟩ := given _ (List.mem_cons_self ..)
      obtain ⟨next, id, put, answered⟩ := Ledger.put_answered (sound holds) (fit _ first).request
      obtain ⟨r, there, alike, source⟩ := answered.renewed (sound holds)
      have marked := Ledger.setAttributes_text (fit _ first).marks there
      obtain ⟨after, log, ran, reached⟩ :=
        ih (step first holds answered there alike source)
          fun e member => given e (List.mem_cons_of_mem _ member)
      refine ⟨after, l.noteOf next id ++ log, ?_, by simpa using reached⟩
      simp only [runActs, put, marked]
      rw [show (q.renew r).marked marks = Emission.imprint ⟨q, marks⟩ r from rfl, ran]

-- Likewise for what does not depend on the emissions so far.
theorem runActs_preserves {I : Ledger → Prop} {allowed : Emission → Prop}
    (fit : ∀ e, allowed e → e.Fit) (sound : ∀ {l}, I l → l.Sound)
    (step : ∀ {l e after id r}, allowed e → I l → l.Answered e.request after id →
      after.records[id]? = some (e.request.renew r) →
      I { after with records := after.records.set id (e.imprint r) })
    {l : Ledger} {acts : List Act} (holds : I l) (given : ∀ e ∈ emissions acts, allowed e) :
    ∃ after log, runActs l acts = (after, none, log) ∧ I after :=
  @runActs_keeps (fun _ l => I l) allowed fit (fun holds => sound holds)
    (fun fits holds answered there _ _ => step fits holds answered there) l [] acts holds given

theorem runActs_progress {start l : Ledger} {done : List Emission} {acts : List Act}
    (sound : start.Sound) (progress : Progress start done l) (fit : ∀ e ∈ emissions acts, e.Fit) :
    ∃ after log, runActs l acts = (after, none, log) ∧
      Progress start (done ++ emissions acts) after :=
  runActs_keeps (fun _ fit => fit) (fun progress => progress.sound)
    (fun _ progress answered there alike source => progress.step sound answered there alike source)
    progress fit

theorem opening_progress {start : Ledger} (sound : start.Sound) (none : start.emitted = []) :
    Progress start [] start :=
  ⟨sound, by simp [none, Request.slots], by simp [none], fun _ held => held, fun _ _ _ => rfl,
    Nat.le_refl _⟩

end Plan
end DnsSteering
