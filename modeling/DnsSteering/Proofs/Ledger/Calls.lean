import DnsSteering.Proofs.Ledger.Answers
import Mathlib.Data.List.Induction

namespace DnsSteering

namespace Request

-- The slots of requests, each once, in the order of first request.
def slots : List Request → List Slot
  | [] => []
  | q :: qs => q.slot :: (slots qs).filter fun s => s ≠ q.slot

def last? (s : Slot) (qs : List Request) : Option Request := qs.reverse.find? fun q => q.slot = s

theorem mem_slots {s : Slot} {qs : List Request} : s ∈ slots qs ↔ ∃ q ∈ qs, q.slot = s := by
  induction qs with
  | nil => simp [slots]
  | cons q qs ih =>
    simp only [slots, List.mem_cons, List.mem_filter, ih]
    constructor
    · intro held
      rcases held with rfl | ⟨⟨p, member, rfl⟩, _⟩
      · exact ⟨q, .inl rfl, rfl⟩
      · exact ⟨p, .inr member, rfl⟩
    · intro requested
      obtain ⟨p, rfl | member, rfl⟩ := requested
      · exact .inl rfl
      · by_cases same : p.slot = q.slot
        · exact .inl same
        · exact .inr ⟨⟨p, member, rfl⟩, by simpa using same⟩

theorem slots_concat (qs : List Request) (q : Request) :
    slots (qs ++ [q]) = if q.slot ∈ slots qs then slots qs else slots qs ++ [q.slot] := by
  induction qs with
  | nil => simp [slots]
  | cons p qs ih =>
    simp only [List.cons_append, slots, ih, List.mem_cons, List.mem_filter]
    by_cases same : q.slot = p.slot
    · by_cases old : p.slot ∈ slots qs <;> simp [same, old]
    · by_cases old : q.slot ∈ slots qs <;> simp [same, old]

theorem last?_concat (s : Slot) (qs : List Request) (q : Request) :
    last? s (qs ++ [q]) = if q.slot = s then some q else last? s qs := by
  by_cases here : q.slot = s <;> simp [last?, here]

end Request

namespace Ledger

inductive Call where
  | request (q : Request)
  | mark (id : Nat) (key value : Json)

def Call.request? : Call → Option Request
  | .request q => some q
  | .mark _ _ _ => none

def perform (l : Ledger) : Call → Ledger
  | .request q => (l.put q).1
  | .mark id key value => (l.setAttribute id key value).1

def performAll (l : Ledger) (calls : List Call) : Ledger := calls.foldl perform l

def requests (calls : List Call) : List Request := calls.filterMap Call.request?

theorem performAll_concat (l : Ledger) (calls : List Call) (call : Call) :
    l.performAll (calls ++ [call]) = (l.performAll calls).perform call := by
  simp [performAll]

-- What holds at every point of a run.
structure Follows (l : Ledger) (qs : List Request) : Prop where
  sound : l.Sound
  slots : l.emitted.slots = Request.slots qs
  latest : ∀ h ∈ l.emitted, ∃ r q, l.records[h.2]? = some r ∧ Request.last? h.1 qs = some q ∧
    r.targets = q.items ∧ r.ttl = q.ttl

theorem Follows.request {l after : Ledger} {qs : List Request} {q : Request} {id : Nat}
    (follows : l.Follows qs) (answered : l.Answered q after id) : after.Follows (qs ++ [q]) := by
  have sound := answered.sound follows.sound
  refine ⟨sound, ?_, ?_⟩
  · rw [answered.emitted_slots, Request.slots_concat, follows.slots]
  · intro h held
    rw [Request.last?_concat]
    by_cases here : q.slot = h.1
    · obtain ⟨r, there, _⟩ := answered.renewed follows.sound
      have number : id = h.2 := by
        refine Holdings.holding_unique sound.emitted_once answered.held ?_
        rw [here]
        exact held
      exact ⟨_, q, number ▸ there, if_pos here, rfl, rfl⟩
    · obtain ⟨old, other⟩ := answered.otherHeld follows.sound (List.mem_append_left _ held)
        (Ne.symm here)
      have given : h ∈ l.emitted := by
        rcases answered.emitted_cases held with rfl | given
        · exact absurd rfl here
        · exact given
      obtain ⟨r, p, there, last, targets, ttl⟩ := follows.latest h given
      have kept := answered.others other (follows.sound.lt_of_held old)
      exact ⟨r, p, kept.trans there, (if_neg here).trans last, targets, ttl⟩

theorem Follows.mark {l after : Ledger} {qs : List Request} (follows : l.Follows qs)
    (remarked : l.Remarked after) : after.Follows qs := by
  refine ⟨remarked.sound follows.sound, ?_, ?_⟩
  · rw [remarked.emitted]
    exact follows.slots
  · intro h held
    rw [remarked.emitted] at held
    obtain ⟨r, q, there, last, targets, ttl⟩ := follows.latest h held
    obtain ⟨r', there', bare⟩ := remarked.there there
    refine ⟨r', q, there', last, ?_, ?_⟩
    · exact (congrArg Record.targets bare).trans targets
    · exact (congrArg Record.ttl bare).trans ttl

def FitCalls (calls : List Call) : Prop := ∀ q, .request q ∈ calls → q.Fit

theorem performAll_follows {start : Ledger} (sound : start.Sound) (none : start.emitted = [])
    (calls : List Call) (fit : FitCalls calls) :
    (start.performAll calls).Follows (requests calls) := by
  -- The last call is answered by the ledger that all calls before it left.
  induction calls using List.reverseRecOn with
  | nil =>
    exact ⟨sound, by simp [performAll, none, requests, Request.slots], by simp [performAll, none]⟩
  | append_singleton calls call ih =>
    have follows := ih fun q member => fit q (List.mem_append_left _ member)
    rw [performAll_concat]
    cases call with
    | request q =>
      obtain ⟨after, id, done, answered⟩ :=
        put_answered follows.sound (fit q (List.mem_append_right _ (List.mem_singleton.mpr rfl)))
      have split : requests (calls ++ [.request q]) = requests calls ++ [q] := by
        simp [requests, Call.request?]
      rw [split]
      simp only [perform, done]
      exact follows.request answered
    | mark id key value =>
      have same : requests (calls ++ [.mark id key value]) = requests calls := by
        simp [requests, Call.request?]
      rw [same]
      exact follows.mark (setAttribute_remarked _ id key value)

-- What every answer and every mark keeps is kept by a run.
theorem performAll_preserves {I : Ledger → Prop} (sound : ∀ {l}, I l → l.Sound)
    (request : ∀ {l after q id}, I l → l.Answered q after id → I after)
    (mark : ∀ {l after}, I l → l.Remarked after → I after) {start : Ledger} (holds : I start)
    (calls : List Call) (fit : FitCalls calls) : I (start.performAll calls) := by
  induction calls using List.reverseRecOn with
  | nil => exact holds
  | append_singleton calls call ih =>
    have reached := ih fun q member => fit q (List.mem_append_left _ member)
    rw [performAll_concat]
    cases call with
    | request q =>
      obtain ⟨after, id, done, answered⟩ :=
        put_answered (sound reached) (fit q (List.mem_append_right _ (List.mem_singleton.mpr rfl)))
      simp only [perform, done]
      exact request reached answered
    | mark id key value => exact mark reached (setAttribute_remarked _ id key value)

theorem opening_parts {records : List Record} {current : List Nat} {start : Ledger}
    (opened : opening records current = .ok start) :
    pendingOf records current [] = .ok start.pending ∧ start.records = records ∧ start.emitted = [] := by
  obtain ⟨pending, done, rfl⟩ := ok_of_map opened
  exact ⟨done, rfl, rfl⟩

theorem opening_sound {records : List Record} {current : List Nat} (text : AllText records current) :
    ∃ start, opening records current = .ok start ∧ start.Sound ∧ start.emitted = [] ∧
      start.records = records ∧ ∀ h ∈ start.pending, h.2 ∈ current := by
  obtain ⟨pending, done, once, holds, drawn⟩ :=
    pendingOf_holds current [] text List.nodup_nil (by intro h held; cases held)
  refine ⟨⟨records, pending, []⟩, by simp [opening, done, Except.map], ⟨once, holds⟩, rfl, rfl, ?_⟩
  intro h held
  exact (drawn h held).resolve_left (by simp)

-- What was given out is never given out for another slot.
theorem performAll_emitted {start : Ledger} (sound : start.Sound) (none : start.emitted = [])
    (before after : List Call) (fit : FitCalls (before ++ after)) {h : Slot × Nat}
    (held : h ∈ (start.performAll before).emitted) :
    h ∈ (start.performAll (before ++ after)).emitted := by
  induction after using List.reverseRecOn with
  | nil => simpa using held
  | append_singleton after call ih =>
    rw [← List.append_assoc] at fit ⊢
    have earlier : FitCalls (before ++ after) := fun q member => fit q (List.mem_append_left _ member)
    have kept := ih earlier
    have follows := performAll_follows sound none (before ++ after) earlier
    rw [performAll_concat]
    cases call with
    | request q =>
      obtain ⟨next, id, done, answered⟩ :=
        put_answered follows.sound (fit q (List.mem_append_right _ (List.mem_singleton.mpr rfl)))
      simp only [perform, done]
      exact answered.emitted_old kept
    | mark id key value =>
      simp only [perform, (setAttribute_remarked _ id key value).emitted]
      exact kept

-- A request within a run is answered with the record that its slot has in the end.
theorem performAll_answered {start : Ledger} (sound : start.Sound) (none : start.emitted = [])
    (before : List Call) (q : Request) (after : List Call)
    (fit : FitCalls (before ++ .request q :: after)) :
    ∃ next id, (start.performAll before).put q = (next, .ok id) ∧
      (start.performAll before).Answered q next id ∧
      (q.slot, id) ∈ (start.performAll (before ++ .request q :: after)).emitted := by
  have reached := performAll_follows sound none before fun p member =>
    fit p (List.mem_append_left _ member)
  obtain ⟨next, id, done, answered⟩ := put_answered reached.sound (fit q (by simp))
  have step : start.performAll (before ++ [.request q]) = next := by
    rw [performAll_concat]
    simp [perform, done]
  have list : before ++ .request q :: after = (before ++ [.request q]) ++ after := by simp
  refine ⟨next, id, done, answered, ?_⟩
  rw [list]
  refine performAll_emitted sound none _ _ (by rwa [← list]) ?_
  rw [step]
  exact answered.held

-- What a run leaves, said by its calls.
structure Settled (start : Ledger) (calls : List Call) : Prop where
  -- One record for each slot requested, in the order of first request.
  slots : (start.performAll calls).emittedIds.map
      (fun id => ((start.performAll calls).records[id]?).map Record.slot) =
    (Request.slots (requests calls)).map some
  once : (start.performAll calls).emittedIds.Nodup
  -- Each holds what was last requested for its slot.
  latest : ∀ id ∈ (start.performAll calls).emittedIds, ∃ r q,
    (start.performAll calls).records[id]? = some r ∧
      Request.last? r.slot (requests calls) = some q ∧
      q.targets.items? = some r.targets ∧ r.ttl = q.ttl
  -- A request is answered with the record that its slot has in the end, and no record that was given
  -- out for another slot is touched.
  answers : ∀ before q after, calls = before ++ .request q :: after →
    ∃ id r, ((start.performAll before).put q).2 = .ok id ∧
      id ∈ (start.performAll calls).emittedIds ∧
      (start.performAll calls).records[id]? = some r ∧ r.slot = q.slot ∧
      ∀ n ∈ (start.performAll before).emittedIds, ∀ other,
        (start.performAll before).records[n]? = some other → other.slot ≠ q.slot →
          ((start.performAll before).put q).1.records[n]? = some other

theorem run_settled {records : List Record} {current : List Nat} (text : AllText records current)
    (calls : List Call) (fit : FitCalls calls) :
    ∃ start, opening records current = .ok start ∧ start.Settled calls := by
  obtain ⟨start, opened, sound, none, _, _⟩ := opening_sound text
  have follows := performAll_follows sound none calls fit
  refine ⟨start, opened, ?_, follows.sound.emittedIds_once, ?_, ?_⟩
  · rw [← follows.slots]
    exact follows.sound.emitted_shown
  · intro id member
    obtain ⟨h, held, rfl⟩ := List.mem_map.mp member
    obtain ⟨r, q, there, last, targets, ttl⟩ := follows.latest h held
    obtain ⟨r', there', slot⟩ := follows.sound.emitted_holds h held
    have equal : r' = r := Option.some.inj (there'.symm.trans there)
    have requested : q.Fit := by
      have found := List.mem_of_find?_eq_some last
      obtain ⟨call, listed, is⟩ := List.mem_filterMap.mp (List.mem_reverse.mp found)
      cases call with
      | request p => cases is; exact fit _ listed
      | mark => cases is
    refine ⟨r, q, there, ?_, ?_, ttl⟩
    · rw [← equal, slot]
      exact last
    · rw [targets]
      exact requested.listed
  · intro before q after split
    subst split
    obtain ⟨next, id, done, answered, given⟩ := performAll_answered sound none before q after fit
    have reached := performAll_follows sound none before fun p member =>
      fit p (List.mem_append_left _ member)
    obtain ⟨r, there, slot⟩ := follows.sound.emitted_holds _ given
    refine ⟨id, r, by rw [done], List.mem_map_of_mem given, there, slot, ?_⟩
    intro n member other old distinct
    rw [done]
    exact answered.kept reached.sound member old distinct

-- Two records of one slot, and requests for both types of their name.
def doubled : List Record := [
  ⟨.str "w.x", .a, [.str "192.0.2.1"], .int 60, .str "", [], []⟩,
  ⟨.str "w.x", .a, [.str "192.0.2.2"], .int 60, .str "", [], [(.str "id", .str "hc")]⟩]

def retyping : List Call := [
  .request ⟨.str "w.x", .arr [.str "edge.x"], .cname, .str "", .int 300⟩,
  .mark 1 (.str "weight") (.str "7"),
  .request ⟨.str "w.x", .arr [.str "192.0.2.3"], .a, .str "", .int 60⟩]

theorem retyping_settled : AllText doubled [0, 1] ∧ FitCalls retyping ∧
    ∃ start, opening doubled [0, 1] = .ok start ∧ start.Settled retyping := by
  have text : AllText doubled [0, 1] := by
    apply allText_of
    simp [doubled, Record.slot, Slot.isText_iff]
  have fit : FitCalls retyping := by
    intro q member
    simp only [retyping, List.mem_cons, Call.request.injEq, reduceCtorEq, List.not_mem_nil,
      or_false, false_or] at member
    rcases member with rfl | rfl <;> exact ⟨⟨⟨_, rfl⟩, ⟨_, rfl⟩⟩, rfl⟩
  exact ⟨text, fit, run_settled text retyping fit⟩

end Ledger
end DnsSteering
