import DnsSteering.Proofs.Ledger.Calls
import DnsSteering.Proofs.Ledger.Openings
import Mathlib.Data.List.Dedup
import Mathlib.Data.List.Perm.Subperm

namespace DnsSteering

-- The types that slots have under a key, each once.
def typesUnder (key : Json × Json) (slots : List Slot) : List RecordType :=
  ((slots.filter fun s => s.key = key).map Slot.type).dedup

namespace Holdings

-- The numbers held under a key.
def under (key : Json × Json) (hs : Holdings) : List Nat :=
  (hs.filter fun h => h.1.key = key).map (·.2)

theorem mem_under {key : Json × Json} {hs : Holdings} {id : Nat} :
    id ∈ hs.under key ↔ ∃ s, (s, id) ∈ hs ∧ s.key = key := by
  simp [under]

-- Slots of one key are told apart by their types.
theorem length_under {key : Json × Json} {hs : Holdings} {slots : List Slot}
    (once : hs.slots.Nodup) (same : ∀ s, s ∈ hs.slots ↔ s ∈ slots) :
    (hs.under key).length = (typesUnder key slots).length := by
  have apart : ((hs.slots.filter fun s => s.key = key).map Slot.type).Nodup := by
    refine List.Nodup.map_on ?_ (once.filter _)
    intro s one t two type
    have left : s.key = key := by simpa using (List.mem_filter.mp one).2
    have right : t.key = key := by simpa using (List.mem_filter.mp two).2
    exact Slot.Alike.eq_of_type (Slot.alike_iff.mpr (left.trans right.symm)) type
  have perm : (typesUnder key slots).Perm ((hs.slots.filter fun s => s.key = key).map Slot.type) := by
    apply (List.perm_ext_iff_of_nodup (List.nodup_dedup _) apart).mpr
    intro type
    simp [same]
  have counted : (hs.slots.filter fun s => s.key = key) =
      (hs.filter fun h => h.1.key = key).map (·.1) := List.filter_map
  rw [perm.length_eq, List.length_map, counted, under, List.length_map, List.length_map]

end Holdings

namespace Ledger

-- The records given out under a key.
def givenFor (l : Ledger) (key : Json × Json) : List Nat :=
  l.emittedIds.filter fun id => (l.records[id]?).map (fun r => r.slot.key) = some key

section Sound

variable {l : Ledger} (sound : l.Sound) (key : Json × Json)

include sound

theorem Sound.givenFor_eq : l.givenFor key = l.emitted.under key := by
  unfold givenFor emittedIds Holdings.under
  rw [List.filter_map]
  congr 1
  apply List.filter_congr
  intro h held
  obtain ⟨r, there, slot⟩ := sound.emitted_holds h held
  simp [there, slot]

theorem Sound.under_once : (l.emitted.under key ++ l.pending.under key).Nodup := by
  have once := sound.ids_once
  rw [List.map_append] at once
  refine once.sublist ?_
  exact (List.filter_sublist.map _).append (List.filter_sublist.map _)

end Sound

-- What is known at every point of a run of the records that were pending and of those given out.
structure Tally (start l : Ledger) : Prop where
  sound : l.Sound
  waiting : ∀ h ∈ l.pending, h ∈ start.pending
  left : ∀ h ∈ start.pending, h ∈ l.pending ∨ h.2 ∈ l.emittedIds
  drawn : ∀ h ∈ l.emitted, (∃ t, (t, h.2) ∈ start.pending ∧ t.Alike h.1) ∨
    (start.records.length ≤ h.2 ∧ (∃ r, l.records[h.2]? = some r ∧ r.labels = []) ∧
      ∀ t ∈ l.pending.slots, ¬ t.Alike h.1)
  grown : start.records.length ≤ l.records.length

section Tally

variable {start l after : Ledger} {q : Request} {id : Nat}

theorem Answered.pending_slots (answered : l.Answered q after id) :
    ∀ t ∈ after.pending.slots, t ∈ l.pending.slots := by
  intro t held
  obtain ⟨n, member⟩ := Holdings.mem_slots.mp held
  exact Holdings.mem_slots.mpr ⟨n, answered.pending_old member⟩

-- Where the record of an answer comes from.
theorem Tally.answer (tally : Tally start l) (answered : l.Answered q after id) :
    (∃ t, (t, id) ∈ start.pending ∧ t.Alike q.slot) ∨
      (start.records.length ≤ id ∧ (∃ r, after.records[id]? = some r ∧ r.labels = []) ∧
        ∀ t ∈ after.pending.slots, ¬ t.Alike q.slot) := by
  cases answered with
  | @again id r given there =>
    have bound : id < l.records.length := (List.getElem?_eq_some_iff.mp there).1
    rcases tally.drawn _ given with old | ⟨fresh, ⟨r', there', labels⟩, none⟩
    · exact .inl old
    · cases Option.some.inj (there'.symm.trans there)
      exact .inr ⟨fresh, ⟨q.renew r, by simp [bound], labels⟩, none⟩
  | @claimed id r t before rest new split alike own there =>
    have waiting : (t, id) ∈ l.pending := by rw [split]; simp
    exact .inl ⟨t, tally.waiting _ waiting, alike⟩
  | made new none => exact .inr ⟨tally.grown, ⟨q.renew q.slot.blank, by simp, rfl⟩, none⟩

theorem Tally.request (tally : Tally start l) (answered : l.Answered q after id) :
    Tally start after := by
  refine ⟨answered.sound tally.sound, ?_, ?_, ?_, Nat.le_trans tally.grown answered.grown⟩
  · intro h held
    exact tally.waiting h (answered.pending_old held)
  · intro h pending
    rcases tally.left h pending with waiting | given
    · rcases answered.pending_left waiting with still | number
      · exact .inl still
      · rw [number]
        exact .inr (List.mem_map_of_mem answered.held)
    · obtain ⟨k, held, number⟩ := List.mem_map.mp given
      exact .inr (number ▸ List.mem_map_of_mem (answered.emitted_old held))
  · intro h held
    by_cases here : h.1 = q.slot
    · have number : h.2 = id := by
        refine Holdings.holding_unique (answered.sound tally.sound).emitted_once ?_ answered.held
        rw [← here]
        exact held
      rw [here, number]
      exact tally.answer answered
    · obtain ⟨old, other⟩ := answered.otherHeld tally.sound (List.mem_append_left _ held) here
      have given : h ∈ l.emitted := (answered.emitted_cases held).resolve_left fun own =>
        here (congrArg Prod.fst own)
      have kept := answered.others other (tally.sound.lt_of_held old)
      rw [kept]
      rcases tally.drawn h given with pending | ⟨fresh, made, none⟩
      · exact .inl pending
      · exact .inr ⟨fresh, made, fun t listed => none t (answered.pending_slots t listed)⟩

theorem Tally.mark (tally : Tally start l) (remarked : l.Remarked after) : Tally start after := by
  have lengths : l.records.length ≤ after.records.length := by
    apply Nat.le_of_not_lt
    intro shorter
    obtain ⟨r, there, _⟩ := remarked.there (List.getElem?_eq_getElem shorter)
    exact absurd (List.getElem?_eq_some_iff.mp there).1 (Nat.lt_irrefl _)
  refine ⟨remarked.sound tally.sound, ?_, ?_, ?_, Nat.le_trans tally.grown lengths⟩
  · rw [remarked.pending]
    exact tally.waiting
  · unfold emittedIds
    rw [remarked.pending, remarked.emitted]
    exact tally.left
  · rw [remarked.pending, remarked.emitted]
    intro h held
    rcases tally.drawn h held with pending | ⟨fresh, ⟨r, there, labels⟩, none⟩
    · exact .inl pending
    · obtain ⟨r', there', bare⟩ := remarked.there there
      exact .inr ⟨fresh, ⟨r', there', (congrArg Record.labels bare).trans labels⟩, none⟩

theorem opening_tally (sound : start.Sound) (none : start.emitted = []) : Tally start start :=
  ⟨sound, fun _ held => held, fun _ held => .inl held, by simp [none], Nat.le_refl _⟩

theorem performAll_tally (sound : start.Sound) (none : start.emitted = []) (calls : List Call)
    (fit : FitCalls calls) : Tally start (start.performAll calls) :=
  performAll_preserves (fun tally => tally.sound) (fun tally answered => tally.request answered)
    (fun tally remarked => tally.mark remarked) (opening_tally sound none) calls fit

variable {key : Json × Json}

-- A record that was there before was pending under the key.
theorem Tally.under_old (tally : Tally start l) (sound : start.Sound)
    (given : id ∈ l.emitted.under key) :
    id < start.records.length ↔ id ∈ start.pending.under key := by
  obtain ⟨s, held, own⟩ := Holdings.mem_under.mp given
  constructor
  · intro old
    rcases tally.drawn _ held with ⟨t, pending, alike⟩ | ⟨fresh, _⟩
    · exact Holdings.mem_under.mpr ⟨t, pending, (Slot.alike_iff.mp alike).trans own⟩
    · exact absurd old (Nat.not_lt.mpr fresh)
  · intro pending
    obtain ⟨t, waiting, _⟩ := Holdings.mem_under.mp pending
    exact sound.lt_of_held (List.mem_append_right _ waiting)

-- Where a record was made, every record that was pending under the key is given out.
theorem Tally.under_spent (tally : Tally start l) (sound : start.Sound)
    (given : id ∈ l.emitted.under key) (fresh : start.records.length ≤ id) :
    ∀ n ∈ start.pending.under key, n ∈ l.emitted.under key := by
  intro n pending
  obtain ⟨s, held, own⟩ := Holdings.mem_under.mp given
  obtain ⟨t, waiting, same⟩ := Holdings.mem_under.mp pending
  have old : n < start.records.length := sound.lt_of_held (List.mem_append_right _ waiting)
  rcases tally.drawn _ held with ⟨u, before, _⟩ | ⟨_, _, none⟩
  · exact absurd (sound.lt_of_held (List.mem_append_right _ before)) (Nat.not_lt.mpr fresh)
  · rcases tally.left _ waiting with still | emitted
    · exact absurd (Slot.alike_iff.mpr (same.trans own.symm)) (none t (Holdings.slots_mem still))
    · obtain ⟨⟨u, m⟩, there, number⟩ := List.mem_map.mp emitted
      obtain rfl : m = n := number
      rcases tally.drawn _ there with ⟨t', before, alike⟩ | ⟨late, _⟩
      · have equal : t' = t := sound.slot_unique (List.mem_append_right _ before)
          (List.mem_append_right _ waiting)
        refine Holdings.mem_under.mpr ⟨u, there, ?_⟩
        rw [← same, ← equal]
        exact (Slot.alike_iff.mp alike).symm
      · exact absurd old (Nat.not_lt.mpr late)

theorem Tally.reused (tally : Tally start l) (sound : start.Sound) (key : Json × Json) :
    ((l.emitted.under key).filter fun id => id < start.records.length).length =
      min (start.pending.under key).length (l.emitted.under key).length := by
  have givenOnce := (List.nodup_append.mp (tally.sound.under_once key)).1
  have pendingOnce := (List.nodup_append.mp (sound.under_once key)).2.1
  have within : ((l.emitted.under key).filter fun id => id < start.records.length) ⊆
      start.pending.under key := by
    intro id member
    obtain ⟨given, old⟩ := List.mem_filter.mp member
    exact (tally.under_old sound given).mp (by simpa using old)
  have atMost := ((givenOnce.filter _).subperm within).length_le
  by_cases made : ∃ id ∈ l.emitted.under key, start.records.length ≤ id
  · obtain ⟨id, given, fresh⟩ := made
    have spent : start.pending.under key ⊆
        (l.emitted.under key).filter fun id => id < start.records.length := by
      intro n pending
      have emitted := tally.under_spent sound given fresh n pending
      exact List.mem_filter.mpr ⟨emitted, by simpa using (tally.under_old sound emitted).mpr pending⟩
    have atLeast := (pendingOnce.subperm spent).length_le
    have bound := List.length_filter_le (fun id => decide (id < start.records.length))
      (l.emitted.under key)
    omega
  · have every : ((l.emitted.under key).filter fun id => id < start.records.length) =
        l.emitted.under key := by
      apply List.filter_eq_self.mpr
      intro id given
      exact decide_eq_true (Nat.lt_of_not_le fun fresh => made ⟨id, given, fresh⟩)
    rw [every] at atMost ⊢
    omega

end Tally

theorem perform_textual (l : Ledger) (call : Call) (text : ∀ q, call = .request q → q.slot.IsText) :
    l.textual.perform call = (l.perform call).textual := by
  cases call with
  | request q =>
    have fit : q.slot.isText = true := Slot.isText_true.mpr (text q rfl)
    simp only [perform, put_textual (.inl fit)]
  | mark id key value => simp only [perform, setAttribute_textual]

theorem performAll_textual (l : Ledger) (calls : List Call) (fit : FitCalls calls) :
    l.textual.performAll calls = (l.performAll calls).textual := by
  induction calls using List.reverseRecOn with
  | nil => rfl
  | append_singleton calls call ih =>
    rw [performAll_concat, performAll_concat,
      ih fun q member => fit q (List.mem_append_left _ member)]
    apply perform_textual
    rintro q rfl
    exact (fit q (List.mem_append_right _ (List.mem_singleton.mpr rfl))).text

-- What a run reuses and makes under one key, said by the current records and the calls.
structure Drawn (start : Ledger) (current : List Nat) (calls : List Call) (key : Json × Json) :
    Prop where
  once : ((start.performAll calls).givenFor key).Nodup
  -- As many as there were types before, or as many as there are types requested.
  reused : (((start.performAll calls).givenFor key).filter
      fun id => id < start.records.length).length =
    min (typesUnder key (currentSlots start.records current)).length
      (typesUnder key ((requests calls).map Request.slot)).length
  made : (((start.performAll calls).givenFor key).filter
      fun id => start.records.length ≤ id).length =
    (typesUnder key ((requests calls).map Request.slot)).length -
      min (typesUnder key (currentSlots start.records current)).length
        (typesUnder key ((requests calls).map Request.slot)).length
  -- A record is reused for its own key only, and of those in its slot it is the last.
  last : ∀ id ∈ (start.performAll calls).givenFor key, id < start.records.length →
    ∃ old, start.records[id]? = some old ∧ old.slot.key = key ∧
      latest? start.records current old.slot = some id
  bare : ∀ id ∈ (start.performAll calls).givenFor key, start.records.length ≤ id →
    ∃ r, (start.performAll calls).records[id]? = some r ∧ r.labels = []
  -- No other record is ever answered with.
  answers : ∀ before q after, calls = before ++ .request q :: after → q.slot.key = key →
    ∃ id, ((start.performAll before).put q).2 = .ok id ∧
      id ∈ (start.performAll calls).givenFor key

theorem drawn_text {start : Ledger} {records : List Record} {current : List Nat}
    (text : AllText records current) (opened : opening records current = .ok start)
    (calls : List Call) (fit : FitCalls calls) (key : Json × Json) :
    start.Drawn current calls key := by
  obtain ⟨start', opened', sound, none, rfl, _⟩ := opening_sound text
  obtain rfl : start' = start := Except.ok.inj (opened'.symm.trans opened)
  have tally := performAll_tally sound none calls fit
  have follows := performAll_follows sound none calls fit
  have given := follows.sound.givenFor_eq key
  have before : (start'.pending.under key).length =
      (typesUnder key (currentSlots start'.records current)).length := by
    apply Holdings.length_under sound.pending_once
    intro s
    exact opening_slots text opened
  have requested : ((start'.performAll calls).emitted.under key).length =
      (typesUnder key ((requests calls).map Request.slot)).length := by
    apply Holdings.length_under follows.sound.emitted_once
    intro s
    rw [follows.slots, Request.mem_slots, List.mem_map]
  have reused := tally.reused sound key
  rw [before, requested] at reused
  refine ⟨?_, ?_, ?_, ?_, ?_, ?_⟩
  · exact follows.sound.emittedIds_once.filter _
  · rw [given]
    exact reused
  · -- What is given out and was not reused was made.
    have parts := List.length_eq_length_filter_add (l := (start'.performAll calls).emitted.under key)
      fun id => decide (id < start'.records.length)
    rw [requested, reused] at parts
    have others : (fun id => !decide (id < start'.records.length)) =
        fun id => decide (start'.records.length ≤ id) := by
      funext id
      rw [← decide_not]
      simp only [Nat.not_lt]
    rw [others] at parts
    rw [given]
    omega
  · intro id member old
    rw [given] at member
    obtain ⟨t, waiting, own⟩ := Holdings.mem_under.mp ((tally.under_old sound member).mp old)
    obtain ⟨r, there, slot⟩ := sound.pending_holds _ waiting
    refine ⟨r, there, ?_, ?_⟩
    · rw [slot]
      exact own
    · rw [slot]
      exact (opening_latest text opened).mp waiting
  · intro id member fresh
    rw [given] at member
    obtain ⟨s, held, _⟩ := Holdings.mem_under.mp member
    rcases tally.drawn _ held with ⟨t, waiting, _⟩ | ⟨_, made, _⟩
    · exact absurd (sound.lt_of_held (List.mem_append_right _ waiting)) (Nat.not_lt.mpr fresh)
    · exact made
  · -- What is given out in answer to a call stays given out to the end.
    rintro before q after rfl own
    obtain ⟨next, id, done, _, held⟩ := performAll_answered sound none before q after fit
    refine ⟨id, by rw [done], ?_⟩
    rw [given]
    exact Holdings.mem_under.mpr ⟨q.slot, held, own⟩

theorem typesUnder_textual (key : Json × Json) (slots requested : List Slot)
    (text : ∀ s ∈ requested, s.IsText) :
    min (typesUnder key (slots.filter Slot.isText)).length (typesUnder key requested).length =
      min (typesUnder key slots).length (typesUnder key requested).length := by
  by_cases plain : ∃ s ∈ requested, s.key = key
  · obtain ⟨s, member, own⟩ := plain
    have same : (slots.filter Slot.isText).filter (fun t => t.key = key) =
        slots.filter fun t => t.key = key := by
      rw [List.filter_filter]
      apply List.filter_congr
      intro t _
      by_cases alike : t.key = key
      · have equal : t.isText = s.isText :=
          Slot.isText_sameKey ((Slot.sameKey_iff (text s member)).mpr
            (Slot.alike_iff.mpr (alike.trans own.symm)))
        simp [alike, equal, Slot.isText_true.mpr (text s member)]
      · simp [alike]
    rw [typesUnder, same]
    rfl
  · have none : typesUnder key requested = [] := by
      rw [typesUnder, List.filter_eq_nil_iff.mpr]
      · rfl
      · intro s member
        simpa using fun own => plain ⟨s, member, own⟩
    simp [none]

-- Current records whose names or identifiers are no texts are never drawn on.
theorem Drawn.of_textual {start : Ledger} {current : List Nat} {calls : List Call}
    {key : Json × Json} (fit : FitCalls calls)
    (drawn : start.textual.Drawn (current.filter (standsText start.records)) calls key) :
    start.Drawn current calls key := by
  have requested : ∀ s ∈ (requests calls).map Request.slot, s.IsText := by
    intro s member
    obtain ⟨q, listed, rfl⟩ := List.mem_map.mp member
    obtain ⟨call, among, is⟩ := List.mem_filterMap.mp listed
    cases call with
    | request p => cases is; exact (fit _ among).text
    | mark => cases is
  have final : start.textual.performAll calls = (start.performAll calls).textual :=
    performAll_textual start calls fit
  have given : ((start.performAll calls).textual.givenFor key) =
      (start.performAll calls).givenFor key := rfl
  have counts := typesUnder_textual key (currentSlots start.records current) _ requested
  rw [← currentSlots_textual] at counts
  obtain ⟨once, reused, made, last, bare, answers⟩ := drawn
  rw [final, given] at once reused made last bare answers
  refine ⟨once, reused.trans counts, made.trans (congrArg _ counts), ?_, bare, ?_⟩
  · intro id member old
    obtain ⟨r, there, own, found⟩ := last id member old
    exact ⟨r, there, own, latest?_textual found⟩
  · rintro before q after rfl own
    obtain ⟨id, done, among⟩ := answers before q after rfl own
    have early : FitCalls before := fun p member => fit p (List.mem_append_left _ member)
    have text : q.slot.isText = true := Slot.isText_true.mpr (fit q (by simp)).text
    refine ⟨id, ?_, among⟩
    rw [performAll_textual start before early, put_textual (.inl text)] at done
    exact done

-- As many records are reused as there were, or as many as are requested, whichever is less.
theorem run_drawn {records : List Record} {current : List Nat}
    (identified : ∀ id ∈ current, ∀ r, records[id]? = some r → r.canIdentify = true)
    (calls : List Call) (fit : FitCalls calls) :
    ∃ start, opening records current = .ok start ∧ ∀ key, start.Drawn current calls key := by
  obtain ⟨start, opened⟩ := opening_identified identified
  obtain rfl := (opening_parts opened).2.1
  refine ⟨start, opened, fun key => Drawn.of_textual fit ?_⟩
  exact drawn_text (filter_allText _ _) (opening_textual opened) calls fit key

-- Two types at one name, one of them twice, and a bystander whose name is no text.
def contended : List Record := doubled ++ [
  ⟨.str "w.x", .cname, [.str "edge.x"], .int 300, .str "", [], [(.str "app", .str "w")]⟩,
  ⟨.int 5, .a, [.str "192.0.2.4"], .int 60, .str "", [], []⟩]

-- The first request is for a type that was not there, so another record's type changes.
def contending : List Call := [
  .request ⟨.str "w.x", .arr [.str "ns.x"], ⟨⟨2, by decide⟩⟩, .str "", .int 60⟩,
  .request ⟨.str "w.x", .arr [.str "edge.x"], .cname, .str "", .int 300⟩,
  .request ⟨.str "w.x", .arr [.str "192.0.2.3"], .a, .str "", .int 60⟩,
  .request ⟨.str "w.x", .arr [.str "ns.y"], ⟨⟨2, by decide⟩⟩, .str "", .int 60⟩]

theorem contending_drawn :
    (∀ id ∈ [0, 1, 2, 3], ∀ r, contended[id]? = some r → r.canIdentify = true) ∧
      FitCalls contending ∧
      ∃ start, opening contended [0, 1, 2, 3] = .ok start ∧
        ∀ key, start.Drawn [0, 1, 2, 3] contending key := by
  have identified : ∀ id ∈ [0, 1, 2, 3], ∀ r, contended[id]? = some r → r.canIdentify = true := by
    have every : ∀ r ∈ contended, r.canIdentify = true := by decide
    intro id _ r there
    exact every r (List.mem_of_getElem? there)
  have fit : FitCalls contending := by
    intro q member
    simp only [contending, List.mem_cons, Call.request.injEq, List.not_mem_nil, or_false] at member
    rcases member with rfl | rfl | rfl | rfl <;> exact ⟨⟨⟨_, rfl⟩, ⟨_, rfl⟩⟩, rfl⟩
  exact ⟨identified, fit, run_drawn identified contending fit⟩

-- Two records are reused, the later of the doubled ones for the new type, and one is made.
example : (opening contended [0, 1, 2, 3]).map
    (fun start => (start.performAll contending).givenFor (.str "w.x", .str "")) =
      .ok [1, 2, 4] := by decide

end Ledger
end DnsSteering
