import DnsSteering.Proofs.Ledger.Openings
import DnsSteering.Proofs.Synthesis.Bystanders
import DnsSteering.Proofs.Synthesis.Frame

namespace DnsSteering

theorem Ledger.Sound.given_notPending {l : Ledger} (sound : l.Sound) {s : Slot} {id n : Nat}
    (given : (s, id) ∈ l.emitted) : (s, n) ∉ l.pending := by
  intro waiting
  have once := sound.once
  rw [Holdings.slots_append] at once
  exact List.disjoint_of_nodup_append once (Holdings.mem_slots.mpr ⟨id, given⟩)
    (Holdings.mem_slots.mpr ⟨n, waiting⟩)

namespace Plan

-- A record that waits for a slot, or that was given out for it.
def Held (s : Slot) (n : Nat) (l : Ledger) : Prop := (s, n) ∈ l.pending ∨ (s, n) ∈ l.emitted

section Held

variable {l after : Ledger} {q : Request} {s : Slot} {id n : Nat}

theorem Held.given (sound : l.Sound) (held : Held s n l) (given : (s, id) ∈ l.emitted) : id = n := by
  cases held with
  | inl waiting => exact absurd waiting (sound.given_notPending given)
  | inr other => exact Holdings.holding_unique sound.emitted_once given other

-- Only a request for another slot of the same name and identifier may take it.
theorem Held.answer (sound : l.Sound) (held : Held s n l) (answered : l.Answered q after id)
    (alone : q.slot.Alike s → q.slot = s) : Held s n after := by
  cases held with
  | inl waiting =>
    rcases answered.waits sound waiting with still | ⟨number, alike, _⟩
    · exact .inl still
    · have same : q.slot = s := alone ⟨alike.1.symm, alike.2.symm⟩
      rw [number, ← same]
      exact .inr answered.held
  | inr given => exact .inr (answered.emitted_old given)

end Held

theorem runActs_held {start : Ledger} {acts : List Act} {s : Slot} {n : Nat} (sound : start.Sound)
    (waiting : (s, n) ∈ start.pending)
    (alone : ∀ e ∈ emissions acts, e.Fit ∧ (e.slot.Alike s → e.slot = s)) :
    ∃ after log, runActs start acts = (after, none, log) ∧ after.Sound ∧ Held s n after := by
  refine runActs_preserves (I := fun l => l.Sound ∧ Held s n l) (fun _ allowed => allowed.1)
    (fun reached => reached.1) ?_ ⟨sound, .inl waiting⟩ alone
  intro l e after id r allowed reached answered there
  refine ⟨(answered.sound reached.1).replace there rfl, ?_⟩
  have held : Held s n after := reached.2.answer reached.1 answered allowed.2
  exact held

theorem runActs_unmarked {l after : Ledger} {q : Request} {id : Nat} (acts : List Act)
    (put : l.put q = (after, .ok id)) :
    (runActs l (.emit q [] :: acts)).1 = (runActs after acts).1 := by
  simp [runActs, put, Ledger.setAttributes]

end Plan

namespace Synthesis

section Due

variable {p : Policy} {g : Gateway} {hostname : LooseText} {base : String} {row row' : Row}
  {marks marks' : List (Json × Json)}

-- Only the addresses and the aliases of a hostname have one name and identifier.
theorem Due.apart (left : listenerBase (.str hostname) = .ok base)
    (one : Due p g hostname base row marks) (two : Due p g hostname base row' marks')
    (alike : row.slot.Alike row'.slot) (address : row.slot.type = .a)
    (canonical : row'.slot.type = .cname) :
    p.isSimple = true ∧ g.ips ≠ [] ∧ g.hostnames ≠ [] := by
  have retyped : RecordType.cname ≠ RecordType.a := by decide
  cases one with
  | addresses simple some =>
    cases two with
    | aliases _ some' => exact ⟨simple, some, some'⟩
    | addresses | cluster => exact absurd canonical.symm retyped
    | leaf balanced | region balanced | fallback balanced | entry balanced =>
      exact absurd simple (not_simple balanced)
  | cluster balanced some named =>
    obtain ⟨notHostname, notBalancer⟩ := clusterName_ne left named
    cases two with
    | aliases simple => exact absurd simple (not_simple balanced)
    | addresses | cluster => exact absurd canonical.symm retyped
    | leaf _ _ _ leaf => exact absurd (LooseText.plain.inj (Json.str.inj alike.2)).symm leaf.ne_empty
    | region => exact absurd (LooseText.plain.inj (Json.str.inj alike.1)) notBalancer
    | fallback => exact absurd (Json.str.inj alike.2) (by decide)
    | entry => exact absurd (Json.str.inj alike.1) notHostname
  | aliases | leaf | region | fallback | entry => exact absurd address retyped

theorem Due.alone (left : listenerBase (.str hostname) = .ok base)
    (one : Due p g hostname base row marks) (two : Due p g hostname base row' marks')
    (single : ¬ (p.isSimple = true ∧ g.ips ≠ [] ∧ g.hostnames ≠ [])) (alike : row.slot.Alike row'.slot) :
    row.slot = row'.slot := by
  rcases one.type with address | canonical
  · rcases two.type with address' | canonical'
    · exact Slot.Alike.eq_of_type alike (address.trans address'.symm)
    · exact absurd (one.apart left two alike address canonical') single
  · rcases two.type with address' | canonical'
    · exact absurd (two.apart left one ⟨alike.1.symm, alike.2.symm⟩ address' canonical) single
    · exact Slot.Alike.eq_of_type alike (canonical.trans canonical'.symm)

end Due

def addressSlot (hostname : LooseText) : Slot := ⟨.str hostname, .str "", .a⟩

def aliasSlot (hostname : LooseText) : Slot := ⟨.str hostname, .str "", .cname⟩

-- The record of a hostname's aliases is taken for its addresses: both are due, no addresses were
-- published before, and of what was published at the hostname the aliases come first.
structure Displaced (p : Policy) (g : Gateway) (hostname : LooseText) (slots : List Slot) : Prop where
  simple : p.isSimple = true
  ips : g.ips ≠ []
  hostnames : g.hostnames ≠ []
  unaddressed : addressSlot hostname ∉ slots
  foremost : slots.find? (fun s => s.key = (.str hostname, .str "")) = some (aliasSlot hostname)

-- A slot is given out with the record that waits for it, the aliases of a hostname apart.
def Reclaims (p : Policy) (g : Gateway) (hostname : LooseText) (start l : Ledger) : Prop :=
  ∀ s n id, (s, n) ∈ start.pending → (s, id) ∈ l.emitted →
    (¬ (s = aliasSlot hostname ∧ Displaced p g hostname start.pending.slots) → id = n) ∧
      (s = aliasSlot hostname ∧ Displaced p g hostname start.pending.slots →
        id ≠ n ∧ (addressSlot hostname, n) ∈ l.emitted)

-- The addresses of a hostname are requested, and then its aliases.
section Pair

variable {hostname : LooseText} {start middle final : Ledger} {q q' : Request} {first second id n : Nat}

theorem addressSlot_ne : addressSlot hostname ≠ aliasSlot hostname := by
  intro same
  exact absurd (congrArg Slot.type same) (by decide : ¬ RecordType.a = RecordType.cname)

theorem aliasSlot_alike : (aliasSlot hostname).Alike (addressSlot hostname) := ⟨rfl, rfl⟩

variable (answered : start.Answered q middle first) (answered' : middle.Answered q' final second)

include answered answered'

-- The aliases keep the record that waits for them, unless the addresses took it.
theorem aliases_reclaimed (sound : start.Sound) (next : q'.slot = aliasSlot hostname)
    (waiting : (aliasSlot hostname, n) ∈ start.pending) (other : n ≠ first)
    (given : (aliasSlot hostname, id) ∈ final.emitted) : id = n := by
  have sound' := answered.sound sound
  rcases answered.waits sound waiting with still | ⟨number, _⟩
  · have waits : Plan.Held (aliasSlot hostname) n final :=
      Plan.Held.answer sound' (.inl still) answered' fun _ => next
    exact waits.given (answered'.sound sound') given
  · exact absurd number other

variable (here : q.slot = addressSlot hostname)

include here

theorem addresses_emitted : (addressSlot hostname, first) ∈ final.emitted := by
  rw [← here]
  exact answered'.emitted_old answered.held

theorem pair_emitted (next : q'.slot = aliasSlot hostname) (none : start.emitted = []) {s : Slot}
    (given : (s, id) ∈ final.emitted) : s = addressSlot hostname ∨ s = aliasSlot hostname := by
  rcases answered'.emitted_cases given with last | earlier
  · exact .inr ((congrArg Prod.fst last).trans next)
  · rcases answered.emitted_cases earlier with only | before
    · exact .inl ((congrArg Prod.fst only).trans here)
    · rw [none] at before
      cases before

theorem addresses_reclaimed (sound : start.Sound)
    (waiting : (addressSlot hostname, n) ∈ start.pending)
    (given : (addressSlot hostname, id) ∈ final.emitted) : id = n := by
  have sound' := answered.sound sound
  have waits : Plan.Held (addressSlot hostname) n middle :=
    Plan.Held.answer sound (.inl waiting) answered fun _ => here
  have same : first = n := waits.given sound' (here ▸ answered.held)
  have kept := addresses_emitted answered answered' here
  rw [← same]
  exact Holdings.holding_unique (answered'.sound sound').emitted_once given kept

theorem aliases_other (sound : start.Sound) (given : (aliasSlot hostname, id) ∈ final.emitted) :
    id ≠ first := by
  rintro rfl
  have sound' := answered'.sound (answered.sound sound)
  have kept := addresses_emitted answered answered' here
  exact addressSlot_ne
    (sound'.slot_unique (List.mem_append_left _ kept) (List.mem_append_left _ given))

end Pair

section Plans

variable {p : Policy} {g : Gateway} {hostname : LooseText} {base : String} {start l : Ledger}

theorem simplePlan_acts (some : g.ips ≠ []) (some' : g.hostnames ≠ []) :
    (simplePlan g (.str hostname)).acts =
      [.emit ⟨.str hostname, texts g.ips, .a, .str "", addressTtl⟩ [],
        .emit ⟨.str hostname, texts g.hostnames, .cname, .str "", addressTtl⟩ []] := by
  unfold simplePlan
  simp only
  rw [if_neg fun empty => some (List.isEmpty_iff.mp empty),
    if_neg fun empty => some' (List.isEmpty_iff.mp empty)]
  rfl

-- The addresses take the record of the aliases just where the aliases are displaced.
theorem displaced_iff (simple : p.isSimple = true) (some : g.ips ≠ []) (some' : g.hostnames ≠ [])
    (sound : start.Sound) (none : start.emitted = []) {middle : Ledger} {q : Request} {first n : Nat}
    (fit : q.Fit) (here : q.slot = addressSlot hostname) (put : start.put q = (middle, .ok first))
    (answered : start.Answered q middle first) (waiting : (aliasSlot hostname, n) ∈ start.pending) :
    Displaced p g hostname start.pending.slots ↔ n = first := by
  -- Without addresses before, it is the first record of the hostname that is taken for them.
  have taken : addressSlot hostname ∉ start.pending.slots →
      ∃ t, start.pending.slots.find? (fun s => s.key = (.str hostname, .str "")) = .some t ∧
        (t, first) ∈ start.pending := by
    intro missing
    have found := Ledger.put_first sound fit (by simp [none]) (here ▸ missing)
      ⟨_, Holdings.slots_mem waiting, here ▸ aliasSlot_alike⟩ put
    rwa [here] at found
  constructor
  · intro displaced
    obtain ⟨t, foremost, pending⟩ := taken displaced.unaddressed
    obtain rfl : aliasSlot hostname = t := Option.some.inj (displaced.foremost.symm.trans foremost)
    exact Holdings.holding_unique sound.pending_once waiting pending
  · rintro rfl
    have missing : addressSlot hostname ∉ start.pending.slots := by
      intro listed
      rcases answered.waits sound waiting with still | ⟨_, _, own⟩
      · have held := List.mem_map_of_mem (f := Prod.snd) answered.held
        exact absurd held ((answered.sound sound).pending_notEmitted still)
      · rw [here] at own
        exact addressSlot_ne (own listed).symm
    obtain ⟨t, foremost, pending⟩ := taken missing
    obtain rfl : aliasSlot hostname = t := sound.slot_unique
      (List.mem_append_right _ waiting) (List.mem_append_right _ pending)
    exact ⟨simple, some, some', missing, foremost⟩

-- Whose record the request for the addresses takes decides what is left for the aliases.
theorem simplePlan_reclaims (simple : p.isSimple = true) (some : g.ips ≠ []) (some' : g.hostnames ≠ [])
    (sound : start.Sound) (none : start.emitted = []) :
    Reclaims p g hostname start (Plan.runActs start (simplePlan g (.str hostname)).acts).1 := by
  have fit : Request.Fit ⟨.str hostname, texts g.ips, .a, .str "", addressTtl⟩ :=
    ⟨⟨⟨_, rfl⟩, ⟨_, rfl⟩⟩, rfl⟩
  have fit' : Request.Fit ⟨.str hostname, texts g.hostnames, .cname, .str "", addressTtl⟩ :=
    ⟨⟨⟨_, rfl⟩, ⟨_, rfl⟩⟩, rfl⟩
  obtain ⟨middle, first, put, answered⟩ := Ledger.put_answered sound fit
  obtain ⟨final, second, put', answered'⟩ := Ledger.put_answered (answered.sound sound) fit'
  rw [simplePlan_acts some some', Plan.runActs_unmarked _ put, Plan.runActs_unmarked _ put']
  intro s n id waiting given
  rcases pair_emitted answered answered' rfl rfl none given with rfl | rfl
  · have same := addresses_reclaimed answered answered' rfl sound waiting given
    exact ⟨fun _ => same, fun displaced => absurd displaced.1 addressSlot_ne⟩
  · have taken := displaced_iff simple some some' sound none fit rfl put answered waiting
    refine ⟨fun other => ?_, fun displaced => ?_⟩
    · have left : n ≠ first := fun same => other ⟨rfl, taken.mpr same⟩
      exact aliases_reclaimed answered answered' sound rfl waiting left given
    · rw [taken.mp displaced.2]
      exact ⟨aliases_other answered answered' rfl sound given,
        addresses_emitted answered answered' rfl⟩

theorem plan_reclaims (labels : TextLabels g.labels) (left : listenerBase (.str hostname) = .ok base)
    (faultless : (plan p g (.str hostname) base).fault = none) (sound : start.Sound)
    (none : start.emitted = []) :
    Reclaims p g hostname start
      (Plan.runActs start (plan p g (.str hostname) base).acts).1 := by
  by_cases both : p.isSimple = true ∧ g.ips ≠ [] ∧ g.hostnames ≠ []
  · obtain ⟨simple, some, some'⟩ := both
    rw [plan, if_pos simple]
    exact simplePlan_reclaims simple some some' sound none
  · intro s n id waiting given
    have fit := plan_fit labels faultless
    obtain ⟨l, log, ran, progress⟩ :=
      Plan.runActs_progress sound (Plan.opening_progress sound none) fit
    rw [List.nil_append] at progress
    rw [ran] at given ⊢
    obtain ⟨e, member, slot⟩ := emitted_requested progress (Holdings.slots_mem given)
    obtain ⟨row, marks, due, rfl⟩ := (plan_emissions labels faultless e).mp member
    obtain rfl : row.slot = s := slot
    -- In every other plan no two slots have one name and identifier.
    have alone : ∀ e ∈ Plan.emissions (plan p g (.str hostname) base).acts,
        e.Fit ∧ (e.slot.Alike row.slot → e.slot = row.slot) := by
      intro e' member'
      refine ⟨fit e' member', fun alike => ?_⟩
      obtain ⟨row', marks', due', rfl⟩ := (plan_emissions labels faultless e').mp member'
      exact due'.alone left due both alike
    obtain ⟨l', log', ran', sound', held⟩ := Plan.runActs_held sound waiting alone
    cases ran.symm.trans ran'
    have same := held.given sound' given
    refine ⟨fun _ => same, fun displaced => ?_⟩
    exact absurd ⟨displaced.2.simple, displaced.2.ips, displaced.2.hostnames⟩ both

end Plans

section Publications

variable {p : Policy} {g : Gateway} {hostname : LooseText} {records : List Record}
  {current ids : List Nat}

theorem displaced_congr {slots slots' : List Slot}
    (same : addressSlot hostname ∈ slots ↔ addressSlot hostname ∈ slots')
    (first : slots.find? (fun s => s.key = (.str hostname, .str "")) =
      slots'.find? (fun s => s.key = (.str hostname, .str ""))) :
    Displaced p g hostname slots ↔ Displaced p g hostname slots' := by
  constructor
  · intro displaced
    obtain ⟨simple, ips, hostnames, unaddressed, foremost⟩ := displaced
    exact ⟨simple, ips, hostnames, mt same.mpr unaddressed, first.symm.trans foremost⟩
  · intro displaced
    obtain ⟨simple, ips, hostnames, unaddressed, foremost⟩ := displaced
    exact ⟨simple, ips, hostnames, mt same.mp unaddressed, first.trans foremost⟩

-- What is published, `id`, in a slot whose last record before was `n`.
structure Reclaimed (p : Policy) (g : Gateway) (hostname : LooseText) (records : List Record)
    (current : List Nat) (published : List Nat) (final : List Record) (id n : Nat) (r : Record) :
    Prop where
  same : ¬ (r.slot = aliasSlot hostname ∧ Displaced p g hostname (currentSlots records current)) →
    id = n ∧ ∃ old, records[n]? = some old ∧ Continued old r
  displaced : r.slot = aliasSlot hostname ∧ Displaced p g hostname (currentSlots records current) →
    id ≠ n ∧ n ∈ published ∧ (final[n]?).map Record.slot = some (addressSlot hostname)

theorem publish_reclaims_text (labels : TextLabels g.labels) (text : AllText records current)
    (done : (publish g (.str hostname) p records (some current)).published = .ok ids) :
    ∀ id ∈ ids, ∃ r, (publish g (.str hostname) p records (some current)).records[id]? = some r ∧
      r.IsText ∧ ∀ n, latest? records current r.slot = some n →
        Reclaimed p g hostname records current ids
          (publish g (.str hostname) p records (some current)).records id n r := by
  obtain ⟨base, left, accepted, faultless⟩ := publish_parts done
  have fit := plan_fit labels faultless
  obtain ⟨start, opened, sound, none, rfl, _⟩ := Ledger.opening_sound text
  have reclaims := plan_reclaims labels left faultless sound none
  obtain ⟨l, log, ran, progress⟩ :=
    Plan.runActs_progress sound (Plan.opening_progress sound none) fit
  rw [List.nil_append] at progress
  rw [ran] at reclaims
  have final : (plan p g (.str hostname) base).run start = (l, .none, log) := by
    simp [Plan.run, ran, faultless]
  have shown : (publish g (.str hostname) p start.records (some current)).records = l.records := by
    simp [publish, left, accepted, opened, carryOut, final]
  have perm : ids.Perm l.emittedIds := emitted_perm progress fit (by
    simpa [publish, left, accepted, opened, carryOut, final] using done)
  have displacement : Displaced p g hostname start.pending.slots ↔
      Displaced p g hostname (currentSlots start.records current) :=
    displaced_congr (Ledger.opening_slots text opened) (Ledger.opening_first text opened _)
  rw [shown]
  intro id listed
  obtain ⟨⟨s, m⟩, given, number⟩ := List.mem_map.mp (perm.mem_iff.mp listed)
  obtain rfl : m = id := number
  obtain ⟨r, there, slot⟩ := progress.sound.emitted_holds _ given
  obtain ⟨r', there', textual⟩ := emitted_text progress fit m (perm.mem_iff.mp listed)
  cases Option.some.inj (there'.symm.trans there)
  refine ⟨r, there, textual, fun n found => ?_⟩
  obtain rfl : r.slot = s := slot
  have waiting := (Ledger.opening_latest text opened).mpr found
  obtain ⟨same, displaced⟩ := reclaims _ _ _ waiting given
  rw [displacement] at same displaced
  -- Its own record comes back with its labels, or the addresses have it.
  refine ⟨fun other => ?_, fun taken => ?_⟩
  · obtain rfl : m = n := same other
    obtain ⟨old, was, _⟩ := sound.pending_holds _ waiting
    obtain ⟨after, now, _, continued⟩ :=
      progress_frames labels (plan_emissions labels faultless) progress was
    cases Option.some.inj (now.symm.trans there)
    exact ⟨rfl, old, was, (continued (perm.mem_iff.mp listed)).2⟩
  · obtain ⟨other, held⟩ := displaced taken
    obtain ⟨address, here, own⟩ := progress.sound.emitted_holds _ held
    refine ⟨other, perm.mem_iff.mpr (List.mem_map_of_mem held), ?_⟩
    rw [here]
    exact congrArg some own

-- What was published before is published with its last record, displaced aliases apart.
theorem publish_reclaims (labels : TextLabels g.labels)
    (done : (publish g (.str hostname) p records (some current)).published = .ok ids) :
    ∀ id ∈ ids, ∃ r, (publish g (.str hostname) p records (some current)).records[id]? = some r ∧
      ∀ m ∈ current, (records[m]?).map Record.slot = some r.slot →
        ∃ n, latest? records current r.slot = some n ∧
          Reclaimed p g hostname records current ids
            (publish g (.str hostname) p records (some current)).records id n r := by
  obtain ⟨start, opened⟩ := publish_opened done
  rw [publish_textual labels opened] at done ⊢
  have displacement : Displaced p g hostname
      (currentSlots records (current.filter (Ledger.standsText records))) ↔
        Displaced p g hostname (currentSlots records current) := by
    rw [Ledger.currentSlots_textual]
    have text : (addressSlot hostname).isText = true := rfl
    apply displaced_congr (by simp [text])
    rw [List.find?_filter]
    congr 1
    funext s
    by_cases own : s.key = (.str hostname, .str "")
    · have equal : s.isText = true := by
        have parts := Prod.mk.inj own
        simp [Slot.isText, parts.1, parts.2, Json.isText]
      simp [own, equal]
    · simp [own]
  intro id listed
  obtain ⟨r, there, textual, reclaimed⟩ :=
    publish_reclaims_text labels (filter_allText records current) done id listed
  refine ⟨r, there, fun m member slot => ?_⟩
  obtain ⟨old, was, own⟩ := Option.map_eq_some_iff.mp slot
  have stands : Ledger.standsText records m = true := by
    rw [Ledger.standsText, was]
    simpa [own] using Slot.isText_true.mpr textual
  obtain ⟨n, found⟩ := latest?_isSome.mpr
    (mem_currentSlots.mpr ⟨m, List.mem_filter.mpr ⟨member, stands⟩, old, was, own⟩)
  obtain ⟨kept, displaced⟩ := reclaimed n found
  rw [displacement] at kept displaced
  exact ⟨n, Ledger.latest?_textual found, kept, displaced⟩

end Publications

-- A gateway with an address and a hostname, and the simple strategy.
def mixed : Gateway := ⟨.str "gw", .str "ns", .obj [], [edge, first]⟩

def plain : Policy := { strategy := .str Policy.simpleStrategy }

theorem mixed_labels : TextLabels mixed.labels := ⟨_, rfl, by simp⟩

-- Published before at the hostname: aliases twice, and then a text.
def relisted : List Record := [
  ⟨.str "w.x", .cname, [.str "old.x"], .int 300, .str "", [], [(.str "id", .str "one")]⟩,
  ⟨.str "w.x", .cname, [.str "old.x"], .int 300, .str "", [], [(.str "id", .str "two")]⟩,
  ⟨.str "w.x", ⟨⟨16, by decide⟩⟩, [.str "note"], .int 60, .str "", [], [(.str "id", .str "three")]⟩]

theorem relisted_published :
    (publish mixed (.str "w.x") plain relisted (some [0, 1, 2])).published = .ok [1, 2] := by
  decide +kernel

-- The addresses get the later record of the aliases, and the aliases that of the text.
theorem relisted_reclaims : TextLabels mixed.labels ∧
    (publish mixed (.str "w.x") plain relisted (some [0, 1, 2])).published = .ok [1, 2] ∧
    ∀ id ∈ [1, 2], ∃ r,
      (publish mixed (.str "w.x") plain relisted (some [0, 1, 2])).records[id]? = some r ∧
        ∀ m ∈ [0, 1, 2], (relisted[m]?).map Record.slot = some r.slot →
          ∃ n, latest? relisted [0, 1, 2] r.slot = some n ∧
            Reclaimed plain mixed "w.x" relisted [0, 1, 2] [1, 2]
              (publish mixed (.str "w.x") plain relisted (some [0, 1, 2])).records id n r :=
  ⟨mixed_labels, relisted_published, publish_reclaims mixed_labels relisted_published⟩

-- Where only aliases were published, their record and its labels go to the addresses.
def aliased : List Record := [
  ⟨.str "w.x", .cname, [.str "old.x"], .int 300, .str "", [], [(.str "id", .str "hc-1")]⟩]

theorem aliases_taken : TextLabels mixed.labels ∧
    (publish mixed (.str "w.x") plain aliased (some [0])).published = .ok [0, 1] ∧
    ¬ ∀ id ∈ [0, 1], ∀ r,
      (publish mixed (.str "w.x") plain aliased (some [0])).records[id]? = some r →
        (∃ m ∈ [0], (aliased[m]?).map Record.slot = some r.slot) →
          latest? aliased [0] r.slot = some id := by
  refine ⟨mixed_labels, by decide +kernel, ?_⟩
  intro every
  have there : (publish mixed (.str "w.x") plain aliased (some [0])).records[1]? =
      some ⟨.str "w.x", .cname, [.str "edge.x"], .int 60, .str "", [], []⟩ := by decide +kernel
  have found := every 1 (by decide) _ there ⟨0, by decide, by decide⟩
  exact absurd found (by decide)

end Synthesis
end DnsSteering
