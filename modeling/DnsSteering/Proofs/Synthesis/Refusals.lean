import DnsSteering.Proofs.Policy
import DnsSteering.Proofs.Synthesis.Delivery
import DnsSteering.Proofs.Weight

namespace DnsSteering

namespace Synthesis

-- A listener's hostname, if it has one.
def listener (hostname : Option LooseText) : Json := hostname.elim .null .str

-- There is no hostname, or nothing of it besides a leading wildcard.
def Hostless (hostname : Option LooseText) : Prop :=
  ∀ h, hostname = some h →
    h = "" ∨ ∃ name, Name.read h.mended = .ok name ∧ name.withoutWildcard = Name.root

-- What is asked once there is a hostname.
def laterReasons (current : Option (List Nat)) (p : Policy) : List (Prop × Fault) :=
  (current = none, .currentMissing) ::
    (p.flaws.map (fun flaw => (flaw.1, .policy flaw.2)) ++
      [(p.strategy ≠ .str "simple" ∧ p.strategy ≠ .str "loadbalanced",
        .unknownStrategy p.strategy.shown)])

def reasons (hostname : Option LooseText) (current : Option (List Nat)) (p : Policy) :
    List (Prop × Fault) :=
  (Hostless hostname, .hostnameMissing) :: laterReasons current p

-- What is asked last, by the balanced strategy where there are IP addresses: that the texts of the
-- cluster and of the gateway, which are hashed then, have a form in UTF-8.
def codeReasons (p : Policy) (g : Gateway) : List (Prop × Fault) :=
  [p.clusterId.display, gatewayText g].filterMap fun t =>
    match t.utf8 with
    | .ok _ => none
    | .error e => some (p.strategy = .str "loadbalanced" ∧ g.ips ≠ [], .encoding e)

-- What is known of a publication that found a reason against it, or none.
def Reported (records : List Record) (o : Outcome) : Option Fault → Prop
  | some f => o.published = .error f ∧ o.records = records
  | none => ∃ ids, o.published = .ok ids

section Reported

variable {records : List Record} {o : Outcome} {found : Option Fault}

theorem Reported.error_iff {f : Fault} (reported : Reported records o found) :
    o.published = .error f ↔ found = some f := by
  cases found with
  | some f' =>
    rw [reported.1]
    simp
  | none =>
    obtain ⟨ids, succeeded⟩ := reported
    simp [succeeded]

theorem Reported.ok_iff (reported : Reported records o found) :
    (∃ ids, o.published = .ok ids) ↔ found = none := by
  cases found with
  | some f =>
    rw [reported.1]
    simp
  | none => exact ⟨fun _ => rfl, fun _ => reported⟩

theorem Reported.untouched (reported : Reported records o found)
    (failed : ∃ f, o.published = .error f) : o.records = records := by
  obtain ⟨f, failed⟩ := failed
  cases reported.error_iff.mp failed
  exact reported.2

end Reported

section Refusals

variable {g : Gateway} {hostname : Option LooseText} {p : Policy} {records : List Record}
  {current : Option (List Nat)} {base : String}

theorem listenerBase_hostless (readable : ∀ h, hostname = some h → ∃ name, Name.read h.mended = .ok name) :
    (Hostless hostname ∧ listenerBase (listener hostname) = .error .hostnameMissing) ∨
      (¬ Hostless hostname ∧ ∃ base, listenerBase (listener hostname) = .ok base) := by
  cases hostname with
  | none =>
    have hostless : Hostless none := by
      intro h given
      cases given
    exact .inl ⟨hostless, rfl⟩
  | some h =>
    by_cases empty : h = ""
    · have hostless : Hostless (some h) := by
        intro h' given
        cases given
        exact .inl empty
      exact .inl ⟨hostless, by rw [empty]; rfl⟩
    · obtain ⟨name, read⟩ := readable h rfl
      obtain ⟨left, done, rooted⟩ := Hostname.base_root empty read
      have hostless : Hostless (some h) ↔ left = "" := by
        rw [rooted]
        constructor
        · intro none
          rcases none h rfl with equal | ⟨name', read', root⟩
          · exact absurd equal empty
          · cases Except.ok.inj (read.symm.trans read')
            exact root
        · intro root h' given
          cases given
          exact .inr ⟨name, read, root⟩
      have asked : listenerBase (listener (some h)) =
          if left.isEmpty then .error .hostnameMissing else .ok left := by
        simp [listener, listenerBase, Json.truthy, empty, done]
      rw [hostless, asked]
      by_cases nothing : left = ""
      · exact .inl ⟨nothing, by simp [nothing]⟩
      · exact .inr ⟨nothing, left, by simp [nothing]⟩

theorem codeReasons_clear (idle : ¬ (p.strategy = .str "loadbalanced" ∧ g.ips ≠ [])) :
    Clear (codeReasons p g) := by
  intro reason listed holds
  obtain ⟨t, _, made⟩ := List.mem_filterMap.mp listed
  split at made
  · cases made
  · cases made
    exact idle holds

-- A text for the cluster makes a name, unless it or the gateway's cannot be hashed.
theorem clusterActs_decided (balancer : String) (cluster : p.clusterId.IsText)
    (balanced : p.strategy = .str "loadbalanced") : ∃ found, Decides (codeReasons p g) found ∧
      ((found = none ∧ ∃ own acts, clusterActs p g balancer = .ok (own, acts)) ∨
        ∃ f, found = some f ∧ clusterActs p g balancer = .error f) := by
  by_cases none : g.ips = []
  · have clear : Clear (codeReasons p g) := codeReasons_clear fun holds => holds.2 none
    exact ⟨Option.none, clear, .inl ⟨rfl, [], [], by simp [clusterActs, none]⟩⟩
  · obtain ⟨id, named⟩ := cluster
    have asked : p.strategy = .str "loadbalanced" ∧ g.ips ≠ [] := ⟨balanced, none⟩
    have shown : p.clusterId.display = id := by rw [named]; rfl
    rcases ShortCode.ofText_cases ShortCode.usualLength id with
      ⟨bytes, code, whole, first⟩ | ⟨e, torn, first⟩
    · rcases ShortCode.ofText_cases ShortCode.usualLength (gatewayText g) with
        ⟨more, own, whole', second⟩ | ⟨e, torn, second⟩
      · have clear : Clear (codeReasons p g) := by simp [codeReasons, shown, whole, whole', Clear]
        refine ⟨Option.none, clear, .inl ⟨rfl, ?_⟩⟩
        simp [clusterActs, clusterName, none, named, first, second]
      · have here : First (codeReasons p g) (.encoding e) := by
          simpa [codeReasons, shown, whole, torn] using First.here asked
        exact ⟨some (.encoding e), here, .inr ⟨_, rfl, by
          simp [clusterActs, clusterName, none, named, first, second]⟩⟩
    · have here : First (codeReasons p g) (.encoding e) := by
        rw [codeReasons, shown, List.filterMap_cons, torn]
        exact .here asked
      exact ⟨some (.encoding e), here, .inr ⟨_, rfl, by
        simp [clusterActs, clusterName, none, named, first]⟩⟩

-- Labels that are texts have a geography and a weight, so nothing but the names is left to fail, and
-- it fails before there is anything to emit.
theorem plan_decided (host : Json) (base : String) (labels : TextLabels g.labels)
    (cluster : p.clusterId.IsText) (accepted : p.refusal? = none)
    (known : p.isSimple = true ∨ p.isBalanced = true) :
    ∃ found, Decides (codeReasons p g) found ∧
      ((found = none ∧ (plan p g host base).fault = none) ∨
        ∃ f, found = some f ∧ plan p g host base = ⟨[], some f⟩) := by
  unfold plan
  by_cases simple : p.isSimple = true
  · rw [if_pos simple]
    have strategy : p.strategy = .str "simple" := of_decide_eq_true simple
    have clear : Clear (codeReasons p g) := codeReasons_clear fun holds => by simp [strategy] at holds
    exact ⟨none, clear, .inl ⟨rfl, rfl⟩⟩
  · have balanced : p.isBalanced = true := known.resolve_left simple
    rw [if_neg simple, if_pos balanced]
    obtain ⟨geo, located⟩ := geoCode_some labels
    obtain ⟨weight, weighed⟩ := Weight.resolve_some labels (p.selectors_given accepted simple)
    obtain ⟨found, decides, result⟩ :=
      clusterActs_decided (g := g) (balancerName base) cluster (of_decide_eq_true balanced)
    refine ⟨found, decides, ?_⟩
    unfold balancedPlan
    rcases result with ⟨none, own, acts, made⟩ | ⟨f, some, made⟩
    · refine .inl ⟨none, ?_⟩
      simp only [located, made]
      split
      · rfl
      · unfold treeActs
        rcases resolved : Weight.resolve p g.labels with ⟨result, log⟩
        rw [resolved] at weighed
        cases weighed
        rfl
    · exact .inr ⟨f, some, by simp only [located, made]⟩

theorem plan_sound (host : Json) (base : String) (labels : TextLabels g.labels)
    (cluster : p.clusterId.IsText) (accepted : p.refusal? = none)
    (known : p.isSimple = true ∨ p.isBalanced = true) (clear : Clear (codeReasons p g)) :
    (plan p g host base).fault = none := by
  obtain ⟨found, decides, ⟨_, sound⟩ | ⟨f, rfl, _⟩⟩ :=
    plan_decided host base labels cluster accepted known
  · exact sound
  · exact absurd clear (First.notClear decides)

theorem plan_uncoded (host : Json) (base : String) {f : Fault} (labels : TextLabels g.labels)
    (cluster : p.clusterId.IsText) (accepted : p.refusal? = none)
    (known : p.isSimple = true ∨ p.isBalanced = true) (first : First (codeReasons p g) f) :
    plan p g host base = ⟨[], some f⟩ := by
  obtain ⟨found, decides, ⟨rfl, _⟩ | ⟨f', rfl, planned⟩⟩ :=
    plan_decided host base labels cluster accepted known
  · exact absurd decides first.notClear
  · rw [planned, First.unique first decides]

theorem plan_unknown {host : Json}
    (unknown : p.strategy ≠ .str "simple" ∧ p.strategy ≠ .str "loadbalanced") :
    plan p g host base = ⟨[], some (.unknownStrategy p.strategy.shown)⟩ := by
  simp [plan, Policy.isSimple, Policy.isBalanced, Policy.simpleStrategy, Policy.balancedStrategy,
    unknown]

-- A plan that only fails leaves the records as they are.
theorem publish_unplanned {host : Json} {ids : List Nat} {start : Ledger} {f : Fault}
    (left : listenerBase host = .ok base) (accepted : p.refusal? = none)
    (opened : Ledger.opening records ids = .ok start) (planned : plan p g host base = ⟨[], some f⟩) :
    (publish g host p records (some ids)).published = .error f ∧
      (publish g host p records (some ids)).records = start.records := by
  simp [publish, left, accepted, opened, planned, carryOut, Plan.run, Plan.runActs]

theorem laterReasons_clear {ids : List Nat} (typed : p.Typed) (accepted : p.refusal? = none)
    (known : p.strategy = .str "simple" ∨ p.strategy = .str "loadbalanced") :
    Clear (laterReasons (some ids) p) := by
  have flaws := (Policy.refusal?_decides typed).map Fault.policy
  rw [accepted] at flaws
  refine clear_cons.mpr ⟨by simp, clear_append.mpr ⟨flaws, clear_cons.mpr ⟨?_, clear_nil⟩⟩⟩
  rintro ⟨notSimple, notBalanced⟩
  exact known.elim notSimple notBalanced

-- Once a policy is accepted, the plan is all that is left to ask, and it is asked before records are
-- touched.
theorem accepted_reported {ids : List Nat} (labels : TextLabels g.labels) (typed : p.Typed)
    (text : AllText records ids) (left : listenerBase (listener hostname) = .ok base)
    (accepted : p.refusal? = none) :
    ∃ found, Decides (laterReasons (some ids) p ++ codeReasons p g) found ∧
      Reported records (publish g (listener hostname) p records (some ids)) found := by
  obtain ⟨start, opened, _, _, same, _⟩ := Ledger.opening_sound text
  have fails : ∀ {f}, plan p g (listener hostname) base = ⟨[], some f⟩ →
      Reported records (publish g (listener hostname) p records (some ids)) (some f) := by
    intro f planned
    obtain ⟨failed, kept⟩ := publish_unplanned left accepted opened planned
    exact ⟨failed, kept.trans same⟩
  by_cases unknown : p.strategy ≠ .str "simple" ∧ p.strategy ≠ .str "loadbalanced"
  · have flaws := (Policy.refusal?_decides typed).map Fault.policy
    rw [accepted] at flaws
    exact ⟨some (.unknownStrategy p.strategy.shown),
      First.append (.later (by simp) (First.behind flaws (.here unknown))), fails (plan_unknown unknown)⟩
  · have known : p.strategy = .str "simple" ∨ p.strategy = .str "loadbalanced" := by
      by_cases simple : p.strategy = .str "simple"
      · exact .inl simple
      · exact .inr (not_not.mp fun other => unknown ⟨simple, other⟩)
    have clear : Clear (laterReasons (some ids) p) := laterReasons_clear typed accepted known
    obtain ⟨found, decides, ⟨rfl, sound⟩ | ⟨f, rfl, planned⟩⟩ :=
      plan_decided (listener hostname) base labels typed.clusterId accepted
        (known.imp decide_eq_true decide_eq_true)
    · cases hostname with
      | none => cases left
      | some h =>
        obtain ⟨_, ids', _, _, _, _, done, _⟩ :=
          publish_completed text left accepted sound (plan_fit labels sound)
        exact ⟨none, clear_append.mpr ⟨clear, decides⟩, ids', done⟩
    · exact ⟨some f, First.behind clear decides, fails planned⟩

-- Once there is a hostname, the rest is asked in order, and nothing but the last step touches records.
theorem publish_reported (labels : TextLabels g.labels) (typed : p.Typed)
    (text : ∀ ids, current = some ids → AllText records ids)
    (left : listenerBase (listener hostname) = .ok base) :
    ∃ found, Decides (laterReasons current p ++ codeReasons p g) found ∧
      Reported records (publish g (listener hostname) p records current) found := by
  cases current with
  | none => exact ⟨some .currentMissing, .here rfl, by simp [publish, left], by simp [publish, left]⟩
  | some ids =>
    cases refused : p.refusal? with
    | some flaw =>
      have flaws := (Policy.refusal?_decides typed).map Fault.policy
      rw [refused] at flaws
      exact ⟨some (.policy flaw), First.append (.later (by simp) (First.append flaws)),
        by simp [publish, left, refused], by simp [publish, left, refused]⟩
    | none => exact accepted_reported labels typed (text ids rfl) left refused

theorem publish_unhosted {f : Fault} (missing : listenerBase (listener hostname) = .error f) :
    Reported records (publish g (listener hostname) p records current) (some f) :=
  ⟨by simp [publish, missing], by simp [publish, missing]⟩

theorem publish_decided (labels : TextLabels g.labels) (typed : p.Typed)
    (text : ∀ ids, current = some ids → AllText records ids)
    (readable : ∀ h, hostname = some h → ∃ name, Name.read h.mended = .ok name) :
    ∃ found, Decides (reasons hostname current p ++ codeReasons p g) found ∧
      Reported records (publish g (listener hostname) p records current) found := by
  rcases listenerBase_hostless readable with ⟨hostless, missing⟩ | ⟨hosted, base, left⟩
  · exact ⟨some .hostnameMissing, .here hostless, publish_unhosted missing⟩
  · obtain ⟨found, decides, reported⟩ := publish_reported labels typed text left
    refine ⟨found, ?_, reported⟩
    cases found with
    | some f => exact .later hosted decides
    | none => exact clear_cons.mpr ⟨hosted, decides⟩

end Refusals

-- A publication that fails leaves every record as it was. If the hostname can be read, or there is
-- none, then it fails exactly where there is a reason for it, and with the first of these. That a text
-- cannot be hashed is the last of them.
theorem publish_refused {g : Gateway} {hostname : Option LooseText} {p : Policy} {records : List Record}
    {current : Option (List Nat)} (labels : TextLabels g.labels) (typed : p.Typed)
    (text : ∀ ids, current = some ids → AllText records ids) :
    let done := publish g (listener hostname) p records current
    ((∃ f, done.published = .error f) → done.records = records) ∧
      ((∀ h, hostname = some h → ∃ name, Name.read h.mended = .ok name) →
        (∀ f, done.published = .error f ↔ First (reasons hostname current p ++ codeReasons p g) f) ∧
        ((∃ ids, done.published = .ok ids) ↔ Clear (reasons hostname current p ++ codeReasons p g))) := by
  constructor
  · intro failed
    cases left : listenerBase (listener hostname) with
    | error f => exact (publish_unhosted left).untouched failed
    | ok base =>
      obtain ⟨found, _, reported⟩ := publish_reported labels typed text left
      exact reported.untouched failed
  · intro readable
    obtain ⟨found, decides, reported⟩ := publish_decided labels typed text readable
    exact ⟨fun f => reported.error_iff.trans decides.some_iff, reported.ok_iff.trans decides.none_iff⟩

-- The first selector is malformed, but given. The second rule is refused for its weight, although it
-- has an empty selector as well.
def weightless : Policy :=
  { spread with rules := [
      ⟨.int 10, some ⟨.str "app", .none⟩⟩, ⟨.float (.finite true 0 0), some ⟨.null, .none⟩⟩,
      ⟨.int 0, none⟩] }

theorem spread_typed : spread.Typed := ⟨⟨_, rfl⟩, ⟨_, rfl⟩, ⟨_, rfl⟩, ⟨_, rfl⟩⟩

theorem weightless_typed : weightless.Typed := ⟨⟨_, rfl⟩, ⟨_, rfl⟩, ⟨_, rfl⟩, ⟨_, rfl⟩⟩

theorem wildcard_read : Name.read "*.x" = .ok ⟨[[42], [120]]⟩ := by decide +kernel

theorem wildcard_readable :
    ∀ h, some (LooseText.plain "*.x") = some h → ∃ name, Name.read h.mended = .ok name := by
  intro h given
  cases given
  exact ⟨_, wildcard_read⟩

theorem wildcard_hosted : ¬ Hostless (some "*.x") := by
  intro none
  rcases none "*.x" rfl with empty | ⟨name, read, root⟩
  · simp at empty
  · cases Except.ok.inj (read.symm.trans wildcard_read)
    exact absurd root (by decide)

theorem weightless_first :
    First (reasons (some "*.x") (some [0]) weightless) (.policy .zeroWeight) := by
  refine .later wildcard_hosted (.later (by simp) (First.append (First.map Fault.policy ?_)))
  refine .later (by simp [weightless, spread]) (.later (by simp [weightless, spread])
    (.later (by simp [weightless, spread]) ?_))
  exact .later (by simp [Json.IsZero]) (.later (by simp) (.here ⟨true, 0, rfl⟩))

theorem weightless_refused : TextLabels ireland.labels ∧ weightless.Typed ∧
    (∀ ids, some [0] = some ids → AllText misplaced ids) ∧
    (∀ h, some (LooseText.plain "*.x") = some h → ∃ name, Name.read h.mended = .ok name) ∧
    (publish ireland (listener (some "*.x")) weightless misplaced (some [0])).published =
      .error (.policy .zeroWeight) ∧
    (publish ireland (listener (some "*.x")) weightless misplaced (some [0])).records = misplaced := by
  have text : ∀ ids, some [0] = some ids → AllText misplaced ids := by
    intro ids given
    cases given
    exact misplaced_text
  obtain ⟨untouched, decided⟩ := publish_refused ireland_labels weightless_typed text
  have failed := ((decided wildcard_readable).1 _).mpr (First.append weightless_first)
  exact ⟨ireland_labels, weightless_typed, text, wildcard_readable, failed, untouched ⟨_, failed⟩⟩

-- A gateway named by half of a pair alone.
def halved : Gateway := ⟨.str (.torn "" lone ""), .str "ns", .obj [], [first]⟩

-- There is no reason against it but that it cannot be hashed.
theorem halved_unlisted :
    (publish halved (listener (some "*.x")) spread [] (some [])).published =
      .error (.encoding ⟨lone, 0, 0⟩) ∧
    Clear (reasons (some "*.x") (some []) spread) ∧
    ¬ ∀ g hostname p records current, TextLabels g.labels → p.Typed →
      (∀ ids, current = some ids → AllText records ids) →
      (∀ h, hostname = some h → ∃ name, Name.read h.mended = .ok name) →
      ∀ f, (publish g (listener hostname) p records current).published = .error f ↔
        First (reasons hostname current p) f := by
  have labels : TextLabels halved.labels := ⟨[], rfl, by simp⟩
  have text : ∀ ids, some [] = some ids → AllText [] ids := by
    intro ids given
    cases given
    exact allText_of (List.forall_mem_nil _) []
  have clear : Clear (reasons (some "*.x") (some []) spread) := by
    refine clear_cons.mpr ⟨wildcard_hosted, ?_⟩
    simp [laterReasons, Policy.flaws, spread, Policy.balancedStrategy, Clear]
  have failed : (publish halved (listener (some "*.x")) spread [] (some [])).published =
      .error (.encoding ⟨lone, 0, 0⟩) := by
    have uncoded : First (codeReasons spread halved) (.encoding ⟨lone, 0, 0⟩) :=
      .here ⟨rfl, by decide +kernel⟩
    obtain ⟨_, decides, reported⟩ := publish_decided labels spread_typed text wildcard_readable
    exact reported.error_iff.mpr (decides.some_iff.mpr (First.behind clear uncoded))
  refine ⟨failed, clear, fun listed => ?_⟩
  have found := (listed halved _ spread [] (some []) labels spread_typed text wildcard_readable _).mp failed
  exact found.notClear clear

end Synthesis
end DnsSteering
