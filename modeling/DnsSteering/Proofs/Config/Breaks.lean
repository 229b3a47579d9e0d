import DnsSteering.Proofs.Config
import DnsSteering.Proofs.Config.Strays

namespace DnsSteering.Config

section Inputs

variable {α β : Type} {f : Fault}

theorem Reading.bind_broken {r : Reading α} {g : α → Reading β} :
    (r.bind g).ending = .broken f ↔
      r.ending = .broken f ∨ ∃ a, r.ending = .accepted a ∧ (g a).ending = .broken f := by
  unfold bind
  cases r.ending <;> simp

theorem orRefuse_broken {origin : Log.Origin} {what : String} {isReason : Fault → Bool}
    {x : Except Fault α} :
    (orRefuse origin what isReason x).ending = .broken f ↔ BreaksOff isReason x f := by
  cases x with
  | ok a => simp [orRefuse, BreaksOff]
  | error e =>
    cases reason : isReason e with
    | true =>
      simp only [orRefuse, reason, if_true, ending_refuse, reduceCtorEq, false_iff]
      rintro ⟨same, stray⟩
      cases same
      rw [reason] at stray
      cases stray
    | false =>
      simp only [orRefuse, reason, Bool.false_eq_true, if_false, Reading.ending_quiet, Ending.broken.injEq]
      constructor
      · rintro rfl
        exact ⟨rfl, reason⟩
      · rintro ⟨same, _⟩
        cases same
        rfl

-- A text is read as a document, or refused.
theorem document_text {key : LooseText} {what s : String} {g : Json → Reading α} :
    ((document key what (some (.str s))).bind g).ending = .broken f ↔
      ∃ v, Json.read s = .ok v ∧ v ≠ .null ∧ (g v).ending = .broken f := by
  unfold document given
  simp only [Reading.bind_accepted_quiet, LooseText.mended_plain]
  cases Json.read s with
  | error message => simp
  | ok v => cases v <;> simp

theorem readHostname_text {s : String} :
    (readHostname (some (.str s))).ending ≠ .broken f ∧
      ∀ hostname, (readHostname (some (.str s))).ending = .accepted hostname ↔
        Hostname.refusal? true s = none ∧ s = hostname := by
  unfold readHostname given
  cases refused : Hostname.refusal? true s <;>
    simp [Hostname.check, refused]

theorem addresses_breakOff {items : List Json} :
    BreaksOff isAddressReason (readAll address items) f ↔
      f = .noMember ∧ Foremost address StrayAddress items := by
  simp only [readAll_breaksOff, address_breaksOff, foremost_and]

theorem weightRules_breakOff {v : Json} : BreaksOff isWeightReason (weightRules v) f ↔
    f = .integerInfinite ∧ ∃ items, v.items? = some items ∧ Foremost weightRule EndlessWeight items := by
  unfold weightRules Json.itemList
  cases v.items? with
  | none =>
    simp only [BreaksOff, Except.error.injEq, reduceCtorEq, false_and, exists_false, and_false, iff_false]
    rintro ⟨rfl, stray⟩
    cases stray
  | some items =>
    simp only [readAll_breaksOff, weightRule_breaksOff, foremost_and, Option.some.injEq, exists_eq_left']

theorem records_breakOff {items : List Json} :
    BreaksOff isRecordReason (Record.ofJsonAll items) f ↔
      (f = .noMember ∧ Foremost Record.ofJson UntypedRecord items) ∨
        (f = .integerInfinite ∧ Foremost Record.ofJson EndlessRecord items) := by
  simp only [ofJsonAll_readAll, readAll_breaksOff, record_breaksOff, foremost_or, foremost_and]

theorem build_whole (d : Draft) : (build d).ending ≠ .broken f := by
  intro broken
  obtain ⟨failed, stray⟩ := orRefuse_broken.mp broken
  unfold Draft.build at failed
  split at failed
  · cases failed
    cases stray
  · cases failed

theorem readGateway_broken {s : String} : (readGateway (some (.str s))).ending = .broken f ↔
    ∃ fields labels items, Json.read s = .ok (.obj fields) ∧
      (Json.field? "labels" fields).getD (.obj []) = .obj labels ∧
      (Json.field? "addresses" fields).getD (.arr []) = .arr items ∧
      f = .noMember ∧ Foremost address StrayAddress items := by
  unfold readGateway
  rw [document_text]
  constructor
  · rintro ⟨v, read, _, broken⟩
    cases v with
    | obj fields =>
      simp only [gatewayOfFields] at broken
      split at broken
      · rename_i labels labelled
        split at broken
        · rename_i items listed
          rcases Reading.bind_broken.mp broken with addressed | ⟨_, _, rest⟩
          · obtain ⟨rfl, stray⟩ := addresses_breakOff.mp (orRefuse_broken.mp addressed)
            exact ⟨fields, labels, items, read, labelled, listed, rfl, stray⟩
          · cases rest
        · cases broken
      · cases broken
    | _ => cases broken
  · rintro ⟨fields, labels, items, read, labelled, listed, stray⟩
    refine ⟨_, read, by simp, ?_⟩
    simp only [gatewayOfFields, labelled, listed]
    exact Reading.bind_broken.mpr (.inl (orRefuse_broken.mpr (addresses_breakOff.mpr stray)))

theorem readPolicy_broken {s : String} : (readPolicy (some (.str s))).ending = .broken f ↔
    ∃ fields items, Json.read s = .ok (.obj fields) ∧
      (Json.field? "strategy" fields).getD (.str Policy.balancedStrategy) =
        .str Policy.balancedStrategy ∧
      ((Json.field? "custom_weights" fields).getD (.arr [])).items? = some items ∧
      f = .integerInfinite ∧ Foremost weightRule EndlessWeight items := by
  unfold readPolicy
  rw [document_text]
  constructor
  · rintro ⟨v, read, _, broken⟩
    cases v with
    | obj fields =>
      simp only [policyOfFields] at broken
      split at broken
      · exact absurd broken (build_whole _)
      · split at broken
        · rename_i balanced
          rcases Reading.bind_broken.mp broken with weighed | ⟨_, _, rest⟩
          · obtain ⟨rfl, items, listed, endless⟩ := weightRules_breakOff.mp (orRefuse_broken.mp weighed)
            exact ⟨fields, items, read, balanced, listed, rfl, endless⟩
          · exact absurd rest (build_whole _)
        · cases broken
    | _ => cases broken
  · rintro ⟨fields, items, read, balanced, listed, rfl, endless⟩
    refine ⟨_, read, by simp, ?_⟩
    have other : Json.str Policy.balancedStrategy ≠ .str Policy.simpleStrategy := by decide
    simp only [policyOfFields, balanced, other, if_false, if_true]
    exact Reading.bind_broken.mpr (.inl (orRefuse_broken.mpr
      (weightRules_breakOff.mpr ⟨rfl, items, listed, endless⟩)))

theorem readCurrent_broken {s : String} : (readCurrent (some (.str s))).ending = .broken f ↔
    ∃ items, Json.read s = .ok (.arr items) ∧
      ((f = .noMember ∧ Foremost Record.ofJson UntypedRecord items) ∨
        (f = .integerInfinite ∧ Foremost Record.ofJson EndlessRecord items)) := by
  unfold readCurrent
  rw [document_text]
  constructor
  · rintro ⟨v, read, _, broken⟩
    cases v with
    | arr items => exact ⟨items, read, records_breakOff.mp (orRefuse_broken.mp broken)⟩
    | _ => cases broken
  · rintro ⟨items, read, stray⟩
    exact ⟨_, read, by simp, orRefuse_broken.mpr (records_breakOff.mpr stray)⟩

end Inputs

-- Four texts: a hostname and three documents.
def texts (hostname gateway routing current : String) : Source :=
  ⟨some (.str hostname), some (.str gateway), some (.str routing), some (.str current)⟩

-- What breaks off the reading of four texts, with all that is read before it accepted.
inductive Breaks (hostname gateway routing current : String) : Fault → Prop where
  | address {fields labels items} (named : Hostname.refusal? true hostname = none)
      (read : Json.read gateway = .ok (.obj fields))
      (labelled : (Json.field? "labels" fields).getD (.obj []) = .obj labels)
      (listed : (Json.field? "addresses" fields).getD (.arr []) = .arr items)
      (stray : Foremost Config.address StrayAddress items) : Breaks hostname gateway routing current .noMember
  | weight {g fields items} (named : Hostname.refusal? true hostname = none)
      (reached : (readGateway (some (.str gateway))).ending = .accepted g)
      (read : Json.read routing = .ok (.obj fields))
      (balanced : (Json.field? "strategy" fields).getD (.str Policy.balancedStrategy) =
        .str Policy.balancedStrategy)
      (listed : ((Json.field? "custom_weights" fields).getD (.arr [])).items? = some items)
      (endless : Foremost weightRule EndlessWeight items) :
      Breaks hostname gateway routing current .integerInfinite
  | untyped {g p items} (named : Hostname.refusal? true hostname = none)
      (reached : (readGateway (some (.str gateway))).ending = .accepted g)
      (governed : (readPolicy (some (.str routing))).ending = .accepted p)
      (read : Json.read current = .ok (.arr items))
      (untyped : Foremost Record.ofJson UntypedRecord items) :
      Breaks hostname gateway routing current .noMember
  | endless {g p items} (named : Hostname.refusal? true hostname = none)
      (reached : (readGateway (some (.str gateway))).ending = .accepted g)
      (governed : (readPolicy (some (.str routing))).ending = .accepted p)
      (read : Json.read current = .ok (.arr items))
      (endless : Foremost Record.ofJson EndlessRecord items) :
      Breaks hostname gateway routing current .integerInfinite

theorem read_breaks (hostname gateway routing current : String) (f : Fault) :
    (read (texts hostname gateway routing current)).ending = .broken f ↔
      Breaks hostname gateway routing current f := by
  have named := readHostname_text (f := f) (s := hostname)
  unfold read texts
  simp only [Reading.bind_broken, named.1, named.2, Reading.ending_quiet, false_or, reduceCtorEq,
    or_false, and_false, exists_false, readGateway_broken, readPolicy_broken, readCurrent_broken]
  constructor
  · rintro ⟨_, ⟨accepted, rfl⟩, gatewayBroken | ⟨g, reached, policyBroken | ⟨p, governed, stray⟩⟩⟩
    · obtain ⟨fields, labels, items, read, labelled, listed, rfl, stray⟩ := gatewayBroken
      exact .address accepted read labelled listed stray
    · obtain ⟨fields, items, read, balanced, listed, rfl, endless⟩ := policyBroken
      exact .weight accepted reached read balanced listed endless
    · obtain ⟨items, read, ⟨rfl, untyped⟩ | ⟨rfl, endless⟩⟩ := stray
      · exact .untyped accepted reached governed read untyped
      · exact .endless accepted reached governed read endless
  · intro breaks
    refine ⟨hostname, ?_⟩
    cases breaks with
    | address accepted read labelled listed stray =>
      exact ⟨⟨accepted, rfl⟩, .inl ⟨_, _, _, read, labelled, listed, rfl, stray⟩⟩
    | weight accepted reached read balanced listed endless =>
      exact ⟨⟨accepted, rfl⟩, .inr ⟨_, reached, .inl ⟨_, _, read, balanced, listed, rfl, endless⟩⟩⟩
    | untyped accepted reached governed read untyped =>
      exact ⟨⟨accepted, rfl⟩, .inr ⟨_, reached, .inr ⟨_, governed, _, read, .inl ⟨rfl, untyped⟩⟩⟩⟩
    | endless accepted reached governed read endless =>
      exact ⟨⟨accepted, rfl⟩, .inr ⟨_, reached, .inr ⟨_, governed, _, read, .inr ⟨rfl, endless⟩⟩⟩⟩

-- Four texts give a config or a refusal, unless something breaks their reading off.
theorem read_texts (hostname gateway routing current : String) :
    (∀ f, (read (texts hostname gateway routing current)).ending = .broken f ↔
      Breaks hostname gateway routing current f) ∧
    (((∃ config, (read (texts hostname gateway routing current)).ending = .accepted config) ∨
      (read (texts hostname gateway routing current)).ending = .refused) ↔
        ∀ f, ¬ Breaks hostname gateway routing current f) := by
  refine ⟨read_breaks hostname gateway routing current, ?_⟩
  simp only [← read_breaks]
  cases (read (texts hostname gateway routing current)).ending <;> simp

def numberedGateway : String :=
  "\x7b\"addresses\":[\x7b\"type\":\"Hostname\",\"value\":5\x7d]\x7d"

def endlessRouting : String := "\x7b\"custom_weights\":[\x7b\"weight\":Infinity\x7d]\x7d"

def untypedCurrent : String := "[\x7b\"name\":\"a.x\",\"type\":null\x7d]"

def endlessCurrent : String :=
  "[\x7b\"name\":\"a.x\",\"type\":\"A\",\"targets\":[],\"ttl\":1e400\x7d]"

def simpleRouting : String := "\x7b\"strategy\":\"simple\"\x7d"

def plainGateway : String := "\x7b\x7d"

-- Each of the four faults leaves texts without an answer.
theorem stray_values_break :
    (read (texts "a.x" numberedGateway simpleRouting "[]")).ending = .broken .noMember ∧
    (read (texts "a.x" plainGateway endlessRouting "[]")).ending = .broken .integerInfinite ∧
    (read (texts "a.x" plainGateway simpleRouting untypedCurrent)).ending = .broken .noMember ∧
    (read (texts "a.x" plainGateway simpleRouting endlessCurrent)).ending = .broken .integerInfinite ∧
    ¬ ∀ hostname gateway routing current,
      (∃ config, (read (texts hostname gateway routing current)).ending = .accepted config) ∨
        (read (texts hostname gateway routing current)).ending = .refused := by
  have numbered : (read (texts "a.x" numberedGateway simpleRouting "[]")).ending = .broken .noMember := by
    decide +kernel
  refine ⟨numbered, by decide +kernel, by decide +kernel, by decide +kernel, ?_⟩
  intro answered
  rcases answered "a.x" numberedGateway simpleRouting "[]" with ⟨config, accepted⟩ | refused
  · cases numbered.symm.trans accepted
  · cases numbered.symm.trans refused

end DnsSteering.Config
