import DnsSteering.Proofs.Config.Breaks
import DnsSteering.Proofs.Records.Forms
import Mathlib.Data.List.Forall2

namespace DnsSteering

-- Two objects with the same fields, in any order.
def Json.SameFields (v w : Json) : Prop := ∃ fs gs, v = .obj fs ∧ w = .obj gs ∧ fs.Perm gs

-- Pairs of a selector, where they are given at all. An empty object is not the same as none.
def Json.SamePairs (v w : Json) : Prop := (v = .null ∧ w = .null) ∨ v.SameFields w

structure Gateway.Alike (g h : Gateway) : Prop where
  name : g.name = h.name
  space : g.space = h.space
  labels : g.labels.SameFields h.labels
  addresses : ∀ a, a ∈ g.addresses ↔ a ∈ h.addresses

structure Selector.Alike (s t : Selector) : Prop where
  labels : s.labels.SamePairs t.labels
  expressions : s.expressions = t.expressions

structure WeightRule.Alike (r s : WeightRule) : Prop where
  weight : r.weight.same s.weight = true
  selector : ∃ t u, r.selector = some t ∧ s.selector = some u ∧ t.Alike u

structure Policy.Alike (p q : Policy) : Prop where
  strategy : p.strategy = q.strategy
  defaultGeo : p.defaultGeo = q.defaultGeo
  defaultWeight : p.defaultWeight = q.defaultWeight
  rules : List.Forall₂ WeightRule.Alike p.rules q.rules
  clusterId : p.clusterId = q.clusterId

structure Record.Alike (r s : Record) : Prop where
  name : r.name = s.name
  type : r.type = s.type
  targets : r.targets = s.targets
  ttl : r.ttl.same s.ttl = true
  identifier : r.identifier = s.identifier
  attributes : r.attributes.Perm s.attributes
  labels : r.labels.Perm s.labels

-- The same input: mappings and sets whatever their order, all else as it is.
structure Config.Alike (c d : Config) : Prop where
  hostname : c.hostname = d.hostname
  gateway : c.gateway.Alike d.gateway
  policy : c.policy.Alike d.policy
  current : List.Forall₂ Record.Alike c.current d.current

theorem Selector.Alike.isEmpty {s t : Selector} (alike : s.Alike t) : s.isEmpty = t.isEmpty := by
  have labels : s.labels = .null ↔ t.labels = .null := by
    obtain ⟨one, two⟩ | ⟨fs, gs, one, two, _⟩ := alike.labels <;> simp [one, two]
  simp [Selector.isEmpty, labels, alike.expressions]

namespace Config

abbrev Fields := List (LooseText × Json)

-- What stands under a key, or what is taken in its place.
def part (key : LooseText) (missing : Json) (fields : Fields) : Json :=
  (Json.field? key fields).getD missing

section Codes

variable {α : Type}

-- A value that stands in a document as an object.
def Coded (code : α → Fields → Prop) (a : α) (v : Json) : Prop :=
  ∃ fields, v = .obj fields ∧ code a fields

structure AddressCode (a : Address) (fields : Fields) : Prop where
  kind : Json.field? "type" fields = some (.str a.kind.text)
  value : Json.field? "value" fields = some (.str a.value)

structure GatewayCode (g : Gateway) (fields : Fields) : Prop where
  name : part "name" (.str "") fields = g.name
  space : part "namespace" (.str "") fields = g.space
  labels : (part "labels" (.obj []) fields).SameFields g.labels
  addresses : ∃ listed items, part "addresses" (.arr []) fields = .arr items ∧
    List.Forall₂ (Coded AddressCode) listed items ∧ ∀ a, a ∈ listed ↔ a ∈ g.addresses

inductive ExpressionCode : Expression → Fields → Prop where
  | requirement {key operator : Json} {values : List Json} {fields : Fields}
      (named : Json.field? "key" fields = some key)
      (asked : Json.field? "operator" fields = some operator)
      (listed : part "values" .null fields = .arr values ∨
        (part "values" .null fields = .null ∧ values = [])) :
      ExpressionCode (.requirement key operator (.arr values)) fields

inductive ExpressionsCode : Expressions → Json → Prop where
  | none : ExpressionsCode .none .null
  | listed {es : List Expression} {items : List Json}
      (each : List.Forall₂ (Coded ExpressionCode) es items) : ExpressionsCode (.listed es) (.arr items)

structure SelectorCode (s : Selector) (fields : Fields) : Prop where
  labels : (part "match_labels" .null fields).SamePairs s.labels
  expressions : ExpressionsCode s.expressions (part "match_expressions" .null fields)

structure RuleCode (r : WeightRule) (fields : Fields) : Prop where
  weight : Json.field? "weight" fields = some r.weight
  whole : r.weight.IsWhole
  selector : ∃ s inner, r.selector = some s ∧ part "selector" (.obj []) fields = .obj inner ∧
    SelectorCode s inner

inductive PolicyCode : Policy → Fields → Prop where
  | simple {fields : Fields} (strategy : Json.field? "strategy" fields = some (.str Policy.simpleStrategy)) :
      PolicyCode { strategy := .str Policy.simpleStrategy } fields
  | balanced {geo weight cluster : Json} {rules : List WeightRule} {items : List Json} {fields : Fields}
      (strategy : part "strategy" (.str Policy.balancedStrategy) fields = .str Policy.balancedStrategy)
      (clustered : part "cluster_id" (.str "") fields = cluster)
      (located : part "default_geo" (.str "") fields = geo)
      (weighed : part "default_weight" (.int 0) fields = weight)
      (listed : part "custom_weights" (.arr []) fields = .arr items)
      (each : List.Forall₂ (Coded RuleCode) rules items) :
      PolicyCode ⟨.str Policy.balancedStrategy, geo, weight, rules, cluster⟩ fields

inductive EntriesCode : Entries → Json → Prop where
  | none : EntriesCode [] .null
  | fields {es : Entries} {fields : Fields} (same : (Entries.ofFields fields).Perm es) :
      EntriesCode es (.obj fields)

structure RecordCode (r : Record) (fields : Fields) : Prop where
  name : Json.field? "name" fields = some r.name
  type : Json.field? "type" fields = some (.str r.type.text)
  targets : Json.field? "targets" fields = some (.arr r.targets)
  ttl : Json.field? "ttl" fields = some r.ttl
  whole : r.ttl.IsWhole
  identifier : part "set_identifier" (.str "") fields = r.identifier
  attributes : EntriesCode r.attributes (part "provider_attributes" .null fields)
  labels : EntriesCode r.labels (part "labels" .null fields)

end Codes

section Reading

variable {α : Type}

-- Items that encode the values of a list are read as values that are like these, in order.
theorem readAll_coded {read : Json → Except Fault α} {code : α → Fields → Prop} (alike : α → α → Prop)
    (each : ∀ a fields, code a fields → ∃ b, read (.obj fields) = .ok b ∧ alike b a) {as : List α}
    {items : List Json} (coded : List.Forall₂ (Coded code) as items) :
    ∃ bs, readAll read items = .ok bs ∧ List.Forall₂ alike bs as := by
  induction coded with
  | nil => exact ⟨[], rfl, .nil⟩
  | cons first _ ih =>
    obtain ⟨fields, rfl, here⟩ := first
    obtain ⟨b, done, like⟩ := each _ _ here
    obtain ⟨bs, rest, others⟩ := ih
    exact ⟨b :: bs, by simp [readAll, done, rest, Except.map], .cons like others⟩

-- Where items are read as exactly what they encode, so is their list.
theorem readAll_exact {read : Json → Except Fault α} {code : α → Fields → Prop}
    (each : ∀ a fields, code a fields → read (.obj fields) = .ok a) {as : List α} {items : List Json}
    (coded : List.Forall₂ (Coded code) as items) : readAll read items = .ok as := by
  obtain ⟨bs, done, same⟩ := readAll_coded (· = ·)
    (fun a fields here => ⟨a, each a fields here, rfl⟩) coded
  have equal : bs = as := by rwa [List.forall₂_eq_eq_eq] at same
  rw [done, equal]

theorem address_coded {a : Address} {fields : Fields} (coded : AddressCode a fields) :
    address (.obj fields) = .ok a := by
  have kind : AddressKind.ofJson? (.str a.kind.text) = some a.kind := by
    cases a.kind <;> rfl
  simp [address, member, coded.kind, coded.value, bind, Except.bind, Address.ofJson, kind, Address.ofText,
    a.accepted]

theorem valueList_coded {v : Json} {values : List Json}
    (listed : v = .arr values ∨ (v = .null ∧ values = [])) : valueList v = .ok (.arr values) := by
  obtain rfl | ⟨rfl, rfl⟩ := listed
  · cases values <;> rfl
  · rfl

theorem expression_coded {e : Expression} {fields : Fields} (coded : ExpressionCode e fields) :
    expression (.obj fields) = .ok e := by
  cases coded with
  | requirement named asked listed =>
    have values := valueList_coded listed
    rw [part] at values
    simp [expression, member, named, asked, bind, Except.bind, pure, Except.pure, values]

theorem expressions_coded {es : Expressions} {v : Json} (coded : ExpressionsCode es v) :
    expressions v = .ok es := by
  cases coded with
  | none => rfl
  | listed each =>
    have read := readAll_exact (fun _ _ here => expression_coded here) each
    simp [expressions, Json.itemList, Json.items?, read, Except.map]

theorem selector_coded {s : Selector} {fields : Fields} (coded : SelectorCode s fields) :
    ∃ t, selector (.obj fields) = .ok t ∧ t.Alike s := by
  have read := expressions_coded coded.expressions
  rw [part] at read
  refine ⟨⟨part "match_labels" .null fields, s.expressions⟩, ?_, ⟨coded.labels, rfl⟩⟩
  simp [selector, part, read, Except.map]

-- A rule is read with its weight as a plain number, and it is refused as the rule it encodes.
theorem weightRule_coded {r : WeightRule} {fields : Fields} (coded : RuleCode r fields) :
    ∃ s, weightRule (.obj fields) = .ok s ∧ s.Alike r ∧ s.refusal? = r.refusal? := by
  obtain ⟨t, inner, given, stands, code⟩ := coded.selector
  obtain ⟨u, read, alike⟩ := selector_coded code
  obtain ⟨n, number, same⟩ := coded.whole.wholeNumber
  refine ⟨⟨.int n, some u⟩, ?_, ⟨same, u, t, rfl, given, alike⟩, ?_⟩
  · rw [part] at stands
    simp [weightRule, member, coded.weight, bind, Except.bind, pure, Except.pure, number, stands, read]
  · have zero := coded.whole.zero number
    simp [WeightRule.refusal?, given, zero, alike.isEmpty]

theorem readGateway_coded {g : Gateway} {s : String} {fields : Fields}
    (read : Json.read s = .ok (.obj fields)) (coded : GatewayCode g fields) :
    ∃ h, (readGateway (some (.str s))).ending = .accepted h ∧ h.Alike g := by
  obtain ⟨listed, items, stand, each, same⟩ := coded.addresses
  obtain ⟨ls, ks, labelled, kept, order⟩ := coded.labels
  have addresses := readAll_exact (fun _ _ here => address_coded here) each
  refine ⟨⟨g.name, g.space, .obj ls, listed⟩, ?_, ⟨rfl, rfl, ⟨ls, ks, rfl, kept, order⟩, same⟩⟩
  have name := coded.name
  have space := coded.space
  rw [part] at name space labelled stand
  simp [readGateway, document, given, read, gatewayOfFields, labelled, stand, addresses,
    orRefuse, name, space]

theorem findSome_alike {β : Type} {f : α → Option β} {as bs : List α}
    (alike : List.Forall₂ (fun a b => f a = f b) as bs) : as.findSome? f = bs.findSome? f := by
  induction alike with
  | nil => rfl
  | cons first _ ih => rw [List.findSome?_cons, List.findSome?_cons, first, ih]

-- What is accepted is accepted again after it was read.
theorem readPolicy_coded {p : Policy} {s : String} {fields : Fields} (governed : p.refusal? = none)
    (read : Json.read s = .ok (.obj fields)) (coded : PolicyCode p fields) :
    ∃ q, (readPolicy (some (.str s))).ending = .accepted q ∧ q.Alike p := by
  have made : readPolicy (some (.str s)) = policyOfFields fields := by
    simp [readPolicy, document, given, read]
  rw [made]
  cases coded with
  | simple strategy =>
    refine ⟨{ strategy := .str Policy.simpleStrategy }, ?_, ⟨rfl, rfl, rfl, .nil, rfl⟩⟩
    simp [policyOfFields, strategy, build, Draft.build, Draft.set, governed, orRefuse]
  | @balanced geo weight cluster rules items _ strategy clustered located weighed listed each =>
    obtain ⟨others, done, same⟩ := readAll_coded (fun s r => s.Alike r ∧ s.refusal? = r.refusal?)
      (fun _ _ here => weightRule_coded here) each
    have alike : List.Forall₂ WeightRule.Alike others rules := same.imp fun _ _ both => both.1
    have refusals := findSome_alike (same.imp fun _ _ both => both.2)
    have stands : Policy.refusal? ⟨.str Policy.balancedStrategy, geo, weight, others, cluster⟩ = none := by
      rw [← governed]
      simp only [Policy.refusal?, Policy.isSimple, refusals]
    refine ⟨⟨.str Policy.balancedStrategy, geo, weight, others, cluster⟩, ?_, ⟨rfl, rfl, rfl, alike, rfl⟩⟩
    have read : weightRules (.arr items) = .ok others := done
    rw [part] at strategy clustered located weighed listed
    have other : Json.str Policy.balancedStrategy ≠ .str Policy.simpleStrategy := by decide
    simp only [policyOfFields, strategy, other, if_false, if_true, listed, read, orRefuse,
      Reading.bind_accepted_quiet, clustered, located, weighed, Draft.set, build, Draft.build]
    rw [stands]
    rfl

theorem entries_coded {es : Entries} {v : Json} (coded : EntriesCode es v) :
    ∃ fs, Entries.ofJson v = .ok fs ∧ fs.Perm es := by
  cases coded with
  | none => exact ⟨[], rfl, .nil⟩
  | fields same => exact ⟨_, Entries.ofJson_obj _, same⟩

theorem record_coded {r : Record} {fields : Fields} (plain : r.Normal) (coded : RecordCode r fields) :
    ∃ s, Record.ofJson (.obj fields) = .ok s ∧ s.Alike r := by
  obtain ⟨n, number, same⟩ := coded.whole.wholeNumber
  obtain ⟨marks, marked, marksOrder⟩ := entries_coded coded.attributes
  obtain ⟨labels, labelled, labelsOrder⟩ := entries_coded coded.labels
  have identifier := coded.identifier
  have kept : Record.plainIdentifier r.identifier = r.identifier := plain
  rw [part] at identifier marked labelled
  refine ⟨⟨r.name, r.type, r.targets, .int n, r.identifier, marks, labels⟩, ?_,
    ⟨rfl, rfl, rfl, same, rfl, marksOrder, labelsOrder⟩⟩
  simp [Record.ofJson, Record.ofFields, Record.required, coded.name, coded.type, coded.targets, coded.ttl,
    bind, Except.bind, Record.typeOfJson_text, number, Record.make, Json.itemList, Json.items?, marked,
    labelled, identifier, kept]

theorem readCurrent_coded {rs : List Record} {s : String} {items : List Json}
    (made : ∀ r ∈ rs, r.Made) (read : Json.read s = .ok (.arr items))
    (coded : List.Forall₂ (Coded RecordCode) rs items) :
    ∃ ss, (readCurrent (some (.str s))).ending = .accepted ss ∧ List.Forall₂ Record.Alike ss rs := by
  have both : List.Forall₂ (Coded fun r fields => r.Made ∧ RecordCode r fields) rs items := by
    refine ((List.forall₂_and_left rs items).mpr ⟨made, coded⟩).imp ?_
    intro r v here
    obtain ⟨made, fields, rfl, code⟩ := here
    exact ⟨fields, rfl, made, code⟩
  obtain ⟨ss, done, alike⟩ := readAll_coded Record.Alike
    (fun _ _ here => record_coded here.1.normal here.2) both
  refine ⟨ss, ?_, alike⟩
  simp [readCurrent, document, given, read, ofJsonAll_readAll, done, orRefuse]

end Reading

-- Three documents that encode the parts of an input.
structure Encoded (c : Config) (gateway routing current : String) : Prop where
  gateway : ∃ fields, Json.read gateway = .ok (.obj fields) ∧ GatewayCode c.gateway fields
  policy : ∃ fields, Json.read routing = .ok (.obj fields) ∧ PolicyCode c.policy fields
  current : ∃ items, Json.read current = .ok (.arr items) ∧
    List.Forall₂ (Coded RecordCode) c.current items

-- An input that stands is read from any documents that encode it, and nothing is logged.
theorem read_encoded {c : Config} {gateway routing current : String}
    (named : Hostname.refusal? true c.hostname = none) (governed : c.policy.refusal? = none)
    (made : ∀ r ∈ c.current, r.Made) (encoded : Encoded c gateway routing current) :
    ∃ d, read (texts c.hostname gateway routing current) = ⟨.accepted d, []⟩ ∧ d.Alike c := by
  obtain ⟨gf, gatewayRead, gatewayCode⟩ := encoded.gateway
  obtain ⟨pf, policyRead, policyCode⟩ := encoded.policy
  obtain ⟨items, currentRead, currentCode⟩ := encoded.current
  obtain ⟨g, reached, g_alike⟩ := readGateway_coded gatewayRead gatewayCode
  obtain ⟨p, steered, p_alike⟩ := readPolicy_coded governed policyRead policyCode
  obtain ⟨rs, known, rs_alike⟩ := readCurrent_coded made currentRead currentCode
  have hostname := (readHostname_text (f := .wrongKind)).2 c.hostname |>.mpr ⟨named, rfl⟩
  have accepted : (read (texts c.hostname gateway routing current)).ending =
      .accepted ⟨c.hostname, g, p, rs⟩ :=
    read_parts.mpr ⟨hostname, reached, steered, known⟩
  have quiet : (read (texts c.hostname gateway routing current)).log = [] :=
    read_quiet _ (by simp [accepted])
  refine ⟨⟨c.hostname, g, p, rs⟩, ?_, ⟨rfl, g_alike, p_alike, rs_alike⟩⟩
  rw [← accepted, ← quiet]

-- An address is listed twice, an object of pairs is empty, and values, namespace and strategy are missing.
def edge : Address := ⟨.hostname, "lb.x", by decide +kernel⟩

def reordered : Config where
  hostname := "*.app.x"
  gateway := ⟨.str "gw", .str "", .obj [("tier", .str "gold"), ("geo", .str "IE")], [edge]⟩
  policy := ⟨.str "loadbalanced", .str "IE", .int 120, [
    ⟨.int 80, some ⟨.obj [], .listed [.requirement (.str "geo") (.str "Exists") (.arr [])]⟩⟩], .str "c1"⟩
  current := [⟨.str "w.x", ⟨⟨65280, by decide⟩⟩, [.str "edge.x"], .int 60, .str "",
    [(.str "weight", .str "120"), (.str "geo-code", .str "IE")], []⟩]

def reorderedGateway : String :=
  "\x7b\"labels\": \x7b\"geo\": \"IE\", \"tier\": \"gold\"\x7d, \"name\": \"gw\", \"addresses\": [" ++
    "\x7b\"value\": \"lb.x\", \"type\": \"Hostname\"\x7d, " ++
    "\x7b\"type\": \"Hostname\", \"value\": \"lb.x\"\x7d]\x7d"

def reorderedRouting : String :=
  "\x7b\"custom_weights\":[\x7b\"selector\":\x7b\"match_labels\":\x7b\x7d,\"match_expressions\":[" ++
    "\x7b\"operator\":\"Exists\",\"key\":\"geo\"\x7d]\x7d,\"weight\":80\x7d]," ++
    "\"default_weight\":120,\"default_geo\":\"IE\",\"cluster_id\":\"c1\"\x7d"

def reorderedCurrent : String :=
  "[\x7b\"provider_attributes\": \x7b\"geo-code\": \"IE\", \"weight\": \"120\"\x7d, \"ttl\": 60, " ++
    "\"targets\": [\"edge.x\"], \"type\": \"TYPE65280\", \"name\": \"w.x\"\x7d]"

theorem reordered_encoded : Encoded reordered reorderedGateway reorderedRouting reorderedCurrent := by
  have gateway : Json.read reorderedGateway = .ok (.obj [
      ("labels", .obj [("geo", .str "IE"), ("tier", .str "gold")]), ("name", .str "gw"),
      ("addresses", .arr [.obj [("value", .str "lb.x"), ("type", .str "Hostname")],
        .obj [("type", .str "Hostname"), ("value", .str "lb.x")]])]) := by
    decide +kernel
  have routing : Json.read reorderedRouting = .ok (.obj [
      ("custom_weights", .arr [.obj [
        ("selector", .obj [("match_labels", .obj []),
          ("match_expressions", .arr [.obj [("operator", .str "Exists"), ("key", .str "geo")]])]),
        ("weight", .int 80)]]),
      ("default_weight", .int 120), ("default_geo", .str "IE"), ("cluster_id", .str "c1")]) := by
    decide +kernel
  have current : Json.read reorderedCurrent = .ok (.arr [.obj [
      ("provider_attributes", .obj [("geo-code", .str "IE"), ("weight", .str "120")]), ("ttl", .int 60),
      ("targets", .arr [.str "edge.x"]), ("type", .str "TYPE65280"), ("name", .str "w.x")]]) := by
    decide +kernel
  refine ⟨⟨_, gateway, ?_⟩, ⟨_, routing, ?_⟩, ⟨_, current, ?_⟩⟩
  · have address : ∀ fields : Fields, Json.field? "type" fields = some (.str "Hostname") →
        Json.field? "value" fields = some (.str "lb.x") → Coded AddressCode edge (.obj fields) :=
      fun fields kind value => ⟨fields, rfl, ⟨kind, value⟩⟩
    refine ⟨rfl, rfl, ⟨_, _, rfl, rfl, .swap _ _ _⟩, [edge, edge], _, rfl, ?_, by simp [reordered]⟩
    exact .cons (address _ rfl rfl) (.cons (address _ rfl rfl) .nil)
  · refine .balanced rfl rfl rfl rfl rfl (.cons ⟨_, rfl, ?_⟩ .nil)
    refine ⟨rfl, .int 80, _, _, rfl, rfl, .inr ⟨[], [], rfl, rfl, .nil⟩, .listed ?_⟩
    exact .cons ⟨_, rfl, .requirement rfl rfl (.inr ⟨rfl, rfl⟩)⟩ .nil
  · refine .cons ⟨_, rfl, ?_⟩ .nil
    exact ⟨rfl, rfl, rfl, rfl, .int 60, rfl, .fields (.swap _ _ _), .none⟩

theorem reordered_read : ∃ d,
    read (texts reordered.hostname reorderedGateway reorderedRouting reorderedCurrent) =
      ⟨.accepted d, []⟩ ∧
      d.Alike reordered := by
  have named : Hostname.refusal? true reordered.hostname = none := by decide +kernel
  have made : ∀ r ∈ reordered.current, r.Made := by
    intro r listed
    cases List.mem_singleton.mp listed
    have exchanged : Record.ofForm ⟨.str "w.x", "TYPE65280", [.str "edge.x"], .int 60, .str "",
        [(.str "weight", .str "120"), (.str "geo-code", .str "IE")], []⟩ = .ok _ := rfl
    exact .exchanged exchanged
  have governed : reordered.policy.refusal? = none := by decide +kernel
  exact read_encoded named governed made reordered_encoded

end Config
end DnsSteering
