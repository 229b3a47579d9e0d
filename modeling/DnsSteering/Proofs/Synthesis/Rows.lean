import DnsSteering.Proofs.Order
import DnsSteering.Proofs.Synthesis.Emission
import DnsSteering.Proofs.Synthesis.Names

namespace DnsSteering

structure Row where
  slot : Slot
  targets : List Json
  ttl : Json

def Record.row (r : Record) : Row := ⟨r.slot, r.targets, r.ttl⟩

def Row.emission (row : Row) (marks : List (Json × Json)) : Emission :=
  ⟨⟨row.slot.name, .arr row.targets, row.slot.type, row.slot.identifier, row.ttl⟩, marks⟩

namespace Gateway

theorem ips_ascending (g : Gateway) : g.ips.Pairwise (· < ·) := Order.pairwise_ascending _

theorem hostnames_ascending (g : Gateway) : g.hostnames.Pairwise (· < ·) :=
  Order.pairwise_ascending _

theorem mem_ips {g : Gateway} {s : String} :
    s ∈ g.ips ↔ ∃ a ∈ g.addresses, a.isIp = true ∧ a.value = s := by
  simp [ips, Order.mem_ascending, and_assoc]

theorem mem_hostnames {g : Gateway} {s : String} :
    s ∈ g.hostnames ↔ ∃ a ∈ g.addresses, a.isIp = false ∧ a.value = s := by
  simp [hostnames, Order.mem_ascending, and_assoc]

theorem addresses_none {g : Gateway} : g.addresses = [] ↔ g.ips = [] ∧ g.hostnames = [] := by
  constructor
  · intro none
    simp [ips, hostnames, none, Order.ascending]
  · intro neither
    obtain ⟨noIps, noHostnames⟩ := neither
    apply List.eq_nil_iff_forall_not_mem.mpr
    intro a member
    by_cases ip : a.isIp = true
    · have listed : a.value ∈ g.ips := mem_ips.mpr ⟨a, member, ip, rfl⟩
      rw [noIps] at listed
      cases listed
    · have listed : a.value ∈ g.hostnames := mem_hostnames.mpr ⟨a, member, by simpa using ip, rfl⟩
      rw [noHostnames] at listed
      cases listed

-- An accepted address is never the empty text.
theorem value_ne_empty (a : Address) : a.value ≠ "" := by
  obtain ⟨kind, value, accepted⟩ := a
  rintro (rfl : value = "")
  cases kind with
  | ip => simp [AddressKind.refusal?, Ip.refusal?] at accepted
  | hostname => simp [AddressKind.refusal?, Hostname.refusal?] at accepted

end Gateway

namespace Synthesis

-- What the weighted aliases lead to: the gateway's hostnames and the name of its own.
inductive Leaf (p : Policy) (g : Gateway) (balancer : String) : String → Prop where
  | hostname {t : String} (member : t ∈ g.hostnames) : Leaf p g balancer t
  | cluster {t : String} (some : g.ips ≠ []) (named : clusterName p g balancer = .ok t) :
      Leaf p g balancer t

-- A row that is due, said without a plan and without a ledger.
inductive Due (p : Policy) (g : Gateway) (hostname : LooseText) (base : String) :
    Row → List (Json × Json) → Prop where
  | addresses (simple : p.isSimple = true) (some : g.ips ≠ []) :
      Due p g hostname base ⟨⟨.str hostname, .str "", .a⟩, g.ips.map fun (s : String) => .str s, .int 60⟩ []
  | aliases (simple : p.isSimple = true) (some : g.hostnames ≠ []) :
      Due p g hostname base
        ⟨⟨.str hostname, .str "", .cname⟩, g.hostnames.map fun (s : String) => .str s, .int 60⟩ []
  | cluster {t : String} (balanced : p.isBalanced = true) (some : g.ips ≠ [])
      (named : clusterName p g (balancerName base) = .ok t) :
      Due p g hostname base ⟨⟨.str t, .str "", .a⟩, g.ips.map fun (s : String) => .str s, .int 60⟩ []
  | leaf {geo weight : Json} {t : String} (balanced : p.isBalanced = true)
      (located : geoCode g.labels = .ok geo) (weighed : (Weight.resolve p g.labels).1 = .ok weight)
      (leaf : Leaf p g (balancerName base) t) :
      Due p g hostname base
        ⟨⟨.str (geoName geo (balancerName base)), .str t, .cname⟩, [.str t], .int 60⟩
        [(.str "weight", .str weight.display)]
  | region {geo : Json} (balanced : p.isBalanced = true) (addressed : g.addresses ≠ [])
      (located : geoCode g.labels = .ok geo) :
      Due p g hostname base
        ⟨⟨.str (balancerName base), geo, .cname⟩, [.str (geoName geo (balancerName base))], .int 300⟩
        (if geo = .str "default" then [] else [(.str "geo-code", geo)])
  | fallback {geo : Json} (balanced : p.isBalanced = true) (addressed : g.addresses ≠ [])
      (located : geoCode g.labels = .ok geo) (default : geo = p.defaultGeo) :
      Due p g hostname base
        ⟨⟨.str (balancerName base), .str "default", .cname⟩,
          [.str (geoName geo (balancerName base))], .int 300⟩
        [(.str "geo-code", .str "*")]
  | entry (balanced : p.isBalanced = true) (addressed : g.addresses ≠ []) :
      Due p g hostname base
        ⟨⟨.str hostname, .str "", .cname⟩, [.str (balancerName base)], .int 300⟩ []

-- Emissions of what is due, all of it and nothing else.
def EmitsDue (p : Policy) (g : Gateway) (hostname : LooseText) (base : String) (es : List Emission) :
    Prop :=
  ∀ e, e ∈ es ↔ ∃ row marks, Due p g hostname base row marks ∧ e = row.emission marks

theorem not_balanced {p : Policy} (simple : p.isSimple = true) : p.isBalanced = false := by
  have strategy : p.strategy = .str Policy.simpleStrategy := by simpa [Policy.isSimple] using simple
  simp [Policy.isBalanced, strategy, Policy.balancedStrategy, Policy.simpleStrategy]

theorem not_simple {p : Policy} (balanced : p.isBalanced = true) : ¬ p.isSimple = true := by
  intro simple
  rw [not_balanced simple] at balanced
  cases balanced

section Labels

variable {labels geo : Json} (text : TextLabels labels)

include text

theorem geoCode_some : ∃ geo, geoCode labels = .ok geo := by
  obtain ⟨fields, rfl, _⟩ := text
  exact ⟨_, rfl⟩

theorem geoCode_text (located : geoCode labels = .ok geo) : geo.IsText := by
  obtain ⟨fields, rfl, textual⟩ := text
  simp only [geoCode, Except.ok.injEq] at located
  cases found : Json.field? geoLabel fields with
  | none =>
    rw [found] at located
    exact ⟨"default", located.symm⟩
  | some v =>
    rw [found] at located
    rw [← located]
    exact field?_text textual found

end Labels

section Due

variable {p : Policy} {g : Gateway} {hostname : LooseText} {base : String} {row : Row}
  {marks : List (Json × Json)}

theorem Leaf.ne_empty {balancer t : String} (leaf : Leaf p g balancer t) : t ≠ "" := by
  cases leaf with
  | hostname member =>
    obtain ⟨a, _, _, rfl⟩ := Gateway.mem_hostnames.mp member
    exact Gateway.value_ne_empty a
  | cluster some named =>
    obtain ⟨_, code, own, _, _, _, rfl⟩ := clusterName_ok named
    intro none
    have longer := Text.length_lower (code ++ "-" ++ own ++ "." ++ balancer)
    rw [none] at longer
    simp at longer

-- Without an address nothing is due.
theorem Due.addressed (due : Due p g hostname base row marks) : g.addresses ≠ [] := by
  intro none
  obtain ⟨noIps, noHostnames⟩ := Gateway.addresses_none.mp none
  cases due with
  | addresses _ some | cluster _ some => exact some noIps
  | aliases _ some => exact some noHostnames
  | leaf _ _ _ leaf =>
    cases leaf with
    | hostname member =>
      rw [noHostnames] at member
      cases member
    | cluster some => exact some noIps
  | region _ addressed | fallback _ addressed | entry _ addressed => exact addressed none

theorem Due.slot_text (labels : TextLabels g.labels) (due : Due p g hostname base row marks) :
    row.slot.IsText := by
  cases due with
  | region _ _ located => exact ⟨⟨_, rfl⟩, geoCode_text labels located⟩
  | addresses | aliases | cluster | leaf | fallback | entry => exact ⟨⟨_, rfl⟩, ⟨_, rfl⟩⟩

theorem Due.targets_text (due : Due p g hostname base row marks) : ∀ t ∈ row.targets, t.IsText := by
  have listed : ∀ ss : List String, ∀ t ∈ ss.map fun (s : String) => Json.str s, t.IsText := by
    intro ss t member
    obtain ⟨s, _, rfl⟩ := List.mem_map.mp member
    exact ⟨s, rfl⟩
  have one : ∀ s : LooseText, ∀ t ∈ [Json.str s], t.IsText := by
    intro s t member
    rw [List.mem_singleton.mp member]
    exact ⟨s, rfl⟩
  cases due with
  | addresses | aliases | cluster => exact listed _
  | leaf | region | fallback | entry => exact one _

theorem Due.ttl_whole (due : Due p g hostname base row marks) : ∃ n, row.ttl = .int n := by
  cases due with
  | addresses | aliases | cluster | leaf | region | fallback | entry => exact ⟨_, rfl⟩

theorem Due.type (due : Due p g hostname base row marks) :
    row.slot.type = .a ∨ row.slot.type = .cname := by
  cases due with
  | addresses | cluster => exact .inl rfl
  | aliases | leaf | region | fallback | entry => exact .inr rfl

-- What a slot is due with, found from the slot alone.
def content (p : Policy) (g : Gateway) (hostname : LooseText) (balancer : String) (name : LooseText)
    (s : Slot) : List Json × Json :=
  if s.type = .a then (g.ips.map fun (s : String) => .str s, .int 60)
  else if p.isSimple then (g.hostnames.map fun (s : String) => .str s, .int 60)
  else if s.name = .str hostname ∧ s.identifier = .str "" then ([.str balancer], .int 300)
  else if s.name = .str balancer then ([.str name], .int 300)
  else ([s.identifier], .int 60)

theorem Due.content_eq (left : listenerBase (.str hostname) = .ok base) {geo : Json}
    (located : p.isBalanced = true → geoCode g.labels = .ok geo)
    (due : Due p g hostname base row marks) :
    (row.targets, row.ttl) =
      content p g hostname (balancerName base) (geoName geo (balancerName base)) row.slot := by
  have apart : .plain (balancerName base) ≠ hostname := balancerName_ne left
  have retyped : RecordType.cname ≠ RecordType.a := by decide
  have notSimple : p.isBalanced = true → p.isSimple = false := fun balanced =>
    Bool.eq_false_of_not_eq_true (not_simple balanced)
  unfold content
  cases due with
  | addresses | cluster => rw [if_pos rfl]
  | aliases simple some => rw [if_neg retyped, if_pos simple]
  | leaf balanced here weighed leaf =>
    have equal := Except.ok.inj (here.symm.trans (located balanced))
    have below := geoName_ne geo (balancerName base)
    rw [if_neg retyped, if_neg (by simp [notSimple balanced]), if_neg, if_neg]
    · rw [equal]
      simpa using below
    · intro entry
      exact leaf.ne_empty (LooseText.plain.inj (Json.str.inj entry.2))
  | region balanced addressed here =>
    have equal := Except.ok.inj (here.symm.trans (located balanced))
    rw [if_neg retyped, if_neg (by simp [notSimple balanced]), if_neg (by simp [apart]),
      if_pos rfl, equal]
  | fallback balanced addressed here default =>
    have equal := Except.ok.inj (here.symm.trans (located balanced))
    rw [if_neg retyped, if_neg (by simp [notSimple balanced]), if_neg (by simp [apart]),
      if_pos rfl, equal]
  | entry balanced addressed =>
    rw [if_neg retyped, if_neg (by simp [notSimple balanced]), if_pos ⟨rfl, rfl⟩]

-- Neither the order in which rows are emitted nor how often one is makes a difference.
theorem Due.unique (labels : TextLabels g.labels) (left : listenerBase (.str hostname) = .ok base)
    {row' : Row} {marks' : List (Json × Json)} (one : Due p g hostname base row marks)
    (two : Due p g hostname base row' marks') (same : row.slot = row'.slot) : row = row' := by
  obtain ⟨geo, located⟩ := geoCode_some labels
  have first := one.content_eq left fun _ => located
  have second := two.content_eq left fun _ => located
  obtain ⟨slot, targets, ttl⟩ := row
  obtain ⟨slot', targets', ttl'⟩ := row'
  simp only at same first second
  subst same
  rw [← second] at first
  cases first
  rfl

theorem Due.mark_cases (due : Due p g hostname base row marks) {key value : Json}
    (mark : (key, value) ∈ marks) :
    (key = .str "weight" ∧ ∃ weight, (Weight.resolve p g.labels).1 = .ok weight ∧
        value = .str weight.display) ∨
      (key = .str "geo-code" ∧
        value = if row.slot.identifier = .str "default" then .str "*" else row.slot.identifier) := by
  cases due with
  | addresses | aliases | cluster | entry => cases mark
  | leaf balanced located weighed leaf =>
    cases List.mem_singleton.mp mark
    exact .inl ⟨rfl, _, weighed, rfl⟩
  | region balanced addressed located =>
    split at mark
    · cases mark
    · rename_i other
      cases List.mem_singleton.mp mark
      exact .inr ⟨rfl, (if_neg other).symm⟩
  | fallback balanced addressed located default =>
    cases List.mem_singleton.mp mark
    exact .inr ⟨rfl, rfl⟩

theorem Due.mark_text (due : Due p g hostname base row marks) : ∀ m ∈ marks, m.1.IsText := by
  intro m mark
  obtain ⟨key, value⟩ := m
  rcases due.mark_cases mark with ⟨rfl, _⟩ | ⟨rfl, _⟩
  · exact ⟨"weight", rfl⟩
  · exact ⟨"geo-code", rfl⟩

theorem Due.mark_unique {row' : Row} {marks' : List (Json × Json)}
    (one : Due p g hostname base row marks) (two : Due p g hostname base row' marks')
    (same : row.slot = row'.slot) {key value value' : Json} (mark : (key, value) ∈ marks)
    (mark' : (key, value') ∈ marks') : value = value' := by
  rcases one.mark_cases mark with ⟨rfl, weight, weighed, rfl⟩ | ⟨rfl, rfl⟩
  · rcases two.mark_cases mark' with ⟨_, weight', weighed', rfl⟩ | ⟨other, _⟩
    · rw [Except.ok.inj (weighed.symm.trans weighed')]
    · exact absurd other (by decide)
  · rcases two.mark_cases mark' with ⟨other, _⟩ | ⟨_, rfl⟩
    · exact absurd other (by decide)
    · rw [same]

theorem Due.fit (labels : TextLabels g.labels) (due : Due p g hostname base row marks) :
    (row.emission marks).Fit :=
  ⟨⟨due.slot_text labels, rfl⟩, due.mark_text⟩

end Due
end Synthesis
end DnsSteering
