import DnsSteering.Proofs.Synthesis.Publication
import DnsSteering.Proofs.Synthesis.Rows

namespace DnsSteering

namespace Synthesis

section Plans

variable {p : Policy} {g : Gateway} {hostname : LooseText} {base : String}

theorem clusterActs_parts {balancer : String} {own : List String} {acts : List Act}
    (made : clusterActs p g balancer = .ok (own, acts)) :
    (g.ips = [] ∧ own = [] ∧ acts = []) ∨
      (g.ips ≠ [] ∧ ∃ t, clusterName p g balancer = .ok t ∧ own = [t] ∧
        acts = [.emit ⟨.str t, texts g.ips, .a, .str "", addressTtl⟩ []]) := by
  unfold clusterActs at made
  split at made
  · rename_i none
    cases made
    exact .inl ⟨List.isEmpty_iff.mp none, rfl, rfl⟩
  · rename_i some
    cases named : clusterName p g balancer with
    | error f => simp [named] at made
    | ok t =>
      simp only [named, Except.ok.injEq, Prod.mk.injEq] at made
      exact .inr ⟨fun none => some (List.isEmpty_iff.mpr none), t, rfl, made.1.symm, made.2.symm⟩

theorem leaf_iff {balancer : String} {own : List String} {acts : List Act}
    (made : clusterActs p g balancer = .ok (own, acts)) (t : String) :
    t ∈ g.hostnames ∨ t ∈ own ↔ Leaf p g balancer t := by
  rcases clusterActs_parts made with ⟨none, rfl, _⟩ | ⟨some, name, named, rfl, _⟩
  · constructor
    · intro listed
      cases listed with
      | inl member => exact .hostname member
      | inr own => cases own
    · intro leaf
      cases leaf with
      | hostname member => exact .inl member
      | cluster some _ => exact absurd none some
  · constructor
    · intro listed
      cases listed with
      | inl member => exact .hostname member
      | inr own =>
        rw [List.mem_singleton.mp own]
        exact .cluster some named
    · intro leaf
      cases leaf with
      | hostname member => exact .inl member
      | cluster _ named' =>
        rw [named] at named'
        cases named'
        exact .inr (List.mem_singleton.mpr rfl)

theorem leaves_none {balancer : String} {own : List String} {acts : List Act}
    (made : clusterActs p g balancer = .ok (own, acts)) :
    g.hostnames ++ own = [] ↔ g.addresses = [] := by
  rw [List.append_eq_nil_iff, Gateway.addresses_none]
  rcases clusterActs_parts made with ⟨none, rfl, _⟩ | ⟨some, name, _, rfl, _⟩
  · simp [none]
  · simp [some]

theorem weightActs_emissions (name : LooseText) (weight : Json) (targets : List String) :
    Plan.emissions (weightActs name weight targets) = targets.map fun (t : String) =>
      Row.emission ⟨⟨.str name, .str t, .cname⟩, [.str t], .int 60⟩
        [(.str "weight", .str weight.display)] := by
  induction targets with
  | nil => rfl
  | cons t targets ih =>
    rw [List.map_cons, ← ih]
    rfl

theorem geoActs_emissions {geo : Json} (text : geo.IsText) (balancer : String) (name : LooseText) :
    Plan.emissions (geoActs p geo balancer name) =
      Row.emission ⟨⟨.str balancer, geo, .cname⟩, [.str name], .int 300⟩
        (if geo = .str "default" then [] else [(.str "geo-code", geo)]) ::
      (if geo = p.defaultGeo then
        [Row.emission ⟨⟨.str balancer, .str "default", .cname⟩, [.str name], .int 300⟩
          [(.str "geo-code", .str "*")]]
      else []) := by
  obtain ⟨s, rfl⟩ := text
  unfold geoActs
  have own : (Json.str s).equals defaultGeo = decide (Json.str s = .str "default") := by
    rw [Bool.eq_iff_iff, Json.equals_str, decide_eq_true_iff]
    exact eq_comm
  have default : (Json.str s).equals p.defaultGeo = decide (Json.str s = p.defaultGeo) := by
    rw [Bool.eq_iff_iff, Json.equals_str, decide_eq_true_iff]
    exact eq_comm
  rw [own, default]
  by_cases plain : Json.str s = .str "default"
  · rw [decide_eq_true plain, if_pos plain]
    by_cases same : Json.str s = p.defaultGeo
    · rw [decide_eq_true same, if_pos same]
      rfl
    · rw [decide_eq_false same, if_neg same]
      rfl
  · rw [decide_eq_false plain, if_neg plain]
    by_cases same : Json.str s = p.defaultGeo
    · rw [decide_eq_true same, if_pos same]
      rfl
    · rw [decide_eq_false same, if_neg same]
      rfl

theorem balancedPlan_parts {host : Json} (sound : (balancedPlan p g host base).fault = none) :
    ∃ geo own acts, geoCode g.labels = .ok geo ∧
      clusterActs p g (balancerName base) = .ok (own, acts) ∧
      ((g.addresses = [] ∧ Plan.emissions (balancedPlan p g host base).acts = []) ∨
        (g.addresses ≠ [] ∧ ∃ weight, (Weight.resolve p g.labels).1 = .ok weight ∧
          Plan.emissions (balancedPlan p g host base).acts = Plan.emissions acts ++
            Plan.emissions (weightActs (geoName geo (balancerName base)) weight (g.hostnames ++ own)) ++
            Plan.emissions (geoActs p geo (balancerName base) (geoName geo (balancerName base))) ++
            Plan.emissions [entryAct host (balancerName base)])) := by
  unfold balancedPlan at sound ⊢
  cases located : geoCode g.labels with
  | error f => simp [located] at sound
  | ok geo =>
    cases made : clusterActs p g (balancerName base) with
    | error f => simp [located, made] at sound
    | ok result =>
      obtain ⟨own, acts⟩ := result
      refine ⟨geo, own, acts, rfl, rfl, ?_⟩
      have reached := leaves_none made
      simp only [located, made] at sound ⊢
      by_cases none : g.hostnames ++ own = []
      · left
        refine ⟨reached.mp none, ?_⟩
        rw [if_pos (List.isEmpty_iff.mpr none)]
        rfl
      · right
        have some : ¬ (g.hostnames ++ own).isEmpty = true := fun empty =>
          none (List.isEmpty_iff.mp empty)
        refine ⟨fun empty => none (reached.mpr empty), ?_⟩
        rw [if_neg some] at sound ⊢
        unfold treeActs at sound ⊢
        rcases resolved : Weight.resolve p g.labels with ⟨f | weight, log⟩
        · simp [resolved] at sound
        · refine ⟨weight, rfl, ?_⟩
          simp [List.append_assoc]

theorem simplePlan_parts : Plan.emissions (simplePlan g (.str hostname)).acts =
    (if g.ips = [] then []
      else [Row.emission ⟨⟨.str hostname, .str "", .a⟩, g.ips.map fun (s : String) => .str s, .int 60⟩ []]) ++
    (if g.hostnames = [] then []
      else [Row.emission
        ⟨⟨.str hostname, .str "", .cname⟩, g.hostnames.map fun (s : String) => .str s, .int 60⟩ []]) := by
  simp only [simplePlan, Plan.emissions_append]
  congr 1
  · by_cases noIps : g.ips = []
    · simp [noIps]
    · rw [if_neg noIps, if_neg fun empty => noIps (List.isEmpty_iff.mp empty)]
      rfl
  · by_cases noHostnames : g.hostnames = []
    · simp [noHostnames]
    · rw [if_neg noHostnames, if_neg fun empty => noHostnames (List.isEmpty_iff.mp empty)]
      rfl

theorem simplePlan_emissions (simple : p.isSimple = true) :
    EmitsDue p g hostname base (Plan.emissions (simplePlan g (.str hostname)).acts) := by
  intro e
  have balanced : ¬ p.isBalanced = true := by simp [not_balanced simple]
  rw [simplePlan_parts, List.mem_append]
  constructor
  · intro member
    cases member with
    | inl address =>
      split at address
      · cases address
      · rename_i some
        exact ⟨_, _, .addresses simple some, List.mem_singleton.mp address⟩
    | inr other =>
      split at other
      · cases other
      · rename_i some
        exact ⟨_, _, .aliases simple some, List.mem_singleton.mp other⟩
  · intro wanted
    obtain ⟨row, marks, due, rfl⟩ := wanted
    cases due with
    | addresses _ some => exact .inl (by rw [if_neg some]; exact List.mem_singleton.mpr rfl)
    | aliases _ some => exact .inr (by rw [if_neg some]; exact List.mem_singleton.mpr rfl)
    | cluster other | leaf other | region other | fallback other | entry other =>
      exact absurd other balanced

theorem balancedPlan_emissions (balanced : p.isBalanced = true) (labels : TextLabels g.labels)
    (sound : (balancedPlan p g (.str hostname) base).fault = none) :
    EmitsDue p g hostname base (Plan.emissions (balancedPlan p g (.str hostname) base).acts) := by
  intro e
  obtain ⟨geo, own, acts, located, made, ⟨none, empty⟩ | ⟨addressed, weight, weighed, parts⟩⟩ :=
    balancedPlan_parts sound
  · rw [empty]
    constructor
    · intro member
      cases member
    · -- The parts of a plan are found once, so what is due agrees with what was emitted.
      intro wanted
      obtain ⟨row, marks, due, _⟩ := wanted
      exact absurd none due.addressed
  · have text := geoCode_text labels located
    rw [parts, weightActs_emissions, geoActs_emissions text]
    simp only [List.mem_append, List.mem_cons, List.mem_map]
    constructor
    · intro emitted
      rcases emitted with ((cluster | ⟨t, member, rfl⟩) | region | fallback) | entry
      · rcases clusterActs_parts made with ⟨_, _, rfl⟩ | ⟨someIps, t, named, _, rfl⟩
        · cases cluster
        · exact ⟨_, _, .cluster balanced someIps named, List.mem_singleton.mp cluster⟩
      · exact ⟨_, _, .leaf balanced located weighed ((leaf_iff made t).mp member), rfl⟩
      · exact ⟨_, _, .region balanced addressed located, region⟩
      · split at fallback
        · rename_i default
          exact ⟨_, _, .fallback balanced addressed located default, List.mem_singleton.mp fallback⟩
        · cases fallback
      · exact ⟨_, _, .entry balanced addressed, List.mem_singleton.mp entry⟩
    · intro wanted
      obtain ⟨row, marks, due, rfl⟩ := wanted
      cases due with
      | addresses simple | aliases simple => exact absurd simple (not_simple balanced)
      | cluster _ someIps named =>
        rcases clusterActs_parts made with ⟨noIps, _, _⟩ | ⟨_, name, named', _, rfl⟩
        · exact absurd noIps someIps
        · cases Except.ok.inj (named.symm.trans named')
          exact .inl (.inl (.inl (List.mem_singleton.mpr rfl)))
      | @leaf geo' weight' t _ located' weighed' leaf =>
        cases Except.ok.inj (located.symm.trans located')
        cases Except.ok.inj (weighed.symm.trans weighed')
        exact .inl (.inl (.inr ⟨t, (leaf_iff made t).mpr leaf, rfl⟩))
      | region _ _ located' =>
        cases Except.ok.inj (located.symm.trans located')
        exact .inl (.inr (.inl rfl))
      | fallback _ _ located' default =>
        cases Except.ok.inj (located.symm.trans located')
        exact .inl (.inr (.inr (by rw [if_pos default]; exact List.mem_singleton.mpr rfl)))
      | entry => exact .inr (List.mem_singleton.mpr rfl)

-- A plan without a fault emits the rows that are due and no others, each with its marks.
theorem plan_emissions (labels : TextLabels g.labels)
    (sound : (plan p g (.str hostname) base).fault = none) :
    EmitsDue p g hostname base (Plan.emissions (plan p g (.str hostname) base).acts) := by
  unfold plan at sound ⊢
  by_cases simple : p.isSimple = true
  · rw [if_pos simple]
    exact simplePlan_emissions simple
  · rw [if_neg simple] at sound ⊢
    by_cases balanced : p.isBalanced = true
    · rw [if_pos balanced] at sound ⊢
      exact balancedPlan_emissions balanced labels sound
    · rw [if_neg balanced] at sound
      cases sound

theorem plan_strategy {host : Json} (sound : (plan p g host base).fault = none) :
    p.isSimple = true ∨ p.isBalanced = true := by
  by_cases simple : p.isSimple = true
  · exact .inl simple
  · by_cases balanced : p.isBalanced = true
    · exact .inr balanced
    · unfold plan at sound
      rw [if_neg simple, if_neg balanced] at sound
      cases sound

-- What a balanced plan finds out on its way, where there is an address.
structure Surveyed (p : Policy) (g : Gateway) (base : String) (geo weight : Json) : Prop where
  located : geoCode g.labels = .ok geo
  weighed : (Weight.resolve p g.labels).1 = .ok weight
  leaf : ∃ t, Leaf p g (balancerName base) t
  cluster : g.ips ≠ [] → ∃ t, clusterName p g (balancerName base) = .ok t

theorem plan_surveyed {host : Json} (balanced : p.isBalanced = true) (addressed : g.addresses ≠ [])
    (sound : (plan p g host base).fault = none) : ∃ geo weight, Surveyed p g base geo weight := by
  unfold plan at sound
  rw [if_neg (not_simple balanced), if_pos balanced] at sound
  obtain ⟨geo, own, acts, located, made, parts⟩ := balancedPlan_parts sound
  cases parts with
  | inl empty => exact absurd empty.1 addressed
  | inr parts =>
    obtain ⟨_, weight, weighed, _⟩ := parts
    refine ⟨geo, weight, located, weighed, ?_, ?_⟩
    · obtain ⟨t, member⟩ := List.exists_mem_of_ne_nil _ fun none => addressed ((leaves_none made).mp none)
      exact ⟨t, (leaf_iff made t).mp (List.mem_append.mp member)⟩
    · intro someIps
      cases clusterActs_parts made with
      | inl none => exact absurd none.1 someIps
      | inr cluster =>
        obtain ⟨_, t, named, _⟩ := cluster
        exact ⟨t, named⟩

theorem plan_fit (labels : TextLabels g.labels)
    (sound : (plan p g (.str hostname) base).fault = none) : FitPlan p g (.str hostname) base := by
  intro e member
  obtain ⟨row, marks, due, rfl⟩ := (plan_emissions labels sound e).mp member
  exact due.fit labels

end Plans
end Synthesis
end DnsSteering
