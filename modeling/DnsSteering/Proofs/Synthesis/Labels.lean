import DnsSteering.Proofs.Selector
import DnsSteering.Proofs.Synthesis.Frame

namespace DnsSteering

-- The key of an expression in good form; any other reads nothing.
def Expression.reads : Expression → List LooseText
  | .requirement (.str key) _ _ => [key]
  | _ => []

namespace Selector

def pairReads : Json → List LooseText
  | .obj fields => fields.map (·.1)
  | _ => []

def expressionReads : Expressions → List LooseText
  | .listed items => items.flatMap Expression.reads
  | _ => []

-- Keys under which a selector reads labels.
def reads (s : Selector) : List LooseText := pairReads s.labels ++ expressionReads s.expressions

end Selector

def WeightRule.reads (r : WeightRule) : List LooseText :=
  match r.selector with
  | some s => s.reads
  | none => []

-- Keys under which the labels of a gateway are read for a policy.
def Policy.reads (p : Policy) : List LooseText := Synthesis.geoLabel :: p.rules.flatMap WeightRule.reads

-- Labels with the same value under each of some keys, or with none in either.
def AgreeOn (keys : List LooseText) (one two : List (LooseText × Json)) : Prop :=
  ∀ key ∈ keys, Json.field? key one = Json.field? key two

section Agreement

variable {one two : List (LooseText × Json)}

theorem Requirement.test_agree {r : Requirement} (same : Json.field? r.key one = Json.field? r.key two) :
    r.test (.obj one) = r.test (.obj two) := by
  simp only [test, holds, isListed, valueAt, same]

theorem Requirement.testAll_agree {rs : List Requirement} (same : AgreeOn (rs.map (·.key)) one two) :
    testAll rs (.obj one) = testAll rs (.obj two) := by
  induction rs with
  | nil => rfl
  | cons r rs ih =>
    have first : Json.field? r.key one = Json.field? r.key two := same r.key (List.mem_cons_self ..)
    have rest := ih fun key listed => same key (List.mem_cons_of_mem _ listed)
    simp only [testAll, test_agree first, rest]

theorem Expression.reads_compiled {e : Expression} {r : Requirement}
    (done : Requirement.ofExpression e = .ok r) : e.reads = [r.key] := by
  cases e with
  | requirement key operator values =>
    obtain ⟨keyed, _⟩ := Requirement.compile_parts done
    rw [keyed]
    rfl
  | other v => cases done

theorem Requirement.compileAll_source {α : Type} {f : α → Except SelectorFault Requirement} {xs : List α}
    {rs : List Requirement} (done : compileAll f xs = .ok rs) {r : Requirement} (member : r ∈ rs) :
    ∃ x ∈ xs, f x = .ok r := by
  have each := compileAll_ok done
  clear done
  induction each with
  | nil => cases member
  | cons here _ ih =>
    rcases List.mem_cons.mp member with rfl | later
    · exact ⟨_, List.mem_cons_self .., here⟩
    · obtain ⟨x, inside, made⟩ := ih later
      exact ⟨x, List.mem_cons_of_mem _ inside, made⟩

-- What a selector is compiled to reads nothing that the selector does not name.
theorem Selector.compile_reads {s : Selector} {rs : List Requirement} (done : s.compile = .ok rs) :
    ∀ r ∈ rs, r.key ∈ s.reads := by
  obtain ⟨fields, items, fromPairs, fromExpressions, paired, listed, first, second, rfl⟩ :=
    compile_parts done
  intro r member
  rcases List.mem_append.mp member with here | here
  · obtain ⟨pair, inside, made⟩ := Requirement.compileAll_source first here
    rw [Requirement.ofPair_expression] at made
    have key : [pair.1] = [r.key] := Expression.reads_compiled made
    have given : s.labels = .obj fields := (pairs_ok paired).resolve_left fun none => by
      rw [none.2] at inside
      cases inside
    rw [← List.cons.inj key |>.1, reads, given]
    exact List.mem_append_left _ (List.mem_map_of_mem inside)
  · obtain ⟨e, inside, made⟩ := Requirement.compileAll_source second here
    have given : s.expressions = .listed items := (expressionList_ok listed).resolve_left fun none => by
      rw [none.2] at inside
      cases inside
    rw [reads, given]
    refine List.mem_append_right _ (List.mem_flatMap.mpr ⟨e, inside, ?_⟩)
    rw [Expression.reads_compiled made]
    exact List.mem_singleton_self _

theorem Selector.matchLabels_agree {s : Selector} (same : AgreeOn s.reads one two) :
    s.matchLabels (.obj one) = s.matchLabels (.obj two) := by
  unfold matchLabels
  cases compiled : s.compile with
  | error f => rfl
  | ok rs =>
    apply Requirement.testAll_agree
    intro key listed
    obtain ⟨r, member, rfl⟩ := List.mem_map.mp listed
    exact same r.key (compile_reads compiled r member)

theorem WeightRule.test_agree {r : WeightRule} (same : AgreeOn r.reads one two) :
    r.test (.obj one) = r.test (.obj two) := by
  unfold WeightRule.test
  cases given : r.selector with
  | none => rfl
  | some s =>
    rw [WeightRule.reads, given] at same
    exact Selector.matchLabels_agree same

namespace Weight

-- Beside the answers of the selectors, labels are used for the log only.
theorem settle_relabelled (fallback labels labels' : Json)
    (answers : List (WeightRule × Except Fault Bool)) :
    (settle fallback labels answers).1 = (settle fallback labels' answers).1 := by
  induction answers with
  | nil => rfl
  | cons a answers ih =>
    obtain ⟨r, f | b⟩ := a
    · cases value : f.isValue <;> simp [settle, value]
    · cases b with
      | true => rfl
      | false => simpa [settle] using ih

theorem resolve_agree {p : Policy} (same : AgreeOn p.reads one two) :
    (resolve p (.obj one)).1 = (resolve p (.obj two)).1 := by
  have answers : (p.rules.map fun r => (r, r.test (.obj one))) =
      p.rules.map fun r => (r, r.test (.obj two)) := by
    apply List.map_congr_left
    intro r listed
    have inside : ∀ key ∈ r.reads, key ∈ p.reads := fun key asked =>
      List.mem_cons_of_mem _ (List.mem_flatMap.mpr ⟨r, listed, asked⟩)
    rw [WeightRule.test_agree fun key asked => same key (inside key asked)]
  unfold resolve
  rw [answers]
  exact settle_relabelled ..

end Weight

namespace Plan

-- Plans that differ in what they log only.
structure Alike (plan plan' : Plan) : Prop where
  emitted : emissions plan.acts = emissions plan'.acts
  fault : plan.fault = plan'.fault

-- A run without its log, from the emissions alone.
def emitAll (l : Ledger) : List Emission → Ledger × Option Fault
  | [] => (l, none)
  | e :: es =>
    match l.put e.request with
    | (after, .error f) => (after, some f)
    | (after, .ok id) =>
      match after.setAttributes id e.marks with
      | (marked, some f) => (marked, some f)
      | (marked, none) => emitAll marked es

theorem runActs_emitAll (l : Ledger) (acts : List Act) :
    ∃ log, runActs l acts = ((emitAll l (emissions acts)).1, (emitAll l (emissions acts)).2, log) := by
  induction acts generalizing l with
  | nil => exact ⟨[], rfl⟩
  | cons act acts ih =>
    cases act with
    | note line =>
      obtain ⟨log, ran⟩ := ih l
      exact ⟨line :: log, by simp [runActs, ran]⟩
    | emit q marks =>
      simp only [runActs, emissions_emit, emitAll]
      rcases l.put q with ⟨after, f | id⟩
      · exact ⟨[], rfl⟩
      · dsimp only
        rcases after.setAttributes id marks with ⟨marked, _ | f⟩
        · obtain ⟨log, ran⟩ := ih marked
          exact ⟨l.noteOf after id ++ log, by simp [ran]⟩
        · exact ⟨l.noteOf after id, rfl⟩

theorem Alike.run {plan plan' : Plan} (alike : plan.Alike plan') (l : Ledger) :
    ∃ log, plan'.run l = ((plan.run l).1, (plan.run l).2.1, log) := by
  obtain ⟨log, ran⟩ := runActs_emitAll l plan.acts
  obtain ⟨log', ran'⟩ := runActs_emitAll l plan'.acts
  rw [← alike.emitted] at ran'
  unfold Plan.run
  rw [ran, ran', ← alike.fault]
  rcases emitAll l (emissions plan.acts) with ⟨after, _ | f⟩
  · exact ⟨log', rfl⟩
  · exact ⟨log', rfl⟩

end Plan

namespace Synthesis

theorem carryOut_alike {plan plan' : Plan} (alike : plan.Alike plan') (l : Ledger) (hostname : Json)
    (p : Policy) :
    (carryOut l plan' hostname p).published = (carryOut l plan hostname p).published ∧
      (carryOut l plan' hostname p).records = (carryOut l plan hostname p).records := by
  obtain ⟨log, ran⟩ := alike.run l
  unfold carryOut
  rw [ran]
  rcases plan.run l with ⟨after, _ | f, _⟩
  · exact ⟨rfl, rfl⟩
  · exact ⟨rfl, rfl⟩

section Gateways

variable {p : Policy} {g : Gateway} (same : AgreeOn p.reads one two)

include same

theorem treeActs_alike (hostname : Json) (balancer : String) (geo : Json) (targets : List String) :
    (treeActs p { g with labels := .obj one } hostname balancer geo targets).Alike
      (treeActs p { g with labels := .obj two } hostname balancer geo targets) := by
  unfold treeActs
  dsimp only
  rw [Weight.resolve_agree same]
  cases (Weight.resolve p (.obj two)).1 with
  | error f => exact ⟨by simp, rfl⟩
  | ok weight => exact ⟨by simp, rfl⟩

theorem balancedPlan_alike (hostname : Json) (base : String) :
    (balancedPlan p { g with labels := .obj one } hostname base).Alike
      (balancedPlan p { g with labels := .obj two } hostname base) := by
  have geography : geoCode (.obj one) = geoCode (.obj two) := by
    simp only [geoCode, same geoLabel (List.mem_cons_self ..)]
  have cluster : clusterActs p { g with labels := .obj one } (balancerName base) =
      clusterActs p { g with labels := .obj two } (balancerName base) := rfl
  unfold balancedPlan
  dsimp only
  rw [geography, cluster]
  cases geoCode (.obj two) with
  | error f => exact ⟨rfl, rfl⟩
  | ok geo =>
    rcases clusterActs p { g with labels := .obj two } (balancerName base) with f | ⟨own, acts⟩
    · exact ⟨rfl, rfl⟩
    · change Plan.Alike (if (g.hostnames ++ own).isEmpty then _ else _)
        (if (g.hostnames ++ own).isEmpty then _ else _)
      have tree := treeActs_alike (g := g) same hostname (balancerName base) geo (g.hostnames ++ own)
      split
      · exact ⟨rfl, rfl⟩
      · refine ⟨?_, tree.fault⟩
        rw [Plan.emissions_append]
        exact (congrArg _ tree.emitted).trans (Plan.emissions_append ..).symm

theorem plan_alike (hostname : Json) (base : String) :
    (plan p { g with labels := .obj one } hostname base).Alike
      (plan p { g with labels := .obj two } hostname base) := by
  unfold plan
  split
  · exact ⟨rfl, rfl⟩
  · split
    · exact balancedPlan_alike same hostname base
    · exact ⟨rfl, rfl⟩

end Gateways

-- Whatever else their labels say, the same is published for both gateways or the same fault is reported,
-- and all records end up the same.
theorem publish_agrees {g : Gateway} {p : Policy} (given : g.labels = .obj one)
    (same : AgreeOn p.reads one two) (hostname : Json) (records : List Record)
    (current : Option (List Nat)) :
    (publish { g with labels := .obj two } hostname p records current).published =
        (publish g hostname p records current).published ∧
      (publish { g with labels := .obj two } hostname p records current).records =
        (publish g hostname p records current).records := by
  have whole : g = { g with labels := .obj one } := by rw [← given]
  rw [whole]
  unfold publish
  cases listenerBase hostname with
  | error f => exact ⟨rfl, rfl⟩
  | ok base =>
    cases current with
    | none => exact ⟨rfl, rfl⟩
    | some current =>
      cases p.refusal? with
      | some f => exact ⟨rfl, rfl⟩
      | none =>
        dsimp only
        cases Ledger.opening records current with
        | error f => exact ⟨rfl, rfl⟩
        | ok l => exact carryOut_alike (plan_alike same hostname base) l hostname p

end Synthesis
end Agreement

namespace Synthesis

-- A rule for gold gateways, and one that is malformed for whoever it is asked.
def tiered : Policy :=
  { spread with rules := [⟨.int 80, some Selector.golden⟩, ⟨.int 5, some Selector.overfull⟩] }

def tierLabels (more : List (LooseText × Json)) : List (LooseText × Json) :=
  (.plain geoLabel, .str "IE") :: Selector.goldLabels ++ more

def webGateway (labels : List (LooseText × Json)) : Gateway :=
  { ireland with labels := .obj labels, addresses := [edge] }

-- What is published for it is weighed as gold, whoever owns it.
def webRecords : List Record := [
  ⟨.str "*.x", .cname, [.str "klb.x"], .int 300, .str "", [(.str "note", .str "n")],
    [(.str "id", .str "two")]⟩,
  ⟨.str "ie.klb.x", .cname, [.str "edge.x"], .int 60, .str "edge.x", [(.str "weight", .str "80")], []⟩,
  ⟨.str "klb.x", .cname, [.str "ie.klb.x"], .int 300, .str "IE",
    [(.str "id", .str "hc"), (.str "geo-code", .str "IE")], []⟩,
  ⟨.str "klb.x", .cname, [.str "ie.klb.x"], .int 300, .str "default", [(.str "geo-code", .str "*")], []⟩]

theorem tiered_agrees :
    let one := tierLabels [("owner", .str "ops")]
    let two := tierLabels [("team", .str "web"), ("note", .str "")]
    let owned := publish (webGateway one) (.str "*.x") tiered crowded (some [0, 2])
    let noted := publish (webGateway two) (.str "*.x") tiered crowded (some [0, 2])
    AgreeOn tiered.reads one two ∧ noted.published = owned.published ∧ noted.records = owned.records ∧
      owned.published = .ok [2, 3, 0, 4] ∧ Shows owned.records [2, 3, 0, 4] webRecords := by
  intro one two owned noted
  have same : AgreeOn tiered.reads one two := by
    unfold AgreeOn
    decide
  have published : owned.published = .ok [2, 3, 0, 4] := by decide +kernel
  have shows : Shows owned.records [2, 3, 0, 4] webRecords := by
    unfold Shows
    decide +kernel
  obtain ⟨agree, stores⟩ := publish_agrees (g := webGateway one) rfl same (.str "*.x") crowded (some [0, 2])
  exact ⟨same, agree, stores, published, shows⟩

end Synthesis
end DnsSteering
