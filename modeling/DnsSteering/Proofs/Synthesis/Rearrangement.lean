import DnsSteering.Proofs.Ledger.Rearrangement
import DnsSteering.Proofs.Synthesis.Bystanders
import DnsSteering.Proofs.Synthesis.Frame
import Mathlib.Data.List.Sort

namespace DnsSteering

open Holdings (Reordered)

-- Ascending texts are told apart by what is among them.
theorem Order.ascending_same {xs ys : List String} (same : ∀ x, x ∈ xs ↔ x ∈ ys) :
    Order.ascending xs = Order.ascending ys := by
  apply (Order.pairwise_ascending xs).eq_of_mem_iff (Order.pairwise_ascending ys)
  intro x
  rw [Order.mem_ascending, Order.mem_ascending]
  exact same x

section Addresses

variable {g : Gateway} {addresses : List Address} (same : ∀ a, a ∈ addresses ↔ a ∈ g.addresses)

include same

theorem Gateway.ips_rearranged : ({ g with addresses := addresses } : Gateway).ips = g.ips := by
  apply Order.ascending_same
  simp [same]

theorem Gateway.hostnames_rearranged :
    ({ g with addresses := addresses } : Gateway).hostnames = g.hostnames := by
  apply Order.ascending_same
  simp [same]

-- A plan asks for the addresses of each kind in order, and for nothing else about them.
theorem Synthesis.plan_rearranged (p : Policy) (hostname : Json) (base : String) :
    plan p { g with addresses := addresses } hostname base = plan p g hostname base := by
  have ips := Gateway.ips_rearranged same
  have hostnames := Gateway.hostnames_rearranged same
  simp only [plan, simplePlan, balancedPlan, clusterActs, clusterName, treeActs, gatewayText,
    unreachedLine, ips, hostnames]

end Addresses

namespace Plan

theorem runActs_reordered {acts : List Act} (plain : ∀ e ∈ emissions acts, Plain e) :
    Ledger.Keeps fun l => runActs l acts := by
  induction acts with
  | nil => exact fun l ks reordered => ⟨ks, rfl, reordered⟩
  | cons act acts ih =>
    intro l ks reordered
    cases act with
    | note line =>
      obtain ⟨ks', ran, left⟩ := ih plain l ks reordered
      refine ⟨ks', ?_, left⟩
      simp only [runActs] at ran ⊢
      rw [ran]
    | emit q marks =>
      have first : Plain ⟨q, marks⟩ := plain _ (List.mem_cons_self ..)
      have rest := ih fun e member => plain e (List.mem_cons_of_mem _ member)
      have answer : ∃ next, (l.awaiting ks).put q = ((l.put q).1.awaiting next, (l.put q).2) ∧
          Reordered (l.put q).1.pending next := Ledger.put_keeps first l ks reordered
      obtain ⟨next, answered, waiting⟩ := answer
      simp only [runActs, answered]
      generalize l.put q = result at waiting ⊢
      obtain ⟨after, f | id⟩ := result
      · exact ⟨next, rfl, waiting⟩
      · have marking : ∃ last, (after.awaiting next).setAttributes id marks =
            ((after.setAttributes id marks).1.awaiting last, (after.setAttributes id marks).2) ∧
            Reordered (after.setAttributes id marks).1.pending last :=
          Ledger.setAttributes_keeps id marks after next waiting
        obtain ⟨last, marked, left⟩ := marking
        simp only [marked]
        generalize after.setAttributes id marks = result at left ⊢
        obtain ⟨done, _ | f⟩ := result
        · obtain ⟨final, ran, kept⟩ := rest done last left
          simp only at ran
          simp only [ran]
          exact ⟨final, rfl, kept⟩
        · exact ⟨last, rfl, left⟩

end Plan

namespace Synthesis

theorem carryOut_reordered {plan : Plan} (plain : ∀ e ∈ Plan.emissions plan.acts, Plan.Plain e)
    {l : Ledger} {ks : Holdings} (reordered : Reordered l.pending ks) (hostname : Json) (p : Policy) :
    carryOut (l.awaiting ks) plan hostname p = carryOut l plan hostname p := by
  obtain ⟨ks', ran, _⟩ := Plan.runActs_reordered plain l ks reordered
  simp only [carryOut, Plan.run, ran]
  rcases Plan.runActs l plan.acts with ⟨after, _ | f, log⟩
  · cases plan.fault <;> rfl
  · rfl

-- With the current records in another order, what is pending is the same in another order.
theorem carryOut_rearranged {plan : Plan} (plain : ∀ e ∈ Plan.emissions plan.acts, Plan.Plain e)
    {records : List Record} {current current' : List Nat} {start start' : Ledger}
    (opened : Ledger.opening records current = .ok start)
    (opened' : Ledger.opening records current' = .ok start')
    (apart : Ledger.Apart records current) (perm : current.Perm current') (hostname : Json) (p : Policy) :
    carryOut start' plan hostname p = carryOut start plan hostname p := by
  have textual := Ledger.opening_textual opened
  have textual' := Ledger.opening_textual opened'
  obtain ⟨first, ks, one, two, reordered⟩ := Ledger.opening_reordered
    (filter_allText records current) (apart.filter _) (perm.filter (Ledger.standsText records))
  cases Except.ok.inj (one.symm.trans textual)
  have awaiting : start.textual.awaiting ks = start'.textual :=
    Except.ok.inj (two.symm.trans textual')
  rw [← carryOut_textual plain start', ← carryOut_textual plain start, ← awaiting]
  exact carryOut_reordered plain reordered hostname p

-- Addresses in any order and however often each is listed, and current records in any order, as long
-- as no two have one name and identifier: the same records are published in the same order, or the
-- same fault is reported, and all records end up the same.
theorem publish_rearranged {g : Gateway} {addresses : List Address} {hostname : Json} {p : Policy}
    {records : List Record} {current current' : List Nat} (labels : TextLabels g.labels)
    (same : ∀ a, a ∈ addresses ↔ a ∈ g.addresses) (perm : current.Perm current')
    (apart : Ledger.Apart records current) :
    publish { g with addresses := addresses } hostname p records (some current') =
      publish g hostname p records (some current) := by
  unfold publish
  cases left : listenerBase hostname with
  | error f => rfl
  | ok base =>
    cases p.refusal? with
    | some f => rfl
    | none =>
      simp only [plan_rearranged same]
      have plain : ∀ e ∈ Plan.emissions (plan p g hostname base).acts, Plan.Plain e :=
        plan_plain labels (listenerBase_kind left)
      by_cases identified : ∀ id ∈ current, ∀ r, records[id]? = some r → r.canIdentify = true
      · have identified' : ∀ id ∈ current', ∀ r, records[id]? = some r → r.canIdentify = true :=
          fun id listed => identified id (perm.mem_iff.mpr listed)
        obtain ⟨start, opened⟩ := Ledger.opening_identified identified
        obtain ⟨start', opened'⟩ := Ledger.opening_identified identified'
        simp only [opened, opened']
        exact carryOut_rearranged plain opened opened' apart perm hostname p
      · have unidentified' : ¬ ∀ id ∈ current', ∀ r, records[id]? = some r → r.canIdentify = true :=
          fun identified' => identified fun id listed => identified' id (perm.mem_iff.mp listed)
        simp only [Ledger.opening_refused identified, Ledger.opening_refused unidentified']

-- What is published for it, in either arrangement.
def irelandRecords : List Record := [
  ⟨.str "*.x", .cname, [.str "klb.x"], .int 300, .str "", [(.str "note", .str "n")],
    [(.str "id", .str "two")]⟩,
  ⟨.str "2piivc-289boo.klb.x", .a, [.str "192.0.2.1"], .int 60, .str "", [], []⟩,
  ⟨.str "ie.klb.x", .cname, [.str "2piivc-289boo.klb.x"], .int 60, .str "2piivc-289boo.klb.x",
    [(.str "weight", .str "120")], []⟩,
  ⟨.str "ie.klb.x", .cname, [.str "edge.x"], .int 60, .str "edge.x", [(.str "weight", .str "120")], []⟩,
  ⟨.str "klb.x", .cname, [.str "ie.klb.x"], .int 300, .str "IE",
    [(.str "id", .str "hc"), (.str "geo-code", .str "IE")], []⟩,
  ⟨.str "klb.x", .cname, [.str "ie.klb.x"], .int 300, .str "default", [(.str "geo-code", .str "*")], []⟩]

theorem ireland_rearranged :
    let arranged := publish ireland (.str "*.x") spread crowded (some [0, 2])
    let rearranged :=
      publish { ireland with addresses := [first, edge, first] } (.str "*.x") spread crowded (some [2, 0])
    TextLabels ireland.labels ∧ (∀ a, a ∈ [first, edge, first] ↔ a ∈ ireland.addresses) ∧
      [0, 2].Perm [2, 0] ∧ Ledger.Apart crowded [0, 2] ∧ rearranged = arranged ∧
      arranged.published = .ok [2, 3, 5, 4, 0, 6] ∧
      Shows arranged.records [2, 3, 5, 4, 0, 6] irelandRecords := by
  intro arranged rearranged
  have same : ∀ a, a ∈ [first, edge, first] ↔ a ∈ ireland.addresses := by
    intro a
    simp only [ireland, List.mem_cons, List.not_mem_nil, or_false]
    tauto
  have perm : [0, 2].Perm [2, 0] := by decide
  have apart : Ledger.Apart crowded [0, 2] := by
    simp [Ledger.Apart, crowded, misplaced, Record.sameKey, Json.same]
  have published : arranged.published = .ok [2, 3, 5, 4, 0, 6] := by decide +kernel
  have shows : Shows arranged.records [2, 3, 5, 4, 0, 6] irelandRecords := by
    unfold Shows
    decide +kernel
  exact ⟨ireland_labels, same, perm, apart, publish_rearranged ireland_labels same perm apart,
    published, shows⟩

end Synthesis
end DnsSteering
