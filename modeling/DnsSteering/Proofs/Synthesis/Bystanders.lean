import DnsSteering.Proofs.Ledger.Bystanders
import DnsSteering.Proofs.Synthesis.Plans

namespace DnsSteering

namespace Plan

-- A slot that is a text, or that nothing can be found by.
def Plain (e : Emission) : Prop := e.slot.isText = true ∨ e.slot.canIdentify = false

theorem runActs_textual {acts : List Act} (plain : ∀ e ∈ emissions acts, Plain e) (l : Ledger) :
    runActs l.textual acts = ((runActs l acts).1.textual, (runActs l acts).2) := by
  induction acts generalizing l with
  | nil => rfl
  | cons act acts ih =>
    cases act with
    | note line =>
      have rest := ih plain l
      simp only [runActs, rest]
    | emit q marks =>
      have first : Plain ⟨q, marks⟩ := plain _ (List.mem_cons_self ..)
      have rest := ih fun e member => plain e (List.mem_cons_of_mem _ member)
      simp only [runActs, Ledger.put_textual first]
      rcases l.put q with ⟨after, f | id⟩
      · rfl
      · simp only [Ledger.setAttributes_textual]
        rcases after.setAttributes id marks with ⟨marked, _ | f⟩
        · simp only [rest]
          rfl
        · rfl

theorem runActs_spares {acts : List Act} (plain : ∀ e ∈ emissions acts, Plain e) {l : Ledger}
    {h : Slot × Nat} (waiting : h ∈ l.pending) (other : ¬ h.1.isText = true) :
    h ∈ (runActs l acts).1.pending := by
  induction acts generalizing l with
  | nil => exact waiting
  | cons act acts ih =>
    cases act with
    | note line => exact ih plain waiting
    | emit q marks =>
      have answered : h ∈ (l.put q).1.pending :=
        Ledger.put_spares (plain _ (List.mem_cons_self ..)) l waiting other
      simp only [runActs]
      generalize l.put q = result at answered ⊢
      obtain ⟨after, f | id⟩ := result
      · exact answered
      · have marked := Ledger.setAttributes_pending after id marks
        dsimp only
        generalize after.setAttributes id marks = result at marked ⊢
        obtain ⟨done, _ | f⟩ := result
        · exact ih (fun e member => plain e (List.mem_cons_of_mem _ member)) (marked ▸ answered)
        · exact marked ▸ answered

theorem run_ledger (plan : Plan) (l : Ledger) : (plan.run l).1 = (runActs l plan.acts).1 := by
  unfold run
  rcases runActs l plan.acts with ⟨after, _ | f, log⟩ <;> rfl

theorem run_textual {plan : Plan} (plain : ∀ e ∈ emissions plan.acts, Plain e) (l : Ledger) :
    plan.run l.textual = ((plan.run l).1.textual, (plan.run l).2) := by
  unfold run
  rw [runActs_textual plain]
  rcases runActs l plan.acts with ⟨after, _ | f, log⟩ <;> rfl

end Plan

namespace Synthesis

-- What has something left of it is a text, or can identify nothing.
theorem listenerBase_kind {hostname : Json} {base : String} (left : listenerBase hostname = .ok base) :
    hostname.isText = true ∨ hostname.canIdentify = false := by
  have uncounted : hostname.items? ≠ none := by
    intro none
    unfold listenerBase at left
    split at left
    · cases left
    · rename_i given
      have truthy : hostname.truthy = true := by simpa using given
      have refused : Name.ofJson hostname = .error .wrongKind := by
        unfold Name.ofJson
        split
        · cases none
        · simp [none, truthy]
      simp [Hostname.base, refused] at left
  cases hostname with
  | str s => exact .inl rfl
  | arr items => exact .inr rfl
  | obj fields => exact .inr rfl
  | _ => exact absurd rfl uncounted

section Plain

variable {p : Policy} {g : Gateway} {hostname : Json} {base : String}

theorem plain_text {name identifier : LooseText} {targets ttl : Json} {type : RecordType}
    {marks : List (Json × Json)} : Plan.Plain ⟨⟨.str name, targets, type, .str identifier, ttl⟩, marks⟩ :=
  .inl rfl

theorem plain_hostname (kind : hostname.isText = true ∨ hostname.canIdentify = false)
    {identifier : LooseText} {targets ttl : Json} {type : RecordType} {marks : List (Json × Json)} :
    Plan.Plain ⟨⟨hostname, targets, type, .str identifier, ttl⟩, marks⟩ := by
  rcases kind with text | other
  · exact .inl (Bool.and_eq_true_iff.mpr ⟨text, rfl⟩)
  · exact .inr (Bool.and_eq_false_iff.mpr (.inl other))

theorem clusterActs_plain {balancer : String} {own : List String} {acts : List Act}
    (made : clusterActs p g balancer = .ok (own, acts)) :
    ∀ e ∈ Plan.emissions acts, Plan.Plain e := by
  intro e member
  rcases clusterActs_parts made with ⟨_, _, rfl⟩ | ⟨_, t, _, _, rfl⟩
  · cases member
  · rw [List.mem_singleton.mp member]
    exact plain_text

theorem treeActs_plain {geo : Json} (text : geo.IsText)
    (kind : hostname.isText = true ∨ hostname.canIdentify = false) (balancer : String)
    (targets : List String) :
    ∀ e ∈ Plan.emissions (treeActs p g hostname balancer geo targets).acts, Plan.Plain e := by
  unfold treeActs
  rcases Weight.resolve p g.labels with ⟨f | weight, log⟩
  · simp
  · simp only [Plan.emissions_append, Plan.emissions_notes, List.nil_append, weightActs_emissions,
      geoActs_emissions text]
    obtain ⟨s, rfl⟩ := text
    intro e member
    rcases List.mem_append.mp member with early | entry
    · rcases List.mem_append.mp early with leaf | region
      · obtain ⟨t, _, rfl⟩ := List.mem_map.mp leaf
        exact plain_text
      · rcases List.mem_cons.mp region with rfl | fallback
        · exact plain_text
        · split at fallback
          · rw [List.mem_singleton.mp fallback]
            exact plain_text
          · cases fallback
    · rw [List.mem_singleton.mp entry]
      exact plain_hostname kind

-- Whether or not it comes to an end, a plan names nothing but the hostname and texts.
theorem plan_plain (labels : TextLabels g.labels)
    (kind : hostname.isText = true ∨ hostname.canIdentify = false) :
    ∀ e ∈ Plan.emissions (plan p g hostname base).acts, Plan.Plain e := by
  unfold plan
  split
  · simp only [simplePlan, Plan.emissions_append]
    intro e member
    rcases List.mem_append.mp member with addresses | aliases
    · split at addresses
      · cases addresses
      · rw [List.mem_singleton.mp addresses]
        exact plain_hostname kind
    · split at aliases
      · cases aliases
      · rw [List.mem_singleton.mp aliases]
        exact plain_hostname kind
  · split
    · unfold balancedPlan
      obtain ⟨geo, located⟩ := geoCode_some labels
      cases made : clusterActs p g (balancerName base) with
      | error f => simp [located, made]
      | ok result =>
        obtain ⟨own, acts⟩ := result
        simp only [located, made]
        split
        · simp
        · rw [Plan.emissions_append]
          intro e member
          rcases List.mem_append.mp member with cluster | tree
          · exact clusterActs_plain made e cluster
          · exact treeActs_plain (geoCode_text labels located) kind _ _ e tree
    · simp

end Plain

theorem carryOut_textual {plan : Plan} (plain : ∀ e ∈ Plan.emissions plan.acts, Plan.Plain e)
    (l : Ledger) (hostname : Json) (p : Policy) :
    carryOut l.textual plan hostname p = carryOut l plan hostname p := by
  unfold carryOut
  rw [Plan.run_textual plain]
  rcases plan.run l with ⟨after, _ | f, log⟩ <;> rfl

-- Whatever stands beside the texts among the current records, a publication is the same without it.
theorem publish_textual {g : Gateway} {hostname : Json} {p : Policy} {records : List Record}
    {current : List Nat} {start : Ledger} (labels : TextLabels g.labels)
    (opened : Ledger.opening records current = .ok start) :
    publish g hostname p records (some current) =
      publish g hostname p records (some (current.filter (Ledger.standsText records))) := by
  unfold publish
  cases left : listenerBase hostname with
  | error f => rfl
  | ok base =>
    cases p.refusal? with
    | some f => rfl
    | none =>
      have plain : ∀ e ∈ Plan.emissions (plan p g hostname base).acts, Plan.Plain e :=
        plan_plain labels (listenerBase_kind left)
      simp only [opened, Ledger.opening_textual opened]
      exact (carryOut_textual plain start hostname p).symm

end Synthesis
end DnsSteering
