import DnsSteering.Policy
import Mathlib.Data.List.Induction

namespace DnsSteering.Draft

inductive Call where
  | set (s : Setting)
  | build

-- Building answers with the policy, or with why it is refused.
def perform (d : Draft) : Call → Draft × Option (Except Fault Policy)
  | .set s => (d.set s, none)
  | .build => (d, some d.build)

-- The draft in the end, and what each call answered.
def run (d : Draft) : List Call → Draft × List (Option (Except Fault Policy))
  | [] => (d, [])
  | c :: calls =>
    let (next, answer) := d.perform c
    let (last, answers) := next.run calls
    (last, answer :: answers)

namespace Call

def strategy? : Call → Option Json
  | .set .simple => some (.str "simple")
  | .set (.balanced _ _ _) => some (.str "loadbalanced")
  | .set (.rules _) => none
  | .build => none

-- Cluster, geography and weight come together.
def spread? : Call → Option (Json × Json × Json)
  | .set (.balanced clusterId defaultGeo defaultWeight) => some (clusterId, defaultGeo, defaultWeight)
  | .set .simple => none
  | .set (.rules _) => none
  | .build => none

def rules? : Call → Option (List WeightRule)
  | .set (.rules rules) => some rules
  | .set .simple => none
  | .set (.balanced _ _ _) => none
  | .build => none

end Call

-- What was given last, or else what there was before any call.
inductive Last {α : Type} (give : Call → Option α) (first : α) : List Call → α → Prop where
  | given {before after : List Call} {c : Call} {a : α} (here : give c = some a)
      (silent : ∀ d ∈ after, give d = none) : Last give first (before ++ c :: after) a
  | never {calls : List Call} (silent : ∀ d ∈ calls, give d = none) : Last give first calls first

section Last

variable {α : Type} {give : Call → Option α} {first a b : α} {calls : List Call} {c : Call}

theorem Last.behind (last : Last give first calls a) (silent : give c = none) :
    Last give first (calls ++ [c]) a := by
  have more : ∀ {after : List Call}, (∀ d ∈ after, give d = none) →
      ∀ d ∈ after ++ [c], give d = none := by
    intro after others d member
    rcases List.mem_append.mp member with old | new
    · exact others d old
    · rw [List.mem_singleton.mp new]
      exact silent
  cases last with
  | given here others =>
    rw [List.append_assoc, List.cons_append]
    exact .given here (more others)
  | never others => exact .never (more others)

theorem Last.new (here : give c = some a) : Last give first (calls ++ [c]) a :=
  .given here fun _ member => by cases member

theorem last_concat : Last give first (calls ++ [c]) b →
    give c = some b ∨ (give c = none ∧ Last give first calls b) := by
  generalize whole : calls ++ [c] = run
  intro last
  cases last with
  | @given before after d _ here silent =>
    rcases List.eq_nil_or_concat after with rfl | ⟨front, e, rfl⟩
    · obtain ⟨_, same⟩ := List.append_inj' whole rfl
      cases same
      exact .inl here
    · rw [List.concat_eq_append, ← List.cons_append, ← List.append_assoc] at whole
      obtain ⟨rfl, same⟩ := List.append_inj' whole rfl
      cases same
      refine .inr ⟨silent c (by simp), .given here fun d member => silent d (by simp [member])⟩
  | never silent =>
    subst whole
    exact .inr ⟨silent c (by simp), .never fun d member => silent d (by simp [member])⟩

theorem Last.unique (one : Last give first calls a) (two : Last give first calls b) : a = b := by
  induction calls using List.reverseRecOn with
  | nil =>
    have empty : ∀ {e}, Last give first [] e → e = first := by
      intro e last
      generalize none : ([] : List Call) = run at last
      cases last with
      | given => simp at none
      | never => rfl
    rw [empty one, empty two]
  | append_singleton calls c ih =>
    rcases last_concat one with here | ⟨silent, old⟩
    · rcases last_concat two with there | ⟨silent, _⟩
      · exact Option.some.inj (here.symm.trans there)
      · cases here.symm.trans silent
    · rcases last_concat two with there | ⟨_, old'⟩
      · cases silent.symm.trans there
      · exact ih old old'

end Last

-- A policy as calls leave it.
structure Settled (calls : List Call) (p : Policy) : Prop where
  strategy : Last Call.strategy? (.str "") calls p.strategy
  spread : Last Call.spread? (.str "", .str "", .int 0) calls (p.clusterId, p.defaultGeo, p.defaultWeight)
  rules : Last Call.rules? [] calls p.rules

section Runs

variable {calls : List Call} {p q : Policy}

theorem Settled.unique (one : Settled calls p) (two : Settled calls q) : p = q := by
  have strategy := one.strategy.unique two.strategy
  have spread := one.spread.unique two.spread
  have rules := one.rules.unique two.rules
  obtain ⟨s, g, w, rs, c⟩ := p
  obtain ⟨s', g', w', rs', c'⟩ := q
  cases strategy
  cases spread
  cases rules
  rfl

theorem settled_start : Settled [] ({} : Draft).policy :=
  ⟨.never (by simp), .never (by simp), .never (by simp)⟩

-- One call: the groups that it gives are new, the others as they were.
theorem Settled.step {d : Draft} (settled : Settled calls d.policy) (c : Call) :
    Settled (calls ++ [c]) (d.perform c).1.policy := by
  cases c with
  | build => exact ⟨settled.strategy.behind rfl, settled.spread.behind rfl, settled.rules.behind rfl⟩
  | set s =>
    cases s with
    | simple => exact ⟨.new rfl, settled.spread.behind rfl, settled.rules.behind rfl⟩
    | balanced clusterId defaultGeo defaultWeight =>
      exact ⟨.new rfl, .new rfl, settled.rules.behind rfl⟩
    | rules rules => exact ⟨settled.strategy.behind rfl, settled.spread.behind rfl, .new rfl⟩

theorem run_append (d : Draft) (calls more : List Call) : d.run (calls ++ more) =
    (((d.run calls).1.run more).1, (d.run calls).2 ++ ((d.run calls).1.run more).2) := by
  induction calls generalizing d with
  | nil => rfl
  | cons c calls ih => simp only [List.cons_append, run, ih]

theorem length_answers (d : Draft) (calls : List Call) : (d.run calls).2.length = calls.length := by
  induction calls generalizing d with
  | nil => rfl
  | cons c calls ih => simp only [run, List.length_cons, ih]

theorem settled_after (calls : List Call) : Settled calls (({} : Draft).run calls).1.policy := by
  induction calls using List.reverseRecOn with
  | nil => exact settled_start
  | append_singleton calls c ih =>
    rw [run_append]
    exact ih.step c

end Runs

-- A build at any point answers with what the calls before it settled, and everything else goes on as if
-- nothing had been built.
theorem run_builds (before after : List Call) : ∃ p, (∀ q, Settled before q ↔ q = p) ∧
    (∃ answer, (({} : Draft).run (before ++ .build :: after)).2[before.length]? = some (some answer) ∧
      (∀ f, answer = .error f ↔ ∃ fault, p.refusal? = some fault ∧ f = .policy fault) ∧
      ∀ q, answer = .ok q ↔ p.refusal? = none ∧ q = p) ∧
    (({} : Draft).run (before ++ .build :: after)).1 = (({} : Draft).run (before ++ after)).1 ∧
    (({} : Draft).run (before ++ .build :: after)).2.eraseIdx before.length =
      (({} : Draft).run (before ++ after)).2 := by
  have settled := settled_after before
  have length := length_answers {} before
  rw [run_append, run_append]
  generalize ({} : Draft).run before = reached at settled length
  obtain ⟨d, answers⟩ := reached
  refine ⟨d.policy, fun q => ⟨fun other => other.unique settled, fun same => same ▸ settled⟩,
    ⟨d.build, ?_, ?_⟩, rfl, ?_⟩
  · simp [run, perform, ← length]
  · unfold build
    cases d.policy.refusal? with
    | none => simp [eq_comm]
    | some fault => simp [eq_comm]
  · rw [List.eraseIdx_append_of_length_le (Nat.le_of_eq length), ← length]
    simp [run, perform]

end DnsSteering.Draft
