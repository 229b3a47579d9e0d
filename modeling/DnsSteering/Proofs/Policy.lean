import DnsSteering.Policy
import DnsSteering.Proofs.Texts

namespace DnsSteering

-- The first of several conditions that holds, and what it is a reason for.
inductive First {α : Type} : List (Prop × α) → α → Prop where
  | here {condition : Prop} {a : α} {rest : List (Prop × α)} (holds : condition) :
      First ((condition, a) :: rest) a
  | later {condition : Prop} {a b : α} {rest : List (Prop × α)} (fails : ¬ condition)
      (first : First rest b) : First ((condition, a) :: rest) b

-- None of them holds.
def Clear {α : Type} (reasons : List (Prop × α)) : Prop := ∀ reason ∈ reasons, ¬ reason.1

section First

variable {α β : Type} {reasons more : List (Prop × α)} {a b : α}

theorem First.notClear (first : First reasons a) : ¬ Clear reasons := by
  intro clear
  induction first with
  | here holds => exact clear _ (List.mem_cons_self ..) holds
  | later fails first ih => exact ih fun reason member => clear reason (List.mem_cons_of_mem _ member)

theorem First.unique (one : First reasons a) (two : First reasons b) : a = b := by
  induction one with
  | here holds =>
    cases two with
    | here => rfl
    | later fails => exact absurd holds fails
  | later fails first ih =>
    cases two with
    | here holds => exact absurd holds fails
    | later _ first' => exact ih first'

theorem First.append (first : First reasons a) : First (reasons ++ more) a := by
  induction first with
  | here holds => exact .here holds
  | later fails _ ih => exact .later fails ih

theorem First.behind (clear : Clear reasons) (first : First more a) : First (reasons ++ more) a := by
  induction reasons with
  | nil => exact first
  | cons reason reasons ih =>
    exact .later (clear reason (List.mem_cons_self ..))
      (ih fun other member => clear other (List.mem_cons_of_mem _ member))

theorem First.of_append (first : First (reasons ++ more) a) :
    First reasons a ∨ (Clear reasons ∧ First more a) := by
  induction reasons with
  | nil => exact .inr ⟨by simp [Clear], first⟩
  | cons reason reasons ih =>
    cases first with
    | here holds => exact .inl (.here holds)
    | later fails first =>
      rcases ih first with early | ⟨clear, late⟩
      · exact .inl (.later fails early)
      · exact .inr ⟨List.forall_mem_cons.mpr ⟨fails, clear⟩, late⟩

theorem First.map (f : α → β) (first : First reasons a) :
    First (reasons.map fun reason => (reason.1, f reason.2)) (f a) := by
  induction first with
  | here holds => exact .here holds
  | later fails _ ih => exact .later fails ih

theorem clear_nil : Clear ([] : List (Prop × α)) := by simp [Clear]

theorem clear_cons {condition : Prop} :
    Clear ((condition, a) :: reasons) ↔ ¬ condition ∧ Clear reasons := by
  simp [Clear]

theorem clear_append : Clear (reasons ++ more) ↔ Clear reasons ∧ Clear more := by
  constructor
  · intro clear
    exact ⟨fun reason member => clear reason (List.mem_append_left _ member),
      fun reason member => clear reason (List.mem_append_right _ member)⟩
  · intro clear reason member
    cases List.mem_append.mp member with
    | inl one => exact clear.1 reason one
    | inr two => exact clear.2 reason two

theorem Clear.map (f : α → β) (clear : Clear reasons) :
    Clear (reasons.map fun reason => (reason.1, f reason.2)) := by
  intro reason member
  obtain ⟨old, listed, rfl⟩ := List.mem_map.mp member
  exact clear old listed

-- What is found among reasons: the first one, or nothing where there is none.
def Decides (reasons : List (Prop × α)) : Option α → Prop
  | some a => First reasons a
  | none => Clear reasons

theorem Decides.check {condition : Prop} {test : Bool} {found : Option α}
    (tested : test = true ↔ condition) (rest : Decides reasons found) :
    Decides ((condition, a) :: reasons) (if test then some a else found) := by
  by_cases holds : test = true
  · rw [if_pos holds]
    exact .here (tested.mp holds)
  · have fails : ¬ condition := fun condition => holds (tested.mpr condition)
    rw [if_neg holds]
    cases found with
    | none => exact clear_cons.mpr ⟨fails, rest⟩
    | some b => exact .later fails rest

theorem Decides.or {found other : Option α} (one : Decides reasons found) (two : Decides more other) :
    Decides (reasons ++ more) (found.or other) := by
  cases found with
  | some a => exact First.append one
  | none =>
    cases other with
    | some b => exact First.behind one two
    | none => exact clear_append.mpr ⟨one, two⟩

theorem Decides.map {found : Option α} (f : α → β) (decides : Decides reasons found) :
    Decides (reasons.map fun reason => (reason.1, f reason.2)) (found.map f) := by
  cases found with
  | some a => exact First.map f decides
  | none => exact Clear.map f decides

theorem Decides.some_iff {found : Option α} (decides : Decides reasons found) :
    found = some a ↔ First reasons a := by
  cases found with
  | none => exact ⟨by simp, fun first => absurd decides first.notClear⟩
  | some b =>
    constructor
    · intro equal
      cases equal
      exact decides
    · intro first
      rw [First.unique decides first]

theorem Decides.none_iff {found : Option α} (decides : Decides reasons found) :
    found = none ↔ Clear reasons := by
  cases found with
  | none => exact ⟨fun _ => decides, fun _ => rfl⟩
  | some b => exact ⟨by simp, fun clear => absurd clear (First.notClear decides)⟩

end First

-- Zero by value, in any spelling of numbers.
def Json.IsZero : Json → Prop
  | .int n => n = 0
  | .bool b => b = false
  | .float x => ∃ negative exponent, x = .finite negative 0 exponent
  | _ => False

theorem Number.same_zero {x : Binary64} :
    (Number.double x).same (.whole 0) = true ↔ ∃ negative exponent, x = .finite negative 0 exponent := by
  cases x with
  | nan => simp [Number.same, Number.standing, Binary64.fraction?]
  | infinite negative => cases negative <;> simp [Number.same, Number.standing]
  | finite negative m e =>
    have zero : (Binary64.scaleTwo m 1 e).1 = 0 ↔ m = 0 := by
      have power : 2 ^ e.toNat ≠ 0 := Nat.ne_of_gt (Nat.two_pow_pos _)
      unfold Binary64.scaleTwo
      split
      · exact ⟨fun none => (Nat.mul_eq_zero.mp none).resolve_right power, fun none => by simp [none]⟩
      · exact Iff.rfl
    cases negative <;> simp [Number.same, Number.standing, Binary64.fraction?, zero]

theorem Json.same_zero {v : Json} : v.same (.int 0) = true ↔ v.IsZero := by
  cases v with
  | int n => simp [Json.same, Json.sameNumber, Json.number?, Number.same, Number.standing, Json.IsZero]
  | bool b =>
    cases b <;> simp [Json.same, Json.sameNumber, Json.number?, Number.same, Number.standing, Json.IsZero]
  | float x => simpa [Json.same, Json.sameNumber, Json.number?, Json.IsZero] using Number.same_zero
  | _ => simp [Json.same, Json.sameNumber, Json.number?, Json.IsZero]

theorem Json.truthy_text {v : Json} (text : v.IsText) : v.truthy = false ↔ v = .str "" := by
  obtain ⟨s, rfl⟩ := text
  simp [Json.truthy]

-- A rule must have a weight, and a selector in which something is given.
def WeightRule.flaws (r : WeightRule) : List (Prop × PolicyFault) := [
  (r.weight.IsZero, .zeroWeight),
  (∀ s, r.selector = some s → s.labels = .null ∧ s.expressions = .none, .emptySelector)]

theorem WeightRule.refusal?_decides (r : WeightRule) : Decides r.flaws r.refusal? := by
  unfold refusal?
  refine Decides.check Json.same_zero ?_
  cases given : r.selector with
  | none => exact .here (by simp)
  | some s =>
    have nothing : Decides ([] : List (Prop × PolicyFault)) none := clear_nil
    refine Decides.check ?_ nothing
    simp [Selector.isEmpty]

namespace Policy

-- The fields that are texts, and the default weight as a number.
structure Typed (p : Policy) : Prop where
  strategy : p.strategy.IsText
  clusterId : p.clusterId.IsText
  defaultGeo : p.defaultGeo.IsText
  defaultWeight : ∃ n, p.defaultWeight = .int n

-- With the simple strategy nothing else matters.
def flaws (p : Policy) : List (Prop × PolicyFault) :=
  if p.strategy = .str "simple" then []
  else [
    (p.clusterId = .str "", .noClusterId),
    (p.defaultWeight = .int 0, .noDefaultWeight),
    (p.defaultGeo = .str "", .noDefaultGeo)] ++ p.rules.flatMap WeightRule.flaws

theorem rules_decide (rules : List WeightRule) :
    Decides (rules.flatMap WeightRule.flaws) (rules.findSome? WeightRule.refusal?) := by
  induction rules with
  | nil => exact clear_nil
  | cons r rules ih =>
    have both := r.refusal?_decides.or ih
    rw [List.flatMap_cons, List.findSome?_cons]
    cases found : r.refusal? with
    | none => simpa [found] using both
    | some f => simpa [found] using both

theorem refusal?_decides {p : Policy} (typed : p.Typed) : Decides p.flaws p.refusal? := by
  obtain ⟨n, weight⟩ := typed.defaultWeight
  have absent : ∀ {v : Json}, v.IsText → ((!v.truthy) = true ↔ v = .str "") := by
    intro v text
    rw [← Json.truthy_text text]
    simp
  have zero : p.defaultWeight.same (.int 0) = true ↔ p.defaultWeight = .int 0 := by
    rw [Json.same_zero, weight]
    simp [Json.IsZero]
  unfold refusal? flaws isSimple simpleStrategy
  by_cases simple : p.strategy = .str "simple"
  · simp only [simple, decide_true, if_true]
    exact clear_nil
  · simp only [simple, decide_false, if_false, Bool.false_eq_true]
    exact .check (absent typed.clusterId) (.check zero (.check (absent typed.defaultGeo)
      (rules_decide p.rules)))

-- What is accepted and not simple has a default weight that is not zero and no rule to refuse.
theorem accepted_clear {p : Policy} (accepted : p.refusal? = none) (other : ¬ p.isSimple = true) :
    ¬ p.defaultWeight.IsZero ∧ ∀ r ∈ p.rules, r.refusal? = none := by
  unfold refusal? at accepted
  rw [if_neg other] at accepted
  split at accepted
  · cases accepted
  · split at accepted
    · cases accepted
    · rename_i weighed
      split at accepted
      · cases accepted
      · exact ⟨fun zero => weighed (Json.same_zero.mpr zero), List.findSome?_eq_none_iff.mp accepted⟩

theorem selectors_given (p : Policy) (accepted : p.refusal? = none) (balanced : ¬ p.isSimple = true) :
    ∀ r ∈ p.rules, r.selector ≠ none := by
  intro r listed missing
  have passed := (accepted_clear accepted balanced).2 r listed
  unfold WeightRule.refusal? at passed
  split at passed
  · cases passed
  · rw [missing] at passed
    cases passed

end Policy
end DnsSteering
