import DnsSteering.Proofs.Texts
import DnsSteering.Selector.Requirement
import Mathlib.Data.List.Forall2

namespace DnsSteering

-- What an operator asks of the value that labels hold under a key, where they hold one.
def Operator.Holds (o : Operator) (values : List Json) (held : Option Json) : Prop :=
  match o with
  | .isIn => ∃ v, held = some v ∧ v ∈ values
  | .notIn => held = none ∨ ∃ v, held = some v ∧ v ∉ values
  | .present => ∃ v, held = some v
  | .absent => held = none

-- What counts as absent lists no values.
def Json.listed : Json → List Json
  | .arr items => items
  | _ => []

inductive Expression.Malformed : Expression → Prop where
  | noRequirement (v : Json) : Malformed (.other v)
  | key {key operator values : Json} (unkeyed : ∀ k, key = .str k → k = "") :
      Malformed (.requirement key operator values)
  | operator {key operator values : Json} (unknown : ∀ o : Operator, operator ≠ .str o.text) :
      Malformed (.requirement key operator values)
  | text {key operator : Json} (t : LooseText) : Malformed (.requirement key operator (.str t))
  | mapping {key operator : Json} (fields : List (LooseText × Json)) :
      Malformed (.requirement key operator (.obj fields))
  | single {key operator values : Json} (given : values.truthy = true) (none : values.items? = none) :
      Malformed (.requirement key operator values)
  | value {key operator v : Json} {items : List Json} (listed : v ∈ items) (other : ¬ v.IsText) :
      Malformed (.requirement key operator (.arr items))
  | missing {key operator values : Json} {o : Operator} (named : operator = .str o.text)
      (asks : o = .isIn ∨ o = .notIn) (none : values.truthy = false) :
      Malformed (.requirement key operator values)
  | forbidden {key operator : Json} {o : Operator} {items : List Json} (named : operator = .str o.text)
      (asks : o = .present ∨ o = .absent) (given : items ≠ []) :
      Malformed (.requirement key operator (.arr items))

-- Only an expression in good form holds of anything.
def Expression.Holds (labels : List (LooseText × Json)) (e : Expression) : Prop :=
  ∃ key o values, e = .requirement (.str key) (.str (Operator.text o)) values ∧
    o.Holds values.listed (Json.field? key labels)

inductive Selector.Malformed (s : Selector) : Prop where
  | labels (given : s.labels ≠ .null) (other : ∀ fields, s.labels ≠ .obj fields)
  | pairKey {fields : List (LooseText × Json)} {v : Json} (pairs : s.labels = .obj fields)
      (listed : (.plain "", v) ∈ fields)
  | pairValue {fields : List (LooseText × Json)} {k : LooseText} {v : Json} (pairs : s.labels = .obj fields)
      (listed : (k, v) ∈ fields) (other : ¬ v.IsText)
  | expressions {v : Json} (other : s.expressions = .other v)
  | expression {items : List Expression} {e : Expression} (given : s.expressions = .listed items)
      (listed : e ∈ items) (malformed : e.Malformed)

structure Selector.Satisfied (s : Selector) (labels : List (LooseText × Json)) : Prop where
  pairs : ∀ fields, s.labels = .obj fields → ∀ p ∈ fields, Json.field? p.1 labels = some p.2
  expressions : ∀ items, s.expressions = .listed items → ∀ e ∈ items, e.Holds labels

theorem Operator.ofJson?_iff {v : Json} {o : Operator} : ofJson? v = some o ↔ v = .str o.text := by
  constructor
  · intro found
    unfold ofJson? at found
    split at found
    · have named := List.find?_some found
      rw [of_decide_eq_true named]
    · cases found
  · rintro rfl
    cases o <;> rfl

theorem Operator.text_injective {o p : Operator} (same : Json.str o.text = .str p.text) : o = p := by
  have one := ofJson?_iff.mpr same
  exact Option.some.inj ((ofJson?_iff.mpr rfl).symm.trans one)

theorem Json.texts?_some {items : List Json} {ts : List LooseText} (read : texts? items = some ts) :
    items = ts.map .str := by
  induction items generalizing ts with
  | nil =>
    cases read
    rfl
  | cons v vs ih =>
    unfold texts? at read
    split at read
    · rename_i s rest first more
      cases read
      unfold text? at first
      split at first
      · cases first
        rw [List.map_cons, ← ih more]
      · cases first
    · cases read

theorem Json.texts?_none {items : List Json} (unread : texts? items = none) :
    ∃ v ∈ items, ¬ v.IsText := by
  induction items with
  | nil => cases unread
  | cons v vs ih =>
    by_cases text : v.IsText
    · obtain ⟨s, rfl⟩ := text
      cases more : texts? vs with
      | none =>
        obtain ⟨w, listed, other⟩ := ih more
        exact ⟨w, List.mem_cons_of_mem _ listed, other⟩
      | some ts => simp [texts?, text?, more] at unread
    · exact ⟨v, List.mem_cons_self .., text⟩

namespace Requirement

def Met (r : Requirement) (labels : List (LooseText × Json)) : Prop :=
  r.operator.Holds (r.values.map .str) (Json.field? r.key labels)

theorem values?_some {values : Json} {ts : List LooseText} (read : values? values = some ts) :
    values = .arr (ts.map .str) ∨ (ts = [] ∧ values.truthy = false ∧ values.items? = none) := by
  cases values with
  | str s => cases read
  | obj fields => cases read
  | arr items => exact .inl (congrArg Json.arr (Json.texts?_some read))
  | _ =>
    simp only [values?] at read
    split at read
    · cases read
    · rename_i absent
      cases read
      exact .inr ⟨rfl, by simpa using absent, rfl⟩

theorem values?_listed {values : Json} {ts : List LooseText} (read : values? values = some ts) :
    values.listed = ts.map .str := by
  rcases values?_some read with rfl | ⟨rfl, _, single⟩
  · rfl
  · cases values with
    | arr items => cases single
    | _ => rfl

theorem values?_absent {values : Json} {ts : List LooseText} (read : values? values = some ts) :
    ts = [] ↔ values.truthy = false := by
  rcases values?_some read with rfl | ⟨rfl, absent, _⟩
  · simp [Json.truthy]
  · simp [absent]

theorem values?_none {key operator values : Json} (unread : values? values = none) :
    Expression.Malformed (.requirement key operator values) := by
  cases values with
  | str s => exact .text s
  | obj fields => exact .mapping fields
  | arr items =>
    obtain ⟨v, listed, other⟩ := Json.texts?_none unread
    exact .value listed other
  | _ =>
    simp only [values?] at unread
    split at unread
    · rename_i given
      exact .single given rfl
    · cases unread

theorem operatorFits_ok {key : LooseText} {o : Operator} {values : List LooseText} :
    operatorFits key o values = .ok () ↔
      (o = .isIn ∨ o = .notIn → values ≠ []) ∧ (o = .present ∨ o = .absent → values = []) := by
  cases o <;> cases values <;> simp [operatorFits]

-- What an expression is that was compiled, part by part.
theorem compile_parts {key operator values : Json} {r : Requirement}
    (done : compile key operator values = .ok r) :
    key = .str r.key ∧ r.key ≠ "" ∧ operator = .str r.operator.text ∧
      values? values = some r.values ∧ operatorFits r.key r.operator r.values = .ok () := by
  unfold compile at done
  split at done
  · rename_i key
    split at done
    · cases done
    · rename_i given
      split at done
      · cases done
      · rename_i o named
        split at done
        · cases done
        · rename_i ts read
          split at done
          · cases done
          · rename_i fits
            cases done
            exact ⟨rfl, by simpa using given, Operator.ofJson?_iff.mp named, read, fits⟩
  · cases done

theorem compile_error {key operator values : Json} {f : SelectorFault}
    (failed : compile key operator values = .error f) :
    Expression.Malformed (.requirement key operator values) := by
  unfold compile at failed
  split at failed
  · rename_i key
    split at failed
    · rename_i empty
      exact .key fun k same => by simpa [← Json.str.inj same] using empty
    · split at failed
      · rename_i unnamed
        refine .operator fun o same => ?_
        rw [Operator.ofJson?_iff.mpr same] at unnamed
        cases unnamed
      · rename_i o named
        rw [Operator.ofJson?_iff.mp named]
        split at failed
        · rename_i unread
          exact values?_none unread
        · rename_i ts read
          split at failed
          · rename_i misfit
            have unfit : ¬ operatorFits key o ts = .ok () := by simp [misfit]
            rw [operatorFits_ok, not_and_or] at unfit
            rcases unfit with missing | forbidden
            · obtain ⟨asks, none⟩ := Classical.not_imp.mp missing
              exact .missing rfl asks ((values?_absent read).mp (not_not.mp none))
            · obtain ⟨asks, given⟩ := Classical.not_imp.mp forbidden
              rcases values?_some read with rfl | ⟨none, _⟩
              · exact .forbidden rfl asks (by simpa using given)
              · exact absurd none given
          · cases failed
  · rename_i noText
    exact .key fun k same => absurd same (noText k)

theorem compile_formed {key operator values : Json} {r : Requirement}
    (done : compile key operator values = .ok r) :
    ¬ Expression.Malformed (.requirement key operator values) := by
  obtain ⟨keyed, given, named, read, fits⟩ := compile_parts done
  obtain ⟨asked, bare⟩ := operatorFits_ok.mp fits
  intro malformed
  cases malformed with
  | key unkeyed => exact given (unkeyed r.key keyed)
  | operator unknown => exact unknown r.operator named
  | text s => cases read
  | mapping fields => cases read
  | single truthy single =>
    rcases values?_some read with rfl | ⟨_, absent, _⟩
    · cases single
    · simp [absent] at truthy
  | value listed other =>
    rcases values?_some read with same | ⟨_, _, single⟩
    · rw [Json.arr.inj same] at listed
      obtain ⟨s, _, rfl⟩ := List.mem_map.mp listed
      exact other (Json.isText_str s)
    · cases single
  | missing same asks none =>
    rw [← Operator.text_injective (named.symm.trans same)] at asks
    exact asked asks ((values?_absent read).mpr none)
  | forbidden same asks some =>
    rw [← Operator.text_injective (named.symm.trans same)] at asks
    have none := bare asks
    have listed := values?_listed read
    rw [none] at listed
    exact some listed

theorem compile_holds {key operator values : Json} {r : Requirement}
    (done : compile key operator values = .ok r) (labels : List (LooseText × Json)) :
    r.Met labels ↔ Expression.Holds labels (.requirement key operator values) := by
  obtain ⟨rfl, _, rfl, read, _⟩ := compile_parts done
  have values := values?_listed read
  constructor
  · intro holds
    exact ⟨r.key, r.operator, _, rfl, by rwa [values]⟩
  · intro holds
    obtain ⟨key, o, listed, same, holds⟩ := holds
    injection same with keyed named same
    rw [← Json.str.inj keyed, ← Operator.text_injective named, ← same, values] at holds
    exact holds

theorem ofExpression_error {e : Expression} {f : SelectorFault} (failed : ofExpression e = .error f) :
    e.Malformed := by
  cases e with
  | requirement key operator values => exact compile_error failed
  | other v => exact .noRequirement v

theorem ofExpression_ok {e : Expression} {r : Requirement} (done : ofExpression e = .ok r) :
    ¬ e.Malformed ∧ ∀ labels, r.Met labels ↔ e.Holds labels := by
  cases e with
  | requirement key operator values => exact ⟨compile_formed done, compile_holds done⟩
  | other v => cases done

-- A pair as the expression it stands for.
def pairExpression (pair : LooseText × Json) : Expression :=
  .requirement (.str pair.1) (.str Operator.isIn.text) (.arr [pair.2])

theorem ofPair_expression (pair : LooseText × Json) : ofPair pair = ofExpression (pairExpression pair) :=
  rfl

theorem pair_malformed {pair : LooseText × Json} :
    (pairExpression pair).Malformed ↔ pair.1 = "" ∨ ¬ pair.2.IsText := by
  constructor
  · intro malformed
    cases malformed with
    | key unkeyed => exact .inl (unkeyed pair.1 rfl)
    | operator unknown => exact absurd rfl (unknown .isIn)
    | single _ none => cases none
    | value listed other => exact .inr (List.mem_singleton.mp listed ▸ other)
    | missing _ _ none => cases none
    | forbidden named asks _ =>
      rw [← Operator.text_injective named] at asks
      simp at asks
  · rintro (empty | other)
    · exact .key fun k same => (Json.str.inj same).symm.trans empty
    · exact .value (List.mem_singleton_self _) other

theorem pair_holds {pair : LooseText × Json} {labels : List (LooseText × Json)} :
    (pairExpression pair).Holds labels ↔ Json.field? pair.1 labels = some pair.2 := by
  constructor
  · intro holds
    obtain ⟨key, o, values, same, holds⟩ := holds
    injection same with keyed named same
    rw [← Json.str.inj keyed, ← Operator.text_injective named, ← same] at holds
    obtain ⟨v, held, listed⟩ := holds
    rw [held, List.mem_singleton.mp listed]
  · intro held
    exact ⟨pair.1, .isIn, .arr [pair.2], rfl, pair.2, held, List.mem_singleton_self _⟩

section All

variable {α : Type} {f : α → Except SelectorFault Requirement}

theorem compileAll_ok {xs : List α} {rs : List Requirement} (done : compileAll f xs = .ok rs) :
    List.Forall₂ (fun x r => f x = .ok r) xs rs := by
  induction xs generalizing rs with
  | nil =>
    cases done
    exact .nil
  | cons x xs ih =>
    unfold compileAll at done
    split at done
    · cases done
    · rename_i r here
      obtain ⟨more, rest, rfl⟩ := ok_of_map done
      exact .cons here (ih rest)

theorem compileAll_error {xs : List α} {e : SelectorFault} (failed : compileAll f xs = .error e) :
    ∃ x ∈ xs, f x = .error e := by
  induction xs with
  | nil => cases failed
  | cons x xs ih =>
    unfold compileAll at failed
    split at failed
    · rename_i fault here
      cases failed
      exact ⟨x, List.mem_cons_self .., here⟩
    · cases rest : compileAll f xs with
      | error fault =>
        rw [rest] at failed
        cases failed
        obtain ⟨y, listed, there⟩ := ih rest
        exact ⟨y, List.mem_cons_of_mem _ listed, there⟩
      | ok rs =>
        rw [rest] at failed
        cases failed

end All

-- Requirements compiled one by one from expressions say together what these do.
theorem compiled_means {α : Type} {f : α → Except SelectorFault Requirement} {g : α → Expression}
    (each : ∀ x, f x = ofExpression (g x)) {xs : List α} {rs : List Requirement}
    (done : compileAll f xs = .ok rs) : (∀ x ∈ xs, ¬ (g x).Malformed) ∧
      ∀ labels, (∀ r ∈ rs, r.Met labels) ↔ ∀ x ∈ xs, (g x).Holds labels := by
  have pairs := compileAll_ok done
  clear done
  induction pairs with
  | nil => simp
  | cons here _ ih =>
    obtain ⟨formed, means⟩ := ofExpression_ok ((each _).symm.trans here)
    obtain ⟨restFormed, restMeans⟩ := ih
    refine ⟨by simpa [formed] using restFormed, ?_⟩
    intro labels
    rw [List.forall_mem_cons, List.forall_mem_cons, means labels, restMeans labels]

section Text

variable {labels : List (LooseText × Json)} (text : ∀ l ∈ labels, l.2.IsText)

include text

theorem isListed_met {r : Requirement} {v : Json} (held : Json.field? r.key labels = some v) :
    ∃ b, r.isListed (.obj labels) = .ok b ∧ (b = true ↔ v ∈ r.values.map .str) := by
  have plain := (field?_text text held).canIdentify
  refine ⟨r.values.any fun s => v = .str s, by simp [isListed, valueAt, held, lists, plain], ?_⟩
  simp only [List.any_eq_true, decide_eq_true_eq, List.mem_map, eq_comm (a := v)]

-- A requirement on labels whose values are texts can always be tested.
theorem test_met (r : Requirement) :
    ∃ b, r.test (.obj labels) = .ok b ∧ (b = true ↔ r.Met labels) := by
  unfold test Met
  cases held : Json.field? r.key labels with
  | none =>
    simp only [holds, held, Option.isSome_none]
    cases r.operator <;> simp [Operator.Holds]
  | some v =>
    obtain ⟨b, listed, meaning⟩ := isListed_met text held
    simp only [holds, held, Option.isSome_some, if_true, listed]
    cases r.operator with
    | isIn => exact ⟨b, rfl, by simpa [Operator.Holds] using meaning⟩
    | notIn => exact ⟨!b, rfl, by simpa [Operator.Holds] using not_congr meaning⟩
    | present => exact ⟨true, rfl, by simp [Operator.Holds]⟩
    | absent => exact ⟨false, rfl, by simp [Operator.Holds]⟩

theorem testAll_met (rs : List Requirement) :
    ∃ b, testAll rs (.obj labels) = .ok b ∧ (b = true ↔ ∀ r ∈ rs, r.Met labels) := by
  induction rs with
  | nil => exact ⟨true, rfl, by simp⟩
  | cons r rs ih =>
    obtain ⟨b, tested, here⟩ := test_met text r
    obtain ⟨rest, testedRest, there⟩ := ih
    unfold testAll
    rw [tested, List.forall_mem_cons, ← here, ← there]
    cases b with
    | false => exact ⟨false, rfl, by simp⟩
    | true => exact ⟨rest, testedRest, by simp⟩

end Text
end Requirement

namespace Selector

theorem pairs_ok {labels : Json} {fields : List (LooseText × Json)} (done : pairs labels = .ok fields) :
    (labels = .null ∧ fields = []) ∨ labels = .obj fields := by
  cases labels with
  | null => exact .inl ⟨rfl, (Except.ok.inj done).symm⟩
  | obj given => exact .inr (congrArg Json.obj (Except.ok.inj done))
  | _ => cases done

theorem pairs_error {s : Selector} {f : SelectorFault} (failed : pairs s.labels = .error f) :
    s.Malformed := by
  refine .labels ?_ ?_
  · intro none
    rw [none] at failed
    cases failed
  · intro fields given
    rw [given] at failed
    cases failed

theorem expressionList_ok {expressions : Expressions} {items : List Expression}
    (done : expressionList expressions = .ok items) :
    (expressions = .none ∧ items = []) ∨ expressions = .listed items := by
  cases expressions with
  | none => exact .inl ⟨rfl, (Except.ok.inj done).symm⟩
  | listed given => exact .inr (congrArg Expressions.listed (Except.ok.inj done))
  | other v => cases done

theorem expressionList_error {s : Selector} {f : SelectorFault}
    (failed : expressionList s.expressions = .error f) : s.Malformed := by
  cases given : s.expressions with
  | other v => exact .expressions given
  | _ =>
    rw [given] at failed
    cases failed

theorem compile_error {s : Selector} {f : SelectorFault} (failed : s.compile = .error f) :
    s.Malformed := by
  unfold compile at failed
  split at failed
  · rename_i unpaired
    exact pairs_error unpaired
  · rename_i fields paired
    split at failed
    · rename_i unlisted
      exact expressionList_error unlisted
    · rename_i items listed
      split at failed
      · rename_i unfit
        obtain ⟨pair, member, here⟩ := Requirement.compileAll_error unfit
        rcases pairs_ok paired with ⟨_, rfl⟩ | given
        · cases member
        · rcases Requirement.pair_malformed.mp (Requirement.ofExpression_error here) with empty | other
          · exact .pairKey given (v := pair.2) (by rwa [← empty])
          · exact .pairValue given (k := pair.1) member other
      · split at failed
        · rename_i unfit
          obtain ⟨e, member, here⟩ := Requirement.compileAll_error unfit
          rcases expressionList_ok listed with ⟨_, rfl⟩ | given
          · cases member
          · exact .expression given member (Requirement.ofExpression_error here)
        · cases failed

theorem compile_parts {s : Selector} {rs : List Requirement} (done : s.compile = .ok rs) :
    ∃ fields items fromPairs fromExpressions, pairs s.labels = .ok fields ∧
      expressionList s.expressions = .ok items ∧
      Requirement.compileAll Requirement.ofPair fields = .ok fromPairs ∧
      Requirement.compileAll Requirement.ofExpression items = .ok fromExpressions ∧
      rs = fromPairs ++ fromExpressions := by
  unfold compile at done
  split at done
  · cases done
  · rename_i fields paired
    split at done
    · cases done
    · rename_i items listed
      split at done
      · cases done
      · rename_i fromPairs pairs
        split at done
        · cases done
        · rename_i fromExpressions expressions
          exact ⟨fields, items, fromPairs, fromExpressions, paired, listed, pairs, expressions,
            (Except.ok.inj done).symm⟩

theorem compile_ok {s : Selector} {rs : List Requirement} (done : s.compile = .ok rs) :
    ¬ s.Malformed ∧ ∀ labels, (∀ r ∈ rs, r.Met labels) ↔ s.Satisfied labels := by
  obtain ⟨fields, items, fromPairs, fromExpressions, paired, listed, first, second, rfl⟩ :=
    compile_parts done
  obtain ⟨pairsFormed, pairsMean⟩ := Requirement.compiled_means Requirement.ofPair_expression first
  obtain ⟨formed, mean⟩ := Requirement.compiled_means (g := id) (fun _ => rfl) second
  -- What was given as an object or a list is what was compiled.
  have pairsGiven : ∀ {given}, s.labels = .obj given → given = fields := by
    intro given same
    rw [same] at paired
    exact Except.ok.inj paired
  have itemsGiven : ∀ {given}, s.expressions = .listed given → given = items := by
    intro given same
    rw [same] at listed
    exact Except.ok.inj listed
  constructor
  · intro malformed
    cases malformed with
    | labels some other =>
      rcases pairs_ok paired with ⟨none, _⟩ | given
      · exact some none
      · exact other fields given
    | pairKey given member =>
      rw [pairsGiven given] at member
      exact pairsFormed _ member (Requirement.pair_malformed.mpr (.inl rfl))
    | pairValue given member other =>
      rw [pairsGiven given] at member
      exact pairsFormed _ member (Requirement.pair_malformed.mpr (.inr other))
    | expressions other =>
      rw [other] at listed
      cases listed
    | expression given member malformed =>
      rw [itemsGiven given] at member
      exact formed _ member malformed
  · intro labels
    rw [List.forall_mem_append, pairsMean labels, mean labels]
    simp only [Requirement.pair_holds, id]
    constructor
    · intro met
      exact ⟨fun given same => pairsGiven same ▸ met.1, fun given same => itemsGiven same ▸ met.2⟩
    · intro satisfied
      constructor
      · rcases pairs_ok paired with ⟨_, rfl⟩ | given
        · simp
        · exact satisfied.pairs fields given
      · rcases expressionList_ok listed with ⟨_, rfl⟩ | given
        · simp
        · exact satisfied.expressions items given

theorem matchLabels_malformed {s : Selector} (malformed : s.Malformed) :
    ∃ f, ∀ labels, s.matchLabels labels = .error (.value (.selector f)) := by
  cases compiled : s.compile with
  | error f => exact ⟨f, fun labels => by simp [matchLabels, compiled]⟩
  | ok rs => exact absurd malformed (compile_ok compiled).1

theorem matchLabels_formed {s : Selector} (formed : ¬ s.Malformed) {labels : List (LooseText × Json)}
    (text : ∀ l ∈ labels, l.2.IsText) :
    ∃ answer, s.matchLabels (.obj labels) = .ok answer ∧ (answer = true ↔ s.Satisfied labels) := by
  cases compiled : s.compile with
  | error f => exact absurd (compile_error compiled) formed
  | ok rs =>
    obtain ⟨answer, tested, met⟩ := Requirement.testAll_met text rs
    exact ⟨answer, by simp [matchLabels, compiled, tested],
      met.trans ((compile_ok compiled).2 labels)⟩

theorem matchLabels_ok {s : Selector} {labels : List (LooseText × Json)}
    (text : ∀ l ∈ labels, l.2.IsText) {b : Bool} : s.matchLabels (.obj labels) = .ok b ↔
      ¬ s.Malformed ∧ (b = true ↔ s.Satisfied labels) := by
  by_cases malformed : s.Malformed
  · obtain ⟨f, failed⟩ := matchLabels_malformed malformed
    simp [failed, malformed]
  · obtain ⟨answer, done, meaning⟩ := matchLabels_formed malformed text
    rw [done, ← meaning]
    cases answer <;> cases b <;> simp [malformed]

-- Every pair and every expression is looked at before any of them is tested, so a malformed selector is
-- refused in the same words whatever the labels are.
theorem matchLabels_meaning {labels : List (LooseText × Json)} (text : ∀ l ∈ labels, l.2.IsText)
    (s : Selector) :
    ((∃ f, s.matchLabels (.obj labels) = .error f) ↔ s.Malformed) ∧
      (s.Malformed → ∃ f, ∀ others, s.matchLabels others = .error (.value (.selector f))) ∧
      (¬ s.Malformed → ∃ answer, s.matchLabels (.obj labels) = .ok answer ∧
        (answer = true ↔ s.Satisfied labels)) := by
  refine ⟨?_, matchLabels_malformed, fun formed => matchLabels_formed formed text⟩
  constructor
  · intro refused
    obtain ⟨f, failed⟩ := refused
    by_contra formed
    obtain ⟨answer, done, _⟩ := matchLabels_formed formed text
    rw [done] at failed
    cases failed
  · intro malformed
    obtain ⟨f, failed⟩ := matchLabels_malformed malformed
    exact ⟨_, failed (.obj labels)⟩

-- One selector with every operator, and one whose pair does not match and whose expression is malformed.
def golden : Selector := ⟨.obj [("region", .str "eu")], .listed [
  .requirement (.str "tier") (.str "In") (.arr [.str "gold", .str "silver"]),
  .requirement (.str "tier") (.str "Exists") .null,
  .requirement (.str "zone") (.str "NotIn") (.arr [.str "z"]),
  .requirement (.str "stage") (.str "DoesNotExist") (.arr [])]⟩

def overfull : Selector := ⟨.obj [("region", .str "us")], .listed [
  .requirement (.str "tier") (.str "Exists") (.arr [.str "gold"])]⟩

def goldLabels : List (LooseText × Json) := [("region", .str "eu"), ("tier", .str "gold")]

theorem golden_meaning : (∀ l ∈ goldLabels, l.2.IsText) ∧ ¬ golden.Malformed ∧
    golden.Satisfied goldLabels ∧ overfull.Malformed ∧
    ∃ f, ∀ others, overfull.matchLabels others = .error (.value (.selector f)) := by
  have text : ∀ l ∈ goldLabels, l.2.IsText := by simp [goldLabels]
  obtain ⟨refused, _, answered⟩ := matchLabels_meaning text golden
  obtain ⟨refusedOver, words, _⟩ := matchLabels_meaning text overfull
  have matched : golden.matchLabels (.obj goldLabels) = .ok true := rfl
  have formed : ¬ golden.Malformed := by
    rw [← refused, matched]
    simp
  have malformed : overfull.Malformed := refusedOver.mp ⟨_, rfl⟩
  obtain ⟨answer, done, meaning⟩ := answered formed
  cases Except.ok.inj (matched.symm.trans done)
  exact ⟨text, formed, meaning.mp rfl, malformed, words malformed⟩

end Selector
end DnsSteering
