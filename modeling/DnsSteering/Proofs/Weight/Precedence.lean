import DnsSteering.Proofs.Selector
import DnsSteering.Weight

namespace DnsSteering

namespace Weight

-- Rules that were asked in turn, none of which matched.
inductive Passes {σ : Type} (matcher : Matcher σ) (labels : Json) :
    List WeightRule → σ → σ → Prop where
  | nil {s : σ} : Passes matcher labels [] s s
  | cons {r : WeightRule} {rules : List WeightRule} {s t u : σ}
      (replied : matcher r.selector labels s = (.ok false, t)) (rest : Passes matcher labels rules t u) :
      Passes matcher labels (r :: rules) s u

-- How a search ends: which rules were asked, the weight that comes of it, and what is remembered.
inductive Ending {σ : Type} (matcher : Matcher σ) (labels fallback : Json) (start : σ) :
    List WeightRule → List WeightRule → Json → σ → Prop where
  | matched {before after : List WeightRule} {r : WeightRule} {s t : σ}
      (passed : Passes matcher labels before start s)
      (replied : matcher r.selector labels s = (.ok true, t)) :
      Ending matcher labels fallback start (before ++ r :: after) (before ++ [r]) r.weight t
  | failed {before after : List WeightRule} {r : WeightRule} {s t : σ} {f : Fault}
      (passed : Passes matcher labels before start s)
      (replied : matcher r.selector labels s = (.error f, t)) :
      Ending matcher labels fallback start (before ++ r :: after) (before ++ [r]) fallback t
  | unmatched {rules : List WeightRule} {t : σ} (passed : Passes matcher labels rules start t) :
      Ending matcher labels fallback start rules rules fallback t

section Matcher

variable {σ : Type} {matcher : Matcher σ} {labels : Json}

theorem Ending.later {fallback weight : Json} {r : WeightRule} {rules asked : List WeightRule}
    {s t u : σ}
    (replied : matcher r.selector labels s = (.ok false, t))
    (ending : Ending matcher labels fallback t rules asked weight u) :
    Ending matcher labels fallback s (r :: rules) (r :: asked) weight u := by
  cases ending with
  | matched passed here => exact Ending.matched (.cons replied passed) here
  | failed passed here => exact Ending.failed (.cons replied passed) here
  | unmatched passed => exact .unmatched (.cons replied passed)

-- The induction is on the rules; what the matcher remembers differs from one to the next.
theorem ask_ending (fallback : Json)
    (absorbed : ∀ selector s f, (matcher selector labels s).1 = .error f → f.isValue = true)
    (rules : List WeightRule) (start : σ) :
    ∃ weight log, settle fallback labels (ask matcher labels rules start).1 = (.ok weight, log) ∧
      Ending matcher labels fallback start rules ((ask matcher labels rules start).1.map Prod.fst)
        weight (ask matcher labels rules start).2 := by
  induction rules generalizing start with
  | nil => exact ⟨fallback, [], rfl, .unmatched .nil⟩
  | cons r rules ih =>
    rcases replied : matcher r.selector labels start with ⟨answer, next⟩
    unfold ask
    rw [replied]
    cases answer with
    | error f =>
      have value : f.isValue = true := absorbed r.selector start f (by rw [replied])
      exact ⟨fallback, failedLine r.weight fallback f, by simp [settle, value],
        Ending.failed .nil replied⟩
    | ok b =>
      cases b with
      | true =>
        exact ⟨r.weight, matchedLine labels r.weight, by simp [settle],
          Ending.matched .nil replied⟩
      | false =>
        obtain ⟨weight, log, settled, ending⟩ := ih next
        exact ⟨weight, log, by simpa [settle] using settled, ending.later replied⟩

end Matcher

-- What stands behind the deciding answer makes no difference to the result.
theorem settle_ask {labels fallback : Json} (rules : List WeightRule) :
    settle fallback labels (rules.map fun r => (r, r.test labels)) =
      settle fallback labels (ask Matcher.selectors labels rules ()).1 := by
  induction rules with
  | nil => rfl
  | cons r rules ih =>
    have own : Matcher.selectors r.selector labels () = (r.test labels, ()) := by
      unfold Matcher.selectors WeightRule.test
      cases r.selector <;> rfl
    unfold ask
    rw [List.map_cons, own]
    rcases r.test labels with f | b
    · rfl
    · cases b with
      | true => rfl
      | false => simpa [settle] using ih

theorem resolve_selectors (p : Policy) (labels : Json) :
    resolve p labels = (resolveWith Matcher.selectors p labels ()).1 :=
  settle_ask p.rules

theorem settle_unmatched {labels fallback : Json} (r : WeightRule)
    (before after : List (WeightRule × Except Fault Bool)) :
    settle fallback labels (before ++ (r, .ok false) :: after) =
      settle fallback labels (before ++ after) := by
  induction before with
  | nil => rfl
  | cons t before ih =>
    obtain ⟨q, f | b⟩ := t
    · rfl
    · cases b with
      | true => rfl
      | false => simpa [settle] using ih

-- Where every rule can be tested, the weight is that of some rule that matches, or the default.
theorem settle_tested {labels fallback weight : Json} {tested : List (WeightRule × Except Fault Bool)}
    (able : ∀ t ∈ tested, ∃ b, t.2 = .ok b)
    (agreed : ∀ t ∈ tested, t.2 = .ok true → t.1.weight = weight) :
    ((∃ t ∈ tested, t.2 = .ok true) ∧
        settle fallback labels tested = (.ok weight, matchedLine labels weight)) ∨
      ((∀ t ∈ tested, t.2 ≠ .ok true) ∧ settle fallback labels tested = (.ok fallback, [])) := by
  induction tested with
  | nil => exact .inr ⟨by simp, rfl⟩
  | cons t tested ih =>
    obtain ⟨b, here⟩ := able t (List.mem_cons_self ..)
    obtain ⟨r, answer⟩ := t
    obtain rfl : answer = .ok b := here
    cases b with
    | true =>
      have weighs : r.weight = weight := agreed _ (List.mem_cons_self ..) rfl
      exact .inl ⟨⟨_, List.mem_cons_self .., rfl⟩, by simp [settle, weighs]⟩
    | false =>
      have rest := ih (fun t member => able t (List.mem_cons_of_mem _ member))
        (fun t member => agreed t (List.mem_cons_of_mem _ member))
      rcases rest with ⟨⟨t, member, matched⟩, settled⟩ | ⟨none, settled⟩
      · exact .inl ⟨⟨t, List.mem_cons_of_mem _ member, matched⟩, by simpa [settle] using settled⟩
      · refine .inr ⟨?_, by simpa [settle] using settled⟩
        intro t member
        rcases List.mem_cons.mp member with rfl | later
        · simp
        · exact none t later

theorem test_selector {r : WeightRule} {s : Selector} (given : r.selector = some s) (labels : Json) :
    r.test labels = s.matchLabels labels := by
  simp [WeightRule.test, given]

section Selectors

variable {labels : List (LooseText × Json)} (text : ∀ l ∈ labels, l.2.IsText) {p : Policy}

include text

theorem resolve_unmatched {before after : List WeightRule} {r : WeightRule} {s : Selector}
    (rules : p.rules = before ++ after) (given : r.selector = some s) (formed : ¬ s.Malformed)
    (other : ¬ s.Satisfied labels) :
    resolve { p with rules := before ++ r :: after } (.obj labels) = resolve p (.obj labels) := by
  have tested : r.test (.obj labels) = .ok false := by
    rw [test_selector given]
    exact (Selector.matchLabels_ok text).mpr ⟨formed, by simpa using other⟩
  unfold resolve
  rw [rules]
  simp only [List.map_append, List.map_cons, tested]
  exact settle_unmatched r _ _

theorem settle_agreed {weight : Json} (fallback : Json) {rules : List WeightRule}
    (agreed : ∀ r ∈ rules, ∃ s, r.selector = some s ∧ ¬ s.Malformed ∧
      (s.Satisfied labels → r.weight = weight)) :
    ((∃ r ∈ rules, r.test (.obj labels) = .ok true) ∧
        settle fallback (.obj labels) (rules.map fun r => (r, r.test (.obj labels))) =
          (.ok weight, matchedLine (.obj labels) weight)) ∨
      ((∀ r ∈ rules, r.test (.obj labels) ≠ .ok true) ∧
        settle fallback (.obj labels) (rules.map fun r => (r, r.test (.obj labels))) =
          (.ok fallback, [])) := by
  have able : ∀ r ∈ rules, ∃ b, r.test (.obj labels) = .ok b := by
    intro r member
    obtain ⟨s, given, formed, _⟩ := agreed r member
    obtain ⟨b, done, _⟩ := Selector.matchLabels_formed formed text
    exact ⟨b, by rw [test_selector given, done]⟩
  have weighs : ∀ r ∈ rules, r.test (.obj labels) = .ok true → r.weight = weight := by
    intro r member matched
    obtain ⟨s, given, _, same⟩ := agreed r member
    rw [test_selector given] at matched
    exact same (((Selector.matchLabels_ok text).mp matched).2.mp rfl)
  have tested := @settle_tested (.obj labels) fallback weight
    (rules.map fun r => (r, r.test (.obj labels))) (by simpa using able) (by simpa using weighs)
  simpa using tested

-- Both orders hold the same rules, and so one of them has a rule that matches if the other has.
theorem resolve_permuted {weight : Json} {rules : List WeightRule}
    (agreed : ∀ r ∈ p.rules, ∃ s, r.selector = some s ∧ ¬ s.Malformed ∧
      (s.Satisfied labels → r.weight = weight)) (permuted : rules.Perm p.rules) :
    resolve { p with rules := rules } (.obj labels) = resolve p (.obj labels) := by
  have here := settle_agreed text p.defaultWeight fun r member =>
    agreed r (permuted.mem_iff.mp member)
  have there := settle_agreed text p.defaultWeight agreed
  unfold resolve
  rcases here with ⟨⟨r, member, matched⟩, one⟩ | ⟨none, one⟩
  · rcases there with ⟨_, two⟩ | ⟨none, _⟩
    · rw [one, two]
    · exact absurd matched (none r (permuted.mem_iff.mp member))
  · rcases there with ⟨⟨r, member, matched⟩, _⟩ | ⟨_, two⟩
    · exact absurd matched (none r (permuted.mem_iff.mpr member))
    · rw [one, two]

end Selectors

-- Whatever answers, provided that it fails with nothing but faults of values, a weight is found, and the
-- rules that were asked end with the one that decided.
theorem resolveWith_first {σ : Type} {matcher : Matcher σ} {labels : List (LooseText × Json)}
    (text : ∀ l ∈ labels, l.2.IsText)
    (absorbed : ∀ selector s f, (matcher selector (.obj labels) s).1 = .error f → f.isValue = true)
    (p : Policy) (start : σ) :
    (∃ weight log last, resolveWith matcher p (.obj labels) start = ((.ok weight, log), last) ∧
        Ending matcher (.obj labels) p.defaultWeight start p.rules
          ((ask matcher (.obj labels) p.rules start).1.map Prod.fst) weight last) ∧
      resolve p (.obj labels) = (resolveWith Matcher.selectors p (.obj labels) ()).1 ∧
      (∀ before after r s, p.rules = before ++ after → r.selector = some s → ¬ s.Malformed →
        ¬ s.Satisfied labels →
        resolve { p with rules := before ++ r :: after } (.obj labels) = resolve p (.obj labels)) ∧
      ∀ weight, (∀ r ∈ p.rules, ∃ s, r.selector = some s ∧ ¬ s.Malformed ∧
          (s.Satisfied labels → r.weight = weight)) →
        ∀ rules : List WeightRule, rules.Perm p.rules →
          resolve { p with rules := rules } (.obj labels) = resolve p (.obj labels) := by
  obtain ⟨weight, log, settled, ending⟩ := ask_ending p.defaultWeight absorbed p.rules start
  refine ⟨⟨weight, log, _, Prod.ext settled rfl, ending⟩, resolve_selectors p _, ?_, ?_⟩
  · intro before after r s rules given formed other
    exact resolve_unmatched text rules given formed other
  · intro weight agreed rules permuted
    exact resolve_permuted text agreed permuted

-- A matcher that counts and agrees to the second question only.
def second : Matcher Nat := fun _ _ asked => (.ok (asked = 1), asked + 1)

def silver : Selector := ⟨.obj [("tier", .str "silver")], .none⟩

def european : Selector := ⟨.obj [("region", .str "eu")], .none⟩

def tiers : Policy := {
  defaultWeight := .int 120
  rules := [⟨.int 10, some silver⟩, ⟨.int 20, some Selector.golden⟩, ⟨.int 20, some european⟩] }

theorem tiers_first : (∀ l ∈ Selector.goldLabels, l.2.IsText) ∧
    (∀ selector s f, (second selector (.obj Selector.goldLabels) s).1 = .error f → f.isValue = true) ∧
    Ending second (.obj Selector.goldLabels) (.int 120) 0 tiers.rules
      [⟨.int 10, some silver⟩, ⟨.int 20, some Selector.golden⟩] (.int 20) 2 ∧
    (resolve tiers (.obj Selector.goldLabels)).1 = .ok (.int 20) ∧
    (∀ rules : List WeightRule, rules.Perm tiers.rules →
      resolve { tiers with rules := rules } (.obj Selector.goldLabels) =
        resolve tiers (.obj Selector.goldLabels)) ∧
    resolve { tiers with rules := tiers.rules ++ [⟨.int 10, some silver⟩] }
      (.obj Selector.goldLabels) = resolve tiers (.obj Selector.goldLabels) := by
  have text : ∀ l ∈ Selector.goldLabels, l.2.IsText := by simp [Selector.goldLabels]
  have absorbed : ∀ selector s f,
      (second selector (.obj Selector.goldLabels) s).1 = .error f → f.isValue = true := by
    intro selector s f failed
    cases failed
  obtain ⟨⟨weight, log, last, done, ending⟩, _, inserted, permuted⟩ :=
    resolveWith_first text absorbed tiers 0
  have facts : ∀ {s : Selector} {b : Bool}, s.matchLabels (.obj Selector.goldLabels) = .ok b →
      ¬ s.Malformed ∧ (b = true ↔ s.Satisfied Selector.goldLabels) :=
    (Selector.matchLabels_ok text).mp
  obtain ⟨silverFormed, silverOther⟩ := facts (s := silver) (b := false) rfl
  obtain ⟨goldenFormed, _⟩ := facts (s := Selector.golden) (b := true) rfl
  obtain ⟨europeanFormed, _⟩ := facts (s := european) (b := true) rfl
  refine ⟨text, absorbed, ?_, rfl, ?_, ?_⟩
  · have result : resolveWith second tiers (.obj Selector.goldLabels) 0 =
        ((.ok (.int 20), matchedLine (.obj Selector.goldLabels) (.int 20)), 2) := rfl
    obtain ⟨settled, rfl⟩ := Prod.mk.inj (result.symm.trans done)
    cases Except.ok.inj (Prod.mk.inj settled).1
    exact ending
  · refine permuted (.int 20) ?_
    intro r member
    simp only [tiers, List.mem_cons, List.not_mem_nil, or_false] at member
    rcases member with rfl | rfl | rfl
    · exact ⟨silver, rfl, silverFormed, fun holds => absurd (silverOther.mpr holds) (by simp)⟩
    · exact ⟨Selector.golden, rfl, goldenFormed, fun _ => rfl⟩
    · exact ⟨european, rfl, europeanFormed, fun _ => rfl⟩
  · exact inserted tiers.rules [] ⟨.int 10, some silver⟩ silver (List.append_nil _).symm rfl
      silverFormed (by simpa using silverOther)

end Weight
end DnsSteering
