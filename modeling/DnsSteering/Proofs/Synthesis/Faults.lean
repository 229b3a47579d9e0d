import DnsSteering.Synthesis

namespace DnsSteering

-- The kind of a value is at fault, and not the value.
def Fault.IsKind (f : Fault) : Prop := f = .wrongKind ∨ f = .noMember

-- A text has no form in UTF-8.
def Fault.IsEncoding (f : Fault) : Prop := ∃ e, f = .encoding e

theorem Fault.IsKind.not_refusal {f : Fault} (kind : f.IsKind) : f.isRefusal = false := by
  rcases kind with rfl | rfl <;> rfl

theorem Fault.IsEncoding.not_refusal {f : Fault} (encoding : f.IsEncoding) : f.isRefusal = false := by
  obtain ⟨e, rfl⟩ := encoding
  rfl

section Selectors

variable {labels : Json} {f : Fault}

-- A key is looked up only after it was found.
theorem Requirement.isListed_kind {r : Requirement} (held : holds r.key labels = .ok true)
    (failed : r.isListed labels = .error f) : f.IsKind := by
  have looked : ∀ v, lists r.values v = .error f → f.IsKind := by
    intro v failed
    unfold lists at failed
    split at failed
    · cases failed
    · cases failed
      exact .inl rfl
  unfold isListed valueAt at failed
  cases labels with
  | obj fields =>
    cases found : Json.field? r.key fields with
    | none => simp [holds, found] at held
    | some v => exact looked v (by simpa [found] using failed)
  | _ =>
    cases failed
    exact .inl rfl

theorem Requirement.test_kind {r : Requirement} (failed : r.test labels = .error f) : f.IsKind := by
  unfold test at failed
  cases held : holds r.key labels with
  | error e =>
    rw [held] at failed
    cases failed
    unfold holds at held
    split at held <;> cases held
    exact .inl rfl
  | ok b =>
    simp only [held] at failed
    cases b with
    | false => cases operator : r.operator <;> simp [operator] at failed
    | true =>
      have listed := isListed_kind (f := f) held
      cases asked : r.isListed labels with
      | ok b => cases operator : r.operator <;> simp [operator, asked, Except.map] at failed
      | error e =>
        rw [asked] at listed
        cases operator : r.operator <;> simp [operator, asked, Except.map] at failed
        · exact failed ▸ listed (congrArg _ failed)
        · exact failed ▸ listed (congrArg _ failed)

theorem Requirement.testAll_kind {rs : List Requirement} (failed : testAll rs labels = .error f) :
    f.IsKind := by
  induction rs with
  | nil => cases failed
  | cons r rs ih =>
    unfold testAll at failed
    split at failed
    · rename_i e one
      cases failed
      exact test_kind one
    · cases failed
    · exact ih failed

theorem WeightRule.test_kind {r : WeightRule} (failed : r.test labels = .error f) :
    f.isValue = true ∨ f.IsKind := by
  unfold test at failed
  split at failed
  · cases failed
    exact .inr (.inr rfl)
  · rename_i s _
    unfold Selector.matchLabels at failed
    split at failed
    · cases failed
      exact .inl rfl
    · exact .inr (Requirement.testAll_kind failed)

-- The default weight stands in for a malformed selector.
theorem Weight.resolve_kind {p : Policy} (failed : (resolve p labels).1 = .error f) : f.IsKind := by
  have settled : ∀ rules : List WeightRule,
      (settle p.defaultWeight labels (rules.map fun r => (r, r.test labels))).1 = .error f →
        f.IsKind := by
    intro rules failed
    induction rules with
    | nil => cases failed
    | cons r rules ih =>
      rw [List.map_cons] at failed
      cases tested : r.test labels with
      | ok matched =>
        cases matched with
        | true => simp [tested, settle] at failed
        | false => exact ih (by simpa [tested, settle] using failed)
      | error e =>
        rcases WeightRule.test_kind tested with value | kind
        · simp [tested, settle, value] at failed
        · cases value : e.isValue with
          | true => simp [tested, settle, value] at failed
          | false =>
            simp only [tested, settle, value, Bool.false_eq_true, if_false] at failed
            cases failed
            exact kind
  exact settled p.rules failed

end Selectors

section Ledgers

variable {l : Ledger} {f : Fault}

theorem Json.itemList_kind {v : Json} (failed : v.itemList = .error f) : f.IsKind := by
  unfold itemList at failed
  split at failed
  · cases failed
  · cases failed
    exact .inl rfl

theorem Ledger.opening_kind {records : List Record} {current : List Nat}
    (failed : opening records current = .error f) : f.IsKind := by
  have pending : ∀ ids hs, pendingOf records ids hs = .error f → f.IsKind := by
    intro ids hs failed
    fun_induction pendingOf records ids hs with
    | case1 => cases failed
    | case2 hs id ids absent ih => exact ih failed
    | case3 hs id ids r there plain ih => exact ih failed
    | case4 hs id ids r there strange =>
      cases failed
      exact .inl rfl
  unfold opening at failed
  cases opened : pendingOf records current [] with
  | ok hs => simp [opened, Except.map] at failed
  | error e =>
    simp only [opened, Except.map, Except.error.injEq] at failed
    exact pending current [] (failed ▸ opened)

theorem Ledger.reuse_kind {id : Nat} {q : Request} (failed : (l.reuse id q).2 = .error f) :
    f.IsKind := by
  have renewed : ∀ l', l.renew id q = (l', some f) → f.IsKind := by
    intro l' failed
    unfold renew at failed
    split at failed
    · cases failed
    · rename_i r _
      rcases updated : r.update q.type q.targets q.ttl with ⟨r', fault⟩
      rw [updated] at failed
      obtain rfl : fault = some f := congrArg Prod.snd failed
      unfold Record.update at updated
      split at updated
      · rename_i e list
        cases updated
        exact Json.itemList_kind list
      · cases updated
  unfold reuse at failed
  split at failed
  · rename_i l' e done
    cases failed
    exact renewed l' done
  · cases failed

theorem Ledger.create_kind {q : Request} (failed : (l.create q).2 = .error f) : f.IsKind := by
  have made : Record.make q.name q.type q.targets q.ttl q.identifier .null .null = .error f →
      f.IsKind := by
    intro failed
    unfold Record.make at failed
    split at failed
    · rename_i e list
      cases failed
      exact Json.itemList_kind list
    · cases failed
  unfold create at failed
  split at failed
  · rename_i e refused
    cases failed
    exact made refused
  · cases failed

theorem Ledger.put_kind {q : Request} (failed : (l.put q).2 = .error f) : f.IsKind := by
  unfold put at failed
  split at failed
  · cases failed
    exact .inl rfl
  · split at failed
    · exact reuse_kind failed
    · split at failed
      · exact reuse_kind failed
      · exact create_kind failed

theorem Ledger.setAttributes_kind {id : Nat} {attributes : List (Json × Json)}
    (failed : (l.setAttributes id attributes).2 = some f) : f.IsKind := by
  have one : ∀ {l : Ledger} {name value : Json}, (l.setAttribute id name value).2 = some f →
      f.IsKind := by
    intro l name value failed
    unfold setAttribute at failed
    split at failed
    · cases failed
    · split at failed
      · rename_i e refused
        cases failed
        unfold Record.setAttribute at refused
        split at refused
        · cases refused
        · cases refused
          exact .inl rfl
      · cases failed
  fun_induction Ledger.setAttributes l id attributes with
  | case1 => cases failed
  | case2 l name value rest after e set =>
    cases failed
    exact one (congrArg Prod.snd set)
  | case3 l name value rest after set ih => exact ih failed

-- What one act can meet is what a whole plan can meet.
theorem Plan.runActs_kind {acts : List Act} (failed : (runActs l acts).2.1 = some f) : f.IsKind := by
  fun_induction runActs l acts with
  | case1 => cases failed
  | case2 l line acts after fault log run ih => exact ih (by simpa [run] using failed)
  | case3 l q attributes acts after e refused =>
    cases failed
    exact Ledger.put_kind (congrArg Prod.snd refused)
  | case4 l q attributes acts after id put marked e refused =>
    cases failed
    exact Ledger.setAttributes_kind (congrArg Prod.snd refused)
  | case5 l q attributes acts after id put marked set final fault log run ih =>
    exact ih (by simpa [run] using failed)

end Ledgers

namespace Synthesis

variable {p : Policy} {g : Gateway} {f : Fault}

theorem orderedIds_kind {records : List Record} {ids : List Nat}
    (failed : orderedIds records ids = .error f) : f.IsKind := by
  unfold orderedIds at failed
  dsimp only at failed
  split at failed
  · cases failed
  · cases failed
    exact .inl rfl

theorem geoCode_kind {labels : Json} (failed : geoCode labels = .error f) : f.IsKind := by
  unfold geoCode at failed
  split at failed <;> cases failed
  exact .inr rfl

theorem ofText_encoding {n : Int} {t : LooseText} (failed : ShortCode.ofText n t = .error f) :
    f.IsEncoding := by
  rcases ShortCode.ofText_cases n t with ⟨_, code, _, done⟩ | ⟨e, _, uncoded⟩
  · cases done.symm.trans failed
  · exact ⟨e, Except.error.inj (failed.symm.trans uncoded)⟩

theorem clusterActs_kind {balancer : String} (failed : clusterActs p g balancer = .error f) :
    f.IsKind ∨ f.IsEncoding := by
  unfold clusterActs clusterName at failed
  split at failed
  · cases failed
  · split at failed
    · rename_i e refused
      cases failed
      split at refused
      · split at refused
        · rename_i e uncoded
          cases refused
          exact .inr (ofText_encoding uncoded)
        · split at refused
          · rename_i e uncoded
            cases refused
            exact .inr (ofText_encoding uncoded)
          · cases refused
      · cases refused
        exact .inl (.inr rfl)
    · cases failed

theorem plan_kind {hostname : Json} {base : String} (known : p.isSimple = true ∨ p.isBalanced = true)
    (failed : (plan p g hostname base).fault = some f) : f.IsKind ∨ f.IsEncoding := by
  unfold plan at failed
  by_cases simple : p.isSimple = true
  · rw [if_pos simple] at failed
    cases failed
  · rw [if_neg simple, if_pos (known.resolve_left simple)] at failed
    unfold balancedPlan at failed
    dsimp only at failed
    split at failed
    · rename_i e unlocated
      cases failed
      exact .inl (geoCode_kind unlocated)
    · split at failed
      · rename_i e unclustered
        cases failed
        exact clusterActs_kind unclustered
      · split at failed
        · cases failed
        · unfold treeActs at failed
          rcases resolved : Weight.resolve p g.labels with ⟨result, log⟩
          cases result with
          | ok weight => simp [resolved] at failed
          | error e =>
            have kind := Weight.resolve_kind (congrArg Prod.fst resolved)
            simp only [resolved, Option.some.injEq] at failed
            exact .inl (failed ▸ kind)

-- With a hostname, current records and a policy that is not refused, only kinds are left to fail, and texts
-- that are to be hashed.
theorem publish_kind {hostname : Json} {base : String} {records : List Record} {current : List Nat}
    (left : listenerBase hostname = .ok base) (clear : p.refusal? = none)
    (known : p.isSimple = true ∨ p.isBalanced = true)
    (failed : (publish g hostname p records (some current)).published = .error f) :
    f.IsKind ∨ f.IsEncoding := by
  unfold publish at failed
  simp only [left, clear] at failed
  split at failed
  · rename_i e unopened
    cases failed
    exact .inl (Ledger.opening_kind unopened)
  · rename_i start _
    unfold carryOut at failed
    rcases run : (plan p g hostname base).run start with ⟨l, fault, log⟩
    unfold Plan.run at run
    cases fault with
    | none =>
      split at run
      · cases run
      · rename_i l' log' acts
        have done : (plan p g hostname base).fault = none := congrArg (·.2.1) run
        simp only [Plan.run, acts, done] at failed
        exact .inl (orderedIds_kind failed)
    | some e =>
      split at run
      · rename_i l' e' log' acts
        cases run
        simp only [Plan.run, acts, Except.error.injEq] at failed
        exact .inl (failed ▸ Plan.runActs_kind (congrArg (·.2.1) acts))
      · rename_i l' log' acts
        have met : (plan p g hostname base).fault = some e := congrArg (·.2.1) run
        simp only [Plan.run, acts, met, Except.error.injEq] at failed
        exact failed ▸ plan_kind known met

end Synthesis
end DnsSteering
