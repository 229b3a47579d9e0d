import DnsSteering.Proofs.Text.Parts
import DnsSteering.Proofs.Text.Table
import DnsSteering.Text.Lowercase

namespace DnsSteering.Text

theorem ascii_forall {P : Char → Prop} (every : ∀ n < 128, P (Char.ofNat n)) {c : Char}
    (ascii : c.toNat < 128) : P c := by
  rw [← Char.ofNat_toNat c]
  exact every c.toNat ascii

section Characters

variable {c d : Char}

theorem toLower_ascii (ascii : c.toNat < 128) :
    c.toLower.toNat < 128 ∧ c.toLower.toLower = c.toLower ∧ (c.toLower = '.' → c = '.') :=
  ascii_forall (P := fun c =>
    c.toLower.toNat < 128 ∧ c.toLower.toLower = c.toLower ∧ (c.toLower = '.' → c = '.')) (by decide) ascii

-- Small forms are no ASCII characters, that of the Kelvin sign apart.
theorem small_form {n m : Nat} (found : Table.shift? smallTable n = some m) :
    (128 ≤ m ∨ m = 0x6B) ∧ (Char.ofNat m).toNat = m := by
  have rows : ∀ r ∈ smallTable, (128 ≤ r.image ∨ r.image = 0x6B ∧ r.first = r.last) ∧
      (r.image + (r.last - r.first) < 0xD800 ∨
        0xDFFF < r.image ∧ r.image + (r.last - r.first) < 0x110000) := by decide +kernel
  obtain ⟨r, listed, here⟩ := List.exists_of_findSome?_eq_some found
  obtain ⟨outside, valid⟩ := rows r listed
  unfold Table.Run.image? at here
  split at here
  · rename_i inside
    simp only [Bool.and_eq_true, decide_eq_true_eq] at inside
    have shifted := Option.some.inj here
    have isChar : m.isValidChar := by
      unfold Nat.isValidChar
      omega
    refine ⟨by omega, ?_⟩
    rw [Char.ofNat, dif_pos isChar]
    rfl
  · cases here

theorem lowerChar_ascii (listed : d ∈ lowerChar c) (ascii : d.toNat < 128) :
    (c.toNat < 128 ∧ d = c.toLower) ∨ (128 ≤ c.toNat ∧ (d = 'i' ∨ d = 'k')) := by
  unfold lowerChar at listed
  split at listed
  · rename_i small
    exact .inl ⟨small, List.mem_singleton.mp listed⟩
  · rename_i large
    refine .inr ⟨by omega, ?_⟩
    split at listed
    · have dotted : (Char.ofNat 0x307).toNat = 0x307 := by decide
      rcases List.mem_cons.mp listed with letter | mark
      · exact .inl letter
      · rw [List.mem_singleton.mp mark, dotted] at ascii
        omega
    · have code := List.mem_singleton.mp listed
      cases found : Table.shift? smallTable c.toNat with
      | none =>
        rw [found, Option.getD_none, Char.ofNat_toNat] at code
        rw [code] at ascii
        exact absurd ascii large
      | some m =>
        rw [found, Option.getD_some] at code
        obtain ⟨outside, valid⟩ := small_form found
        rw [code, valid] at ascii
        rcases outside with beyond | kelvin
        · omega
        · exact .inr (by rw [code, kelvin])

-- An ASCII character of a text in lower case is small, and a full stop only where there was one.
theorem lowerChar_small (listed : d ∈ lowerChar c) (ascii : d.toNat < 128) :
    d.toLower = d ∧ (d = '.' → c = '.') := by
  rcases lowerChar_ascii listed ascii with ⟨small, rfl⟩ | ⟨_, rfl | rfl⟩
  · exact (toLower_ascii small).2
  · exact ⟨by decide, fun same => absurd same (by decide)⟩
  · exact ⟨by decide, fun same => absurd same (by decide)⟩

theorem dot_notMem_lowerChar (other : c ≠ '.') : '.' ∉ lowerChar c := fun listed =>
  other ((lowerChar_small listed (by decide)).2 rfl)

-- A small sigma stands where a sigma was, and no sigma is skipped.
theorem lowerChar_sigma (listed : 'σ' ∈ lowerChar c) : isSkipped c = false := by
  have sources : smallTable.flatMap (fun r => r.source 'σ'.toNat) = ['Σ'.toNat] := by decide +kernel
  have unskipped : isSkipped 'σ' = false ∧ isSkipped 'Σ' = false := by decide +kernel
  unfold lowerChar at listed
  split at listed
  · rename_i ascii
    have small := (toLower_ascii ascii).1
    rw [← List.mem_singleton.mp listed] at small
    exact absurd small (by decide)
  · split at listed
    · exact absurd listed (by decide)
    · have code := List.mem_singleton.mp listed
      cases found : Table.shift? smallTable c.toNat with
      | none =>
        rw [found, Option.getD_none, Char.ofNat_toNat] at code
        rw [← code]
        exact unskipped.1
      | some m =>
        rw [found, Option.getD_some] at code
        have source := Table.mem_sources found
        rw [← (small_form found).2, ← code, sources] at source
        rw [Char.toNat_inj.mp (List.mem_singleton.mp source)]
        exact unskipped.2

theorem sigma_cased : isSkipped 'Σ' = false ∧ isCased 'Σ' = true := by decide +kernel

end Characters

section Texts

variable {cs ds front : List Char} {after : Bool}

theorem lowerFrom_other {c : Char} (other : c ≠ 'Σ') :
    lowerFrom after (c :: cs) = lowerChar c ++ lowerFrom (if isSkipped c then after else isCased c) cs := by
  have code : c.toNat ≠ 0x3A3 := fun same => other (Char.toNat_inj.mp same)
  rw [lowerFrom, if_neg code]

theorem lowerFrom_sigma :
    lowerFrom after ('Σ' :: cs) =
      (if after && !startsCased cs then 'ς' else 'σ') :: lowerFrom true cs := by
  have code : 'Σ'.toNat = 0x3A3 := rfl
  rw [lowerFrom, if_pos code, sigma_cased.1, sigma_cased.2]
  rfl

-- A text without a capital sigma is written character by character.
theorem lowerFrom_flatMap (none : 'Σ' ∉ cs) : lowerFrom after cs = cs.flatMap lowerChar := by
  induction cs generalizing after with
  | nil => rfl
  | cons c cs ih =>
    have other : c ≠ 'Σ' := fun same => none (by simp [same])
    rw [lowerFrom_other other, ih fun listed => none (List.mem_cons_of_mem _ listed), List.flatMap_cons]

theorem mem_lowerFrom {d : Char} (listed : d ∈ lowerFrom after cs) :
    (∃ c ∈ cs, d ∈ lowerChar c) ∨ d = 'ς' ∨ d = 'σ' := by
  induction cs generalizing after with
  | nil => cases listed
  | cons c cs ih =>
    have later : ∀ {after}, d ∈ lowerFrom after cs →
        (∃ e ∈ c :: cs, d ∈ lowerChar e) ∨ d = 'ς' ∨ d = 'σ' := by
      intro after there
      rcases ih there with ⟨e, member, image⟩ | sigma
      · exact .inl ⟨e, List.mem_cons_of_mem _ member, image⟩
      · exact .inr sigma
    by_cases capital : c = 'Σ'
    · rw [capital, lowerFrom_sigma] at listed
      rcases List.mem_cons.mp listed with here | there
      · split at here
        · exact .inr (.inl here)
        · exact .inr (.inr here)
      · exact later there
    · rw [lowerFrom_other capital] at listed
      rcases List.mem_append.mp listed with here | there
      · exact .inl ⟨c, List.mem_cons_self .., here⟩
      · exact later there

-- There is no capital sigma in a text that is ASCII in lower case.
theorem sigma_notMem (ascii : ∀ d ∈ lowerFrom after cs, d.toNat < 128) : 'Σ' ∉ cs := by
  induction cs generalizing after with
  | nil => simp
  | cons c cs ih =>
    by_cases capital : c = 'Σ'
    · rw [capital, lowerFrom_sigma] at ascii
      have first := ascii _ (List.mem_cons_self ..)
      split at first <;> exact absurd first (by decide)
    · rw [lowerFrom_other capital] at ascii
      have rest := ih fun d listed => ascii d (List.mem_append_right _ listed)
      simpa [rest] using fun same => capital same.symm

theorem lowerFrom_skipped (skipped : ∀ c ∈ front, isSkipped c = true) :
    lowerFrom after (front ++ cs) = front.flatMap lowerChar ++ lowerFrom after cs := by
  induction front with
  | nil => rfl
  | cons c front ih =>
    have here := skipped c (List.mem_cons_self ..)
    have other : c ≠ 'Σ' := by
      rintro rfl
      rw [sigma_cased.1] at here
      cases here
    rw [List.cons_append, lowerFrom_other other, here, if_pos rfl,
      ih fun d listed => skipped d (List.mem_cons_of_mem _ listed), List.flatMap_cons, List.append_assoc]

-- The first letter of the text is a capital sigma, and the next thing after that no letter.
def LedBySigma (cs : List Char) : Prop :=
  ∃ front back, cs = front ++ 'Σ' :: back ∧ (∀ c ∈ front, isSkipped c = true) ∧
    startsCased back = false

theorem lowerFrom_led (led : LedBySigma cs) : ∃ front back, 'σ' ∉ front ∧
    lowerFrom false cs = front ++ 'σ' :: back ∧ lowerFrom true cs = front ++ 'ς' :: back := by
  obtain ⟨front, back, rfl, skipped, final⟩ := led
  refine ⟨front.flatMap lowerChar, lowerFrom true back, ?_, ?_, ?_⟩
  · intro listed
    obtain ⟨c, member, image⟩ := List.mem_flatMap.mp listed
    have here := skipped c member
    rw [lowerChar_sigma image] at here
    cases here
  · rw [lowerFrom_skipped skipped, lowerFrom_sigma]
    rfl
  · rw [lowerFrom_skipped skipped, lowerFrom_sigma, final]
    rfl

theorem lowerFrom_not_led (free : ¬ LedBySigma cs) : lowerFrom true cs = lowerFrom false cs := by
  induction cs with
  | nil => rfl
  | cons c cs ih =>
    by_cases capital : c = 'Σ'
    · subst capital
      have next : startsCased cs = true := by
        by_contra other
        exact free ⟨[], cs, rfl, by simp, by simpa using other⟩
      rw [lowerFrom_sigma, lowerFrom_sigma, next]
      rfl
    · rw [lowerFrom_other capital, lowerFrom_other capital]
      by_cases skipped : isSkipped c = true
      · have more : ¬ LedBySigma cs := by
          rintro ⟨front, back, rfl, before, final⟩
          exact free ⟨c :: front, back, rfl, by simpa [skipped] using before, final⟩
        rw [if_pos skipped, if_pos skipped, ih more]
      · rw [if_neg skipped, if_neg skipped]

-- Of two texts that are the same in lower case, both are the same behind a word, or one of them alone
-- is led by a sigma.
theorem lowerFrom_true_iff (same : lowerFrom false cs = lowerFrom false ds) :
    lowerFrom true cs = lowerFrom true ds ↔ (LedBySigma cs ↔ LedBySigma ds) := by
  have differs : ∀ {es}, LedBySigma es → lowerFrom true es ≠ lowerFrom false es := by
    intro es led equal
    obtain ⟨front, back, _, plain, final⟩ := lowerFrom_led led
    rw [plain, final] at equal
    have heads := (List.cons.inj (List.append_cancel_left equal)).1
    exact absurd heads (by decide)
  by_cases one : LedBySigma cs
  · by_cases two : LedBySigma ds
    · refine iff_of_true ?_ (iff_of_true one two)
      obtain ⟨front, back, free, plain, final⟩ := lowerFrom_led one
      obtain ⟨front', back', free', plain', final'⟩ := lowerFrom_led two
      rw [plain, plain'] at same
      obtain ⟨rfl, rfl⟩ := append_separator_inj free free' same
      rw [final, final']
    · refine iff_of_false ?_ fun both => two (both.mp one)
      rw [lowerFrom_not_led two, ← same]
      exact differs one
  · by_cases two : LedBySigma ds
    · refine iff_of_false ?_ fun both => one (both.mpr two)
      rw [lowerFrom_not_led one, same]
      exact fun equal => differs two equal.symm
    · refine iff_of_true ?_ (iff_of_false one two)
      rw [lowerFrom_not_led one, lowerFrom_not_led two, same]

-- Lower case keeps dots.
theorem count_lowerFrom (after : Bool) (cs : List Char) :
    cs.count '.' ≤ (lowerFrom after cs).count '.' := by
  induction cs generalizing after with
  | nil => exact Nat.le_refl _
  | cons c cs ih =>
    unfold lowerFrom
    simp only [List.count_cons, List.count_append]
    refine Nat.le_trans (Nat.add_comm _ _).le (Nat.add_le_add ?_ (ih _))
    by_cases dot : c = '.'
    · subst dot
      exact show 1 ≤ (lowerChar '.').count '.' by decide
    · simp [dot]

theorem count_lower (s : String) : s.toList.count '.' ≤ (lower s).toList.count '.' := by
  rw [lower, String.toList_ofList]
  exact count_lowerFrom false s.toList

end Texts
end DnsSteering.Text
