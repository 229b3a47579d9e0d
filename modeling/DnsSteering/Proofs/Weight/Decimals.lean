import DnsSteering.Proofs.Config
import DnsSteering.Proofs.Json.Numbers
import DnsSteering.Proofs.Policy
import DnsSteering.Weight

namespace DnsSteering

namespace Binary64

theorem point_mem_positional (digits : List Char) (point : Int) : '.' ∈ positional digits point := by
  unfold positional
  split
  · simp
  · split <;> simp

theorem mem_signed {negative : Bool} {P : Char → Prop} {body : List Char} (some : ∃ c ∈ body, P c) :
    ∃ c ∈ (String.ofList (if negative then '-' :: body else body)).toList, P c := by
  obtain ⟨c, listed, holds⟩ := some
  refine ⟨c, ?_, holds⟩
  rw [String.toList_ofList]
  cases negative
  · exact listed
  · exact List.mem_cons_of_mem _ listed

-- No double is shown without a letter or a point.
theorem text_unlike (x : Binary64) : ∃ c ∈ x.text.toList, c.isDigit = false ∧ c ≠ '-' := by
  cases x with
  | nan => exact ⟨'n', by decide⟩
  | infinite negative => cases negative <;> exact ⟨'i', by decide⟩
  | finite negative m e =>
    unfold text
    refine mem_signed ?_
    split
    · exact ⟨'.', by simp, by decide⟩
    · dsimp only
      split
      · exact ⟨'.', point_mem_positional _ _, by decide⟩
      · exact ⟨'e', by simp [scientific], by decide⟩

end Binary64

namespace Json

theorem quoted_unlike {v : Json} (other : ∀ n, v ≠ .int n) (untext : ¬ v.IsText) :
    ∃ c ∈ v.quoted.toList, c.isDigit = false ∧ c ≠ '-' := by
  cases v with
  | null => exact ⟨'N', by decide⟩
  | bool b => cases b <;> exact ⟨'e', by decide⟩
  | int n => exact absurd rfl (other n)
  | float x => exact x.text_unlike
  | str s => exact absurd ⟨s, rfl⟩ untext
  | arr items => exact ⟨'[', by simp [quoted], by decide⟩
  | obj fields => exact ⟨'\x7b', by simp [quoted], by decide⟩

-- What is shown as a whole number is that number, or its text.
theorem display_whole {v : Json} {n : Int} :
    v.display = .plain (toString n) ↔ v = .int n ∨ v = .str (toString n) := by
  have unlike : (∀ m, v ≠ .int m) → ¬ v.IsText → v.display = .plain v.quoted →
      v.display ≠ .plain (toString n) := by
    intro other untext bare same
    obtain ⟨c, listed, digit, minus⟩ := quoted_unlike other untext
    rw [bare] at same
    rw [LooseText.plain.inj same] at listed
    rcases toString_chars n c listed with is | is
    · rw [is] at digit
      cases digit
    · exact minus is
  cases v with
  | int m =>
    constructor
    · intro same
      exact .inl (congrArg _ (toString_inj (LooseText.plain.inj same)))
    · rintro (same | same)
      · cases same
        rfl
      · cases same
  | str s =>
    constructor
    · intro same
      exact .inr (congrArg _ same)
    · rintro (same | same)
      · cases same
      · exact Json.str.inj same
  | _ =>
    constructor
    · intro same
      exact absurd same (unlike (by simp) (by simp [IsText]) rfl)
    · rintro (same | same) <;> cases same

end Json

namespace Weight

variable {p : Policy} {labels fallback weight : Json}

theorem settle_drawn {tested : List (WeightRule × Except Fault Bool)}
    (done : (settle fallback labels tested).1 = .ok weight) :
    weight = fallback ∨ ∃ t ∈ tested, t.1.weight = weight := by
  induction tested with
  | nil => exact .inl (Except.ok.inj done).symm
  | cons t tested ih =>
    obtain ⟨r, f | matched⟩ := t
    · unfold settle at done
      split at done
      · exact .inl (Except.ok.inj done).symm
      · cases done
    · cases matched with
      | true => exact .inr ⟨_, List.mem_cons_self .., Except.ok.inj done⟩
      | false => exact (ih done).imp_right fun ⟨t, member, same⟩ => ⟨t, List.mem_cons_of_mem _ member, same⟩

theorem resolve_drawn (done : (resolve p labels).1 = .ok weight) :
    weight = p.defaultWeight ∨ ∃ r ∈ p.rules, r.weight = weight := by
  rcases settle_drawn done with default | ⟨t, member, same⟩
  · exact .inl default
  · obtain ⟨r, listed, rfl⟩ := List.mem_map.mp member
    exact .inr ⟨r, listed, same⟩

end Weight

-- A text of a whole number other than zero.
def Json.IsDecimal (v : Json) : Prop := ∃ n : Int, n ≠ 0 ∧ v = .str (toString n)

-- A default weight that is such a number, or such a text.
def Policy.Countable (p : Policy) : Prop :=
  ∃ n : Int, n ≠ 0 ∧ (p.defaultWeight = .int n ∨ p.defaultWeight = .str (toString n))

-- A weight is shown as a number other than zero where a rule gave it, and otherwise if the default is.
theorem Weight.resolve_decimal {p : Policy} {labels weight : Json} (accepted : p.refusal? = none)
    (other : ¬ p.isSimple = true) (whole : ∀ r ∈ p.rules, ∃ n, r.weight = .int n)
    (done : (resolve p labels).1 = .ok weight) :
    (Json.str weight.display).IsDecimal ↔ (∃ r ∈ p.rules, r.weight = weight) ∨ p.Countable := by
  have shown : (Json.str weight.display).IsDecimal ↔
      ∃ n : Int, n ≠ 0 ∧ (weight = .int n ∨ weight = .str (toString n)) := by
    simp only [Json.IsDecimal, Json.str.injEq, Json.display_whole]
  have ruled : (∃ r ∈ p.rules, r.weight = weight) → (Json.str weight.display).IsDecimal := by
    rintro ⟨r, listed, rfl⟩
    obtain ⟨n, weight⟩ := whole r listed
    have zero : n ≠ 0 := by
      rintro rfl
      have passed := (Policy.accepted_clear accepted other).2 r listed
      simp [WeightRule.refusal?, weight, Json.same_zero, Json.IsZero] at passed
    exact shown.mpr ⟨n, zero, .inl weight⟩
  constructor
  · intro decimal
    rcases resolve_drawn done with default | rule
    · right
      rw [Policy.Countable, ← default]
      exact shown.mp decimal
    · exact .inl rule
  · rintro (rule | countable)
    · exact ruled rule
    · rcases resolve_drawn done with default | rule
      · rw [Policy.Countable, ← default] at countable
        exact shown.mpr countable
      · exact ruled rule

end DnsSteering
