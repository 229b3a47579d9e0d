import DnsSteering.Proofs.Selector
import DnsSteering.Weight

namespace DnsSteering

theorem Selector.matchLabels_text {labels : Json} (text : TextLabels labels) (s : Selector) :
    (∃ b, s.matchLabels labels = .ok b) ∨
      ∃ f, s.matchLabels labels = .error (.value (.selector f)) := by
  by_cases malformed : s.Malformed
  · obtain ⟨f, failed⟩ := matchLabels_malformed malformed
    exact .inr ⟨f, failed labels⟩
  · obtain ⟨fields, rfl, textual⟩ := text
    obtain ⟨b, done, _⟩ := matchLabels_formed malformed textual
    exact .inl ⟨b, done⟩

namespace Weight

theorem settle_some {fallback labels : Json} {tested : List (WeightRule × Except Fault Bool)}
    (absorbed : ∀ t ∈ tested, ∀ f, t.2 = .error f → f.isValue = true) :
    ∃ weight, (settle fallback labels tested).1 = .ok weight := by
  induction tested with
  | nil => exact ⟨fallback, rfl⟩
  | cons t tested ih =>
    obtain ⟨r, result⟩ := t
    cases result with
    | error f =>
      have value : f.isValue = true := absorbed _ (List.mem_cons_self ..) f rfl
      exact ⟨fallback, by simp [settle, value]⟩
    | ok matched =>
      cases matched with
      | true => exact ⟨r.weight, by simp [settle]⟩
      | false => simpa [settle] using ih fun t member => absorbed t (List.mem_cons_of_mem _ member)

-- A weight is always found, provided that every rule has a selector, malformed or not.
theorem resolve_some {p : Policy} {labels : Json} (text : TextLabels labels)
    (given : ∀ r ∈ p.rules, r.selector ≠ none) : ∃ weight, (resolve p labels).1 = .ok weight := by
  refine settle_some ?_
  intro t member f failed
  obtain ⟨r, listed, rfl⟩ := List.mem_map.mp member
  cases selector : r.selector with
  | none => exact absurd selector (given r listed)
  | some s =>
    simp only [WeightRule.test, selector] at failed
    rcases s.matchLabels_text text with ⟨b, matched⟩ | ⟨fault, malformed⟩
    · rw [matched] at failed
      cases failed
    · rw [malformed] at failed
      cases failed
      rfl

end Weight
end DnsSteering
