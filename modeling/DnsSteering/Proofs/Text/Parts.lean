import DnsSteering.Text.Split
import Mathlib.Algebra.BigOperators.Group.List.Basic
import Mathlib.Algebra.GroupWithZero.Nat

namespace DnsSteering

-- A separator that occurs in the parts as well leaves open where the parts meet.
theorem append_separator_eq_iff {α : Type} {sep : α} {a b c d : List α} :
    a ++ sep :: b = c ++ sep :: d ↔ (a = c ∧ b = d) ∨
      (∃ m, c = a ++ sep :: m ∧ b = m ++ sep :: d) ∨
      (∃ m, a = c ++ sep :: m ∧ d = m ++ sep :: b) := by
  constructor
  · intro same
    rcases List.append_eq_append_iff.mp same with ⟨m, longer, rest⟩ | ⟨m, longer, rest⟩
    · cases m with
      | nil =>
        left
        simp_all
      | cons s m =>
        obtain ⟨rfl, tail⟩ := List.cons.inj rest
        exact .inr (.inl ⟨m, longer, tail⟩)
    · cases m with
      | nil =>
        left
        simp_all
      | cons s m =>
        obtain ⟨rfl, tail⟩ := List.cons.inj rest
        exact .inr (.inr ⟨m, longer, tail⟩)
  · rintro (⟨rfl, rfl⟩ | ⟨m, rfl, rfl⟩ | ⟨m, rfl, rfl⟩)
    · rfl
    · simp
    · simp

-- Where the first part is free of the separator, the parts are told apart.
theorem append_separator_inj {α : Type} {sep : α} {a b c d : List α} (here : sep ∉ a) (there : sep ∉ c)
    (same : a ++ sep :: b = c ++ sep :: d) : a = c ∧ b = d := by
  rcases append_separator_eq_iff.mp same with parts | ⟨m, rfl, _⟩ | ⟨m, rfl, _⟩
  · exact parts
  · exact absurd (by simp) there
  · exact absurd (by simp) here

namespace Text

-- What is tested character by character holds of every one of them.
theorem forall_of_all {P : Char → Prop} [DecidablePred P] {cs : List Char}
    (tested : (cs.all fun c => P c) = true) : ∀ c ∈ cs, P c := fun c listed =>
  of_decide_eq_true (List.all_eq_true.mp tested c listed)

section Parts

variable {separator c : Char} {cs part : List Char}

theorem mem_join {parts : List (List Char)} (listed : c ∈ join separator parts) :
    c = separator ∨ ∃ part ∈ parts, c ∈ part := by
  fun_induction join separator parts with
  | case1 => cases listed
  | case2 part => exact .inr ⟨part, by simp, listed⟩
  | case3 part parts more ih =>
    rcases List.mem_append.mp listed with here | later
    · exact .inr ⟨part, by simp, here⟩
    · rcases List.mem_cons.mp later with same | later
      · exact .inl same
      · rcases ih later with same | ⟨other, member, inside⟩
        · exact .inl same
        · exact .inr ⟨other, List.mem_cons_of_mem _ member, inside⟩

theorem mem_join_of_part {parts : List (List Char)} (member : part ∈ parts) (inside : c ∈ part) :
    c ∈ join separator parts := by
  fun_induction join separator parts with
  | case1 => cases member
  | case2 other =>
    rw [List.mem_singleton.mp member] at inside
    exact inside
  | case3 other parts more ih =>
    rcases List.mem_cons.mp member with rfl | later
    · exact List.mem_append_left _ inside
    · exact List.mem_append_right _ (List.mem_cons_of_mem _ (ih later))

theorem part_of_mem (listed : c ∈ cs) : c = separator ∨ ∃ part ∈ split separator cs, c ∈ part := by
  rw [← join_split separator cs] at listed
  exact mem_join listed

theorem mem_of_part (member : part ∈ split separator cs) (inside : c ∈ part) : c ∈ cs := by
  rw [← join_split separator cs]
  exact mem_join_of_part member inside

-- The parts on both sides of a separator.
theorem split_separated (separator : Char) (front cs : List Char) :
    split separator (front ++ separator :: cs) = split separator front ++ split separator cs := by
  induction front with
  | nil => simp [split]
  | cons c front ih =>
    rw [List.cons_append, split, split, ih]
    by_cases same : c = separator
    · rw [if_pos same, if_pos same, List.cons_append]
    · rw [if_neg same, if_neg same]
      obtain ⟨part, parts, rest⟩ := List.exists_cons_of_ne_nil (split_ne_nil separator front)
      simp [rest]

theorem split_single (free : separator ∉ cs) : split separator cs = [cs] := by
  induction cs with
  | nil => rfl
  | cons c cs ih =>
    have other : c ≠ separator := fun same => free (by simp [same])
    rw [split, if_neg other, ih fun member => free (List.mem_cons_of_mem _ member)]

theorem split_append (separator : Char) {front : List Char} (free : separator ∉ front)
    (cs : List Char) : split separator (front ++ separator :: cs) = front :: split separator cs := by
  rw [split_separated, split_single free, List.singleton_append]

theorem split_first (separator : Char) (cs : List Char) :
    ∃ parts, split separator cs = cs.takeWhile (· ≠ separator) :: parts := by
  induction cs with
  | nil => exact ⟨[], rfl⟩
  | cons c cs ih =>
    obtain ⟨parts, rest⟩ := ih
    rw [split]
    by_cases same : c = separator
    · exact ⟨split separator cs, by simp [same]⟩
    · exact ⟨parts, by simp [same, rest]⟩

theorem split_prepend {front : List Char} (free : separator ∉ front) {parts : List (List Char)}
    (rest : split separator cs = part :: parts) :
    split separator (front ++ cs) = (front ++ part) :: parts := by
  induction front with
  | nil => exact rest
  | cons c front ih =>
    have other : c ≠ separator := fun same => free (by simp [same])
    have more := ih fun member => free (List.mem_cons_of_mem _ member)
    rw [List.cons_append, split, if_neg other, more]
    rfl

-- Characters that are replaced one by one, and separators by themselves, leave the parts where they are.
theorem split_flatMap {f : Char → List Char} (same : f separator = [separator])
    (free : ∀ c ∈ cs, c ≠ separator → separator ∉ f c) :
    split separator (cs.flatMap f) = (split separator cs).map fun part => part.flatMap f := by
  induction cs with
  | nil => rfl
  | cons c cs ih =>
    have rest := ih fun d listed => free d (List.mem_cons_of_mem _ listed)
    rw [split, List.flatMap_cons]
    by_cases stop : c = separator
    · rw [if_pos stop, stop, same, List.singleton_append, split, if_pos rfl, rest]
      rfl
    · have inside := free c (List.mem_cons_self ..) stop
      obtain ⟨part, parts, whole⟩ := List.exists_cons_of_ne_nil (split_ne_nil separator cs)
      rw [whole] at rest
      rw [if_neg stop, whole]
      exact split_prepend inside rest

theorem takeWhile_separated (front cs ds : List Char) :
    (front ++ separator :: cs).takeWhile (· ≠ separator) =
      (front ++ separator :: ds).takeWhile (· ≠ separator) := by
  induction front with
  | nil => simp
  | cons c front ih => simp only [List.cons_append, List.takeWhile_cons, ih]

theorem parted_of_mem (member : separator ∈ cs) :
    ∃ rest, cs = cs.takeWhile (· ≠ separator) ++ separator :: rest := by
  obtain ⟨front, rest, written, free⟩ := List.eq_append_cons_of_mem member
  refine ⟨rest, ?_⟩
  have first : cs.takeWhile (· ≠ separator) = front := by
    have other : ∀ c ∈ front, decide (c ≠ separator) = true := by
      intro c listed
      refine decide_eq_true ?_
      rintro rfl
      exact free listed
    rw [written, List.takeWhile_append_of_pos other]
    simp
  rw [first]
  exact written

-- One character more than there are in a part stands for every part, but for the last one.
theorem length_parts (separator : Char) (cs : List Char) :
    ((split separator cs).map fun part => part.length + 1).sum = cs.length + 1 := by
  induction cs with
  | nil => rfl
  | cons c cs ih =>
    rw [split]
    by_cases same : c = separator
    · rw [if_pos same, List.map_cons, List.sum_cons, ih]
      simp
      omega
    · rw [if_neg same]
      obtain ⟨part, parts, rest⟩ := List.exists_cons_of_ne_nil (split_ne_nil separator cs)
      rw [rest, List.map_cons, List.sum_cons] at ih
      simp only [rest, List.map_cons, List.sum_cons, List.length_cons]
      omega

theorem length_split (separator : Char) (cs : List Char) :
    (split separator cs).length = cs.count separator + 1 := by
  induction cs with
  | nil => rfl
  | cons c cs ih =>
    rw [split]
    by_cases same : c = separator
    · simp [same, ih]
    · obtain ⟨part, parts, rest⟩ := List.exists_cons_of_ne_nil (split_ne_nil separator cs)
      rw [rest] at ih
      simpa [same, rest] using ih

end Parts
end Text
end DnsSteering
