import DnsSteering.Proofs.Text.Loose
import DnsSteering.Proofs.Texts
import DnsSteering.Order
import Mathlib.Data.Prod.Lex
import Mathlib.Data.String.Basic

namespace DnsSteering

namespace Order

section Sorting

variable {α β : Type} [LinearOrder β] {key : α → β} {less : α → α → Bool}

theorem pairwise_insert {x : α} {xs : List α} (by_key : ∀ y ∈ xs, less x y = decide (key x < key y))
    (sorted : xs.Pairwise fun x y => key x ≤ key y) :
    (insert less x xs).Pairwise fun x y => key x ≤ key y := by
  induction xs with
  | nil => exact List.pairwise_singleton ..
  | cons y ys ih =>
    obtain ⟨first, rest⟩ := List.pairwise_cons.mp sorted
    have here : less x y = decide (key x < key y) := by_key y (List.mem_cons_self ..)
    unfold insert
    split
    · rename_i before
      have smaller : key x < key y := by simpa [here] using before
      refine List.pairwise_cons.mpr ⟨?_, sorted⟩
      intro z member
      rcases List.mem_cons.mp member with rfl | later
      · exact smaller.le
      · exact smaller.le.trans (first z later)
    · rename_i behind
      have notSmaller : key y ≤ key x := by simpa [here] using behind
      refine List.pairwise_cons.mpr ⟨?_, ih (fun z later => by_key z (List.mem_cons_of_mem _ later)) rest⟩
      intro z member
      rcases List.mem_cons.mp ((perm_insert less x ys).mem_iff.mp member) with rfl | later
      · exact notSmaller
      · exact first z later

theorem pairwise_sort (key : α → β) {xs : List α}
    (by_key : ∀ x ∈ xs, ∀ y ∈ xs, less x y = decide (key x < key y)) :
    (sort less xs).Pairwise fun x y => key x ≤ key y := by
  -- What is sorted already and what is still to be inserted stay within the list.
  have step : ∀ rest sorted : List α, (∀ x ∈ rest, x ∈ xs) → (∀ x ∈ sorted, x ∈ xs) →
      (sorted.Pairwise fun x y => key x ≤ key y) →
      (rest.foldl (fun sorted x => insert less x sorted) sorted).Pairwise
        fun x y => key x ≤ key y := by
    intro rest
    induction rest with
    | nil => intro sorted _ _ done; exact done
    | cons x rest ih =>
      intro sorted left inside done
      have member : x ∈ xs := left x (List.mem_cons_self ..)
      refine ih _ (fun y later => left y (List.mem_cons_of_mem _ later)) ?_
        (pairwise_insert (fun y old => by_key x member y (inside y old)) done)
      intro y held
      rcases List.mem_cons.mp ((perm_insert less x sorted).mem_iff.mp held) with rfl | old
      · exact member
      · exact inside y old
  exact step xs [] (fun _ member => member) (by simp) List.Pairwise.nil

end Sorting

theorem comparable_pairwise {α : Type} {less? : α → α → Option Bool} {xs : List α}
    (some : xs.Pairwise fun x y => (less? x y).isSome = true) : comparable less? xs = true := by
  induction xs with
  | nil => rfl
  | cons x xs ih =>
    obtain ⟨here, more⟩ := List.pairwise_cons.mp some
    have first : (xs.all fun y => (less? x y).isSome) = true := List.all_eq_true.mpr here
    simp [comparable, first, ih more]

-- Where all values can be compared, sorting succeeds.
theorem sort?_pairwise {α β : Type} [LinearOrder β] {orderly : α → Bool}
    {less? : α → α → Option Bool} (key : α → β) {xs : List α} (all : ∀ x ∈ xs, orderly x = true)
    (compared : xs.Pairwise fun x y => (less? x y).isSome = true)
    (by_key : ∀ x ∈ xs, ∀ y ∈ xs, (less? x y).getD false = decide (key x < key y)) :
    ∃ sorted, sort? orderly less? xs = some sorted ∧ sorted.Perm xs ∧
      sorted.Pairwise fun x y => key x ≤ key y := by
  have every : xs.all orderly = true := List.all_eq_true.mpr all
  have comparable := comparable_pairwise compared
  have done : sort? orderly less? xs = some (sort (fun x y => (less? x y).getD false) xs) := by
    simp [sort?, every, comparable]
  exact ⟨_, done, perm_sort _ xs, pairwise_sort key by_key⟩

theorem pairwise_insertText {s : String} {ss : List String} (sorted : ss.Pairwise (· < ·)) :
    (insertText s ss).Pairwise (· < ·) := by
  induction ss with
  | nil => exact List.pairwise_singleton ..
  | cons t ts ih =>
    obtain ⟨first, rest⟩ := List.pairwise_cons.mp sorted
    unfold insertText
    split
    · rename_i before
      refine List.pairwise_cons.mpr ⟨?_, sorted⟩
      intro u member
      rcases List.mem_cons.mp member with rfl | later
      · exact before
      · exact lt_trans before (first u later)
    · rename_i behind
      split
      · exact sorted
      · rename_i other
        refine List.pairwise_cons.mpr ⟨?_, ih rest⟩
        intro u member
        rcases mem_insertText.mp member with rfl | later
        · exact lt_of_le_of_ne (not_lt.mp behind) (Ne.symm other)
        · exact first u later

theorem pairwise_ascending (ss : List String) : (ascending ss).Pairwise (· < ·) := by
  induction ss with
  | nil => exact List.Pairwise.nil
  | cons s ss ih => exact pairwise_insertText ih

end Order

-- The text that a value is, and no text for any other.
def Json.textOf : Json → LooseText
  | .str t => t
  | _ => ""

theorem Json.IsText.str_textOf {v : Json} (text : v.IsText) : .str v.textOf = v := by
  obtain ⟨t, rfl⟩ := text
  rfl

-- Where a slot stands among others: name, set identifier and type as text, each by code point.
def Slot.rank (s : Slot) : LooseText ×ₗ LooseText ×ₗ String :=
  toLex (s.name.textOf, toLex (s.identifier.textOf, s.type.text))

def Record.rank (r : Record) : LooseText ×ₗ LooseText ×ₗ String := r.slot.rank

-- Types of published records are told apart by their texts.
theorem Slot.rank_injective {s t : Slot} (one : s.IsText) (two : t.IsText)
    (type : s.type = .a ∨ s.type = .cname) (type' : t.type = .a ∨ t.type = .cname)
    (same : s.rank = t.rank) : s = t := by
  have parts := congrArg ofLex same
  simp only [Slot.rank, ofLex_toLex, Prod.mk.injEq, EmbeddingLike.apply_eq_iff_eq] at parts
  obtain ⟨names, identifiers, types⟩ := parts
  have name : s.name = t.name := by
    rw [← one.name.str_textOf, ← two.name.str_textOf, names]
  have identifier : s.identifier = t.identifier := by
    rw [← one.identifier.str_textOf, ← two.identifier.str_textOf, identifiers]
  have different : RecordType.a.text ≠ RecordType.cname.text := by decide
  refine Slot.Alike.eq_of_type ⟨name, identifier⟩ ?_
  rcases type with left | left <;> rcases type' with right | right <;> rw [left, right] at types ⊢
  · exact absurd types different
  · exact absurd types.symm different

theorem Record.less?_rank {r s : Record} (one : r.IsText) (two : s.IsText) :
    r.less? s = some (decide (r.rank < s.rank)) := by
  obtain ⟨_, type, targets, ttl, _, attributes, labels⟩ := r
  obtain ⟨_, type', targets', ttl', _, attributes', labels'⟩ := s
  obtain ⟨⟨rn, name⟩, ⟨ri, identifier⟩⟩ := one
  obtain ⟨⟨sn, name'⟩, ⟨si, identifier'⟩⟩ := two
  simp only [Record.slot] at name identifier name' identifier'
  subst name identifier name' identifier'
  unfold Record.less? Record.rank Slot.rank
  simp only [Record.slot, Json.textOf, Prod.Lex.toLex_lt_toLex]
  by_cases names : rn = sn
  · subst names
    by_cases identifiers : ri = si
    · subst identifiers
      simp [Json.same]
    · simp [Json.same, Json.less?, identifiers]
  · have apart : (Json.str rn).same (.str sn) = false := by simpa [Json.same] using names
    simp [apart, Json.less?, names]

end DnsSteering
