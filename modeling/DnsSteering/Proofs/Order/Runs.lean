import DnsSteering.Order
import Mathlib.Algebra.BigOperators.Group.List.Basic
import Mathlib.Algebra.Order.Group.Multiset
import Mathlib.Tactic.Abel

namespace DnsSteering.Order.Runs

variable {α : Type} {less? : α → α → Option Bool}

-- Every step moves values from one place to another, so what all places hold together stays the same.
-- What is in a place, without its order.
def bag (xs : Array α) : Multiset α := xs.toList

@[simp] theorem bag_empty : bag (#[] : Array α) = 0 := rfl

@[simp] theorem bag_append (xs ys : Array α) : bag (xs ++ ys) = bag xs + bag ys := by
  simp [bag]

theorem bag_extract (xs : Array α) (n : Nat) :
    bag (xs.extract 0 n) + bag (xs.extract n xs.size) = bag xs := by
  rw [bag, bag, Multiset.coe_add, Array.toList_extract, Array.toList_extract]
  simp [bag, List.extract, List.take_of_length_le]

section Finding

variable {xs rest run : List α} {x last : α}

theorem rising_parts (done : rising less? last xs = some (run, rest)) : run ++ rest = xs := by
  induction xs generalizing last run with
  | nil =>
    cases Option.some.inj done
    rfl
  | cons x xs ih =>
    obtain ⟨falls, _, done⟩ := Option.bind_eq_some_iff.mp done
    cases falls with
    | true =>
      cases Option.some.inj done
      rfl
    | false =>
      obtain ⟨⟨more, left⟩, went, same⟩ := Option.map_eq_some_iff.mp done
      cases same
      rw [List.cons_append, ih went]

-- A falling run rises where every comparison is taken the other way.
theorem falling_eq (xs : List α) :
    falling less? last xs = rising (fun x y => (less? x y).map (!·)) last xs := by
  induction xs generalizing last with
  | nil => rfl
  | cons x xs ih =>
    simp only [falling, rising, ih]
    cases less? x last with
    | none => rfl
    | some falls => cases falls <;> rfl

theorem falling_parts (done : falling less? last xs = some (run, rest)) : run ++ rest = xs := by
  rw [falling_eq] at done
  exact rising_parts done

theorem front_parts (done : front less? xs = some (run, rest)) : (run ++ rest).Perm xs := by
  unfold front at done
  split at done
  · rename_i x y tail
    obtain ⟨falls, _, done⟩ := Option.bind_eq_some_iff.mp done
    cases falls with
    | true =>
      obtain ⟨⟨more, left⟩, went, same⟩ := Option.map_eq_some_iff.mp done
      cases same
      rw [← falling_parts went]
      exact (List.reverse_perm (x :: y :: more)).append_right left
    | false =>
      obtain ⟨⟨more, left⟩, went, same⟩ := Option.map_eq_some_iff.mp done
      cases same
      rw [← rising_parts went]
      exact .refl _
  · cases Option.some.inj done
    rw [List.append_nil]

theorem place_perm {out : List α} (done : place less? x run = some out) : out.Perm (x :: run) := by
  -- A half of the run is searched next, so the induction is on its length.
  induction length : run.length using Nat.strongRecOn generalizing run out with
  | ind n shorter =>
    subst length
    rw [place] at done
    split at done
    · obtain ⟨goes, _, done⟩ := Option.bind_eq_some_iff.mp done
      cases goes with
      | true =>
        obtain ⟨front, placed, rfl⟩ := Option.map_eq_some_iff.mp done
        have less : (run.take (run.length / 2)).length < run.length := by
          rw [List.length_take]
          omega
        have moved := (shorter _ less placed rfl).append_right (run.drop (run.length / 2))
        rwa [List.cons_append, List.take_append_drop] at moved
      | false =>
        obtain ⟨back, placed, rfl⟩ := Option.map_eq_some_iff.mp done
        have less : (run.drop (run.length / 2 + 1)).length < run.length := by
          rw [List.length_drop]
          omega
        refine ((shorter _ less placed rfl).append_left _).trans (List.perm_middle.trans ?_)
        rw [List.take_append_drop]
    · have empty : run = [] := List.eq_nil_of_length_eq_zero (by omega)
      cases Option.some.inj done
      rw [empty]

theorem places_perm {out : List α} (done : xs.foldlM (fun run x => place less? x run) run = some out) :
    out.Perm (run ++ xs) := by
  induction xs generalizing run with
  | nil =>
    cases Option.some.inj done
    rw [List.append_nil]
  | cons x xs ih =>
    rw [List.foldlM_cons] at done
    obtain ⟨more, placed, done⟩ := Option.bind_eq_some_iff.mp done
    exact (ih done).trans (((place_perm placed).append_right xs).trans List.perm_middle.symm)

-- A run takes up what is in front, at least one value.
theorem next_bag {least : Nat} {out : Array α} (done : next less? least xs = some (out, rest)) :
    bag out + (rest : Multiset α) = xs ∧ (xs ≠ [] → rest.length < xs.length) := by
  obtain ⟨⟨run, behind⟩, fronted, done⟩ := Option.bind_eq_some_iff.mp done
  obtain ⟨more, placed, same⟩ := Option.map_eq_some_iff.mp done
  cases same
  have parts := front_parts fronted
  have whole : (run ++ behind.take (least - run.length) ++ behind.drop (least - run.length)).Perm xs := by
    rwa [List.append_assoc, List.take_append_drop]
  refine ⟨?_, fun some => ?_⟩
  · exact Multiset.coe_eq_coe.mpr (((places_perm placed).append_right _).trans whole)
  · have first : run ≠ [] := by
      rintro rfl
      unfold front at fronted
      split at fronted
      · obtain ⟨falls, _, fronted⟩ := Option.bind_eq_some_iff.mp fronted
        cases falls <;> simp at fronted
      · cases Option.some.inj fronted
        exact some rfl
    have length := parts.length_eq
    have filled := List.length_pos_iff.mpr first
    rw [List.length_append] at length
    rw [List.length_drop]
    omega

end Finding

namespace Merge

variable {m : Merge α} {out : Array α} {patience : Nat}

-- What a merge holds, on both sides and where it is done.
def bag (m : Merge α) : Multiset α := Runs.bag m.left + Runs.bag m.right + Runs.bag m.out

theorem cut_bag (s : Side) (n : Nat) (xs : Array α) :
    Runs.bag (s.cut n xs).1 + Runs.bag (s.cut n xs).2 = Runs.bag xs := by
  cases s with
  | low => exact bag_extract xs n
  | high => exact (add_comm _ _).trans (bag_extract xs (xs.size - n))

theorem join_bag (s : Side) (xs ys : Array α) :
    Runs.bag (s.join xs ys) = Runs.bag xs + Runs.bag ys := by
  cases s with
  | low => exact bag_append xs ys
  | high => exact (bag_append ys xs).trans (add_comm _ _)

@[simp] theorem moveLeft_bag (n : Nat) (m : Merge α) : (m.moveLeft n).bag = m.bag := by
  have parts := cut_bag m.side n m.left
  simp only [bag, moveLeft, join_bag, ← parts]
  abel

@[simp] theorem moveRight_bag (n : Nat) (m : Merge α) : (m.moveRight n).bag = m.bag := by
  have parts := cut_bag m.side n m.right
  simp only [bag, moveRight, join_bag, ← parts]
  abel

@[simp] theorem patience_bag (n : Nat) (m : Merge α) :
    ({ m with patience := n } : Merge α).bag = m.bag := rfl

@[simp] theorem finish_bag (m : Merge α) : Runs.bag m.finish.1 = m.bag := by
  unfold finish bag
  cases m.side <;> simp only [bag_append] <;> abel

theorem finish_done (done : some m.finish = some (out, patience)) : Runs.bag out = m.bag := by
  have same := congrArg Prod.fst (Option.some.inj done)
  rw [← show m.finish.1 = out from same, finish_bag]

-- Values only move, in single steps and in strides. The induction is on the fuel that both share.
theorem merges_bag (fuel : Nat) :
    (∀ right wins (m : Merge α) out patience,
      step less? fuel right wins m = some (out, patience) → Runs.bag out = m.bag) ∧
    ∀ (m : Merge α) out patience, leap less? fuel m = some (out, patience) → Runs.bag out = m.bag := by
  -- Stepping and leaping go over into each other, so the induction is for both at once.
  induction fuel with
  | zero =>
    constructor
    · intro right wins m out patience done
      exact finish_done (by rwa [step] at done)
    · intro m out patience done
      exact finish_done (by rwa [leap] at done)
  | succ fuel ih =>
    obtain ⟨steps, leaps⟩ := ih
    constructor
    · intro right wins m out patience done
      rw [step] at done
      split at done
      · exact finish_done done
      · obtain ⟨takes, _, done⟩ := Option.bind_eq_some_iff.mp done
        have moved : (if takes then m.moveRight 1 else m.moveLeft 1).bag = m.bag := by
          cases takes <;> simp
        dsimp only at done
        rw [← moved]
        generalize (if takes then m.moveRight 1 else m.moveLeft 1) = after at done ⊢
        generalize (if takes = right then wins + 1 else 1) = wins at done
        split at done
        · exact finish_done done
        · split at done
          · exact (leaps _ _ _ done).trans (patience_bag _ _)
          · exact steps _ _ _ _ _ done
    · intro m out patience done
      rw [leap] at done
      dsimp only at done
      -- Patience is no part of what is merged.
      have eased : (if 1 < m.patience then { m with patience := m.patience - 1 } else m).bag = m.bag := by
        split <;> rfl
      rw [← eased]
      generalize (if 1 < m.patience then { m with patience := m.patience - 1 } else m) = m at done ⊢
      obtain ⟨lefts, _, done⟩ := Option.bind_eq_some_iff.mp done
      split at done
      · simpa using finish_done done
      · split at done
        · simpa using finish_done done
        · obtain ⟨rights, _, done⟩ := Option.bind_eq_some_iff.mp done
          split at done
          · simpa using finish_done done
          · split at done
            · simpa using finish_done done
            · split at done
              · simpa using leaps _ _ _ done
              · simpa using steps _ _ _ _ _ done

theorem runs_bag {a b : Array α} {n : Nat} (done : runs less? n a b = some (out, patience)) :
    Runs.bag out = Runs.bag a + Runs.bag b := by
  obtain ⟨y, _, done⟩ := Option.bind_eq_some_iff.mp done
  obtain ⟨settled, _, done⟩ := Option.bind_eq_some_iff.mp done
  dsimp only at done
  split at done
  · cases Option.some.inj done
    exact bag_append a b
  · obtain ⟨mixed, _, done⟩ := Option.bind_eq_some_iff.mp done
    split at done
    · cases Option.some.inj done
      exact bag_append a b
    · obtain ⟨⟨merged, left⟩, stepped, same⟩ := Option.map_eq_some_iff.mp done
      cases same
      have held := (merges_bag _).1 _ _ _ _ _ stepped
      have inside : Runs.bag merged =
          Runs.bag (a.extract settled a.size) + Runs.bag (b.extract 0 mixed) := by
        rw [held]
        split
        · exact (moveRight_bag 1 _).trans (add_zero _)
        · exact (moveLeft_bag 1 _).trans (add_zero _)
      rw [bag_append, bag_append, inside, ← bag_extract a settled, ← bag_extract b mixed]
      abel

end Merge

namespace Waiting

variable {w after : Waiting α} {out : List α}

-- What all waiting runs hold.
def bag (w : Waiting α) : Multiset α := (w.runs.map fun p => Runs.bag p.run).sum

theorem settle_bag {limit fuel : Nat} (done : settle less? limit fuel w = some after) :
    after.bag = w.bag ∧ (w.runs ≠ [] → after.runs ≠ []) := by
  induction fuel generalizing w with
  | zero =>
    cases Option.some.inj done
    exact ⟨rfl, id⟩
  | succ fuel ih =>
    unfold settle at done
    split at done
    · rename_i b a rest waiting
      split at done
      · obtain ⟨⟨run, patience⟩, merged, done⟩ := Option.bind_eq_some_iff.mp done
        obtain ⟨held, some⟩ := ih done
        refine ⟨held.trans ?_, fun _ => some (by simp)⟩
        simp only [bag, waiting, List.map_cons, List.sum_cons, Merge.runs_bag merged]
        abel
      · cases Option.some.inj done
        exact ⟨rfl, id⟩
    · cases Option.some.inj done
      exact ⟨rfl, id⟩

theorem push_bag {total : Nat} {run : Array α} (done : push less? total run w = some after) :
    after.bag = w.bag + Runs.bag run := by
  unfold push at done
  split at done
  · rename_i none
    cases Option.some.inj done
    simp [bag, none]
  · rename_i b rest waiting
    obtain ⟨settled, stood, same⟩ := Option.map_eq_some_iff.mp done
    obtain ⟨held, some⟩ := settle_bag stood
    rw [← held]
    cases left : settled.runs with
    | nil => exact absurd left (some (by simp [waiting]))
    | cons c more =>
      rw [left] at same
      rw [← same]
      simp only [bag, left, List.map_cons, List.sum_cons]
      abel

theorem flatMap_bag (ps : List (Placed α)) :
    ((ps.flatMap fun p => p.run.toList : List α) : Multiset α) = (ps.map fun p => Runs.bag p.run).sum := by
  induction ps with
  | nil => rfl
  | cons p ps ih =>
    rw [List.flatMap_cons, ← Multiset.coe_add, ih, List.map_cons, List.sum_cons]
    rfl

theorem collapse_bag {fuel : Nat} (done : collapse less? fuel w = some out) : (out : Multiset α) = w.bag := by
  induction fuel generalizing w with
  | zero =>
    cases Option.some.inj done
    rw [flatMap_bag, bag, List.map_reverse, List.sum_reverse]
  | succ fuel ih =>
    unfold collapse at done
    split at done
    · rename_i none
      cases Option.some.inj done
      simp [bag, none]
    · rename_i a one
      cases Option.some.inj done
      simp [bag, one, Runs.bag]
    · rename_i c b rest waiting
      -- Both ways of merging the last two runs come to this.
      have last : ∀ {done : Option (List α)}, done = some out →
          done = ((Merge.runs less? w.patience b.run c.run).bind fun r =>
            collapse less? fuel ⟨{ b with run := r.1 } :: rest, r.2⟩) → (out : Multiset α) = w.bag := by
        rintro _ done rfl
        obtain ⟨⟨run, patience⟩, merged, done⟩ := Option.bind_eq_some_iff.mp done
        rw [ih done]
        simp only [bag, waiting, List.map_cons, List.sum_cons, Merge.runs_bag merged]
        abel
      dsimp only at done
      split at done
      · exact last done rfl
      · rename_i a more
        split at done
        · obtain ⟨⟨run, patience⟩, merged, done⟩ := Option.bind_eq_some_iff.mp done
          rw [ih done]
          simp only [bag, waiting, List.map_cons, List.sum_cons, Merge.runs_bag merged]
          abel
        · exact last done rfl

end Waiting

theorem collect_bag {total least fuel : Nat} {w : Waiting α} {xs out : List α} (enough : xs.length < fuel)
    (done : collect less? total least fuel w xs = some out) : (out : Multiset α) = w.bag + xs := by
  induction fuel generalizing w xs with
  | zero => exact absurd enough (Nat.not_lt_zero _)
  | succ fuel ih =>
    unfold collect at done
    split at done
    · rename_i none
      rw [List.isEmpty_iff.mp none]
      simpa using Waiting.collapse_bag done
    · rename_i some
      obtain ⟨⟨run, rest⟩, taken, done⟩ := Option.bind_eq_some_iff.mp done
      obtain ⟨after, pushed, done⟩ := Option.bind_eq_some_iff.mp done
      obtain ⟨whole, shorter⟩ := next_bag taken
      have left := shorter fun none => some (List.isEmpty_iff.mpr none)
      rw [ih (by omega) done, Waiting.push_bag pushed, ← whole]
      abel

theorem perm_sort? {xs ys : List α} (done : sort? less? xs = some ys) : ys.Perm xs := by
  apply Multiset.coe_eq_coe.mp
  have whole := collect_bag (Nat.lt_succ_self _) done
  simpa [Waiting.bag] using whole

end DnsSteering.Order.Runs

namespace DnsSteering.Order

-- Sorted or not, the values are the same.
theorem perm_sort? {α : Type} {orderly : α → Bool} {less? : α → α → Option Bool} {xs ys : List α}
    (done : sort? orderly less? xs = some ys) : ys.Perm xs := by
  unfold sort? at done
  split at done
  · exact Runs.perm_sort? done
  · split at done
    · cases Option.some.inj done
      exact perm_sort _ xs
    · cases done

end DnsSteering.Order
