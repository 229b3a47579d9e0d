import DnsSteering.Order.Runs

namespace DnsSteering.Order

variable {α : Type}

-- Behind all that are not greater.
def insert (less : α → α → Bool) (x : α) : List α → List α
  | [] => [x]
  | y :: ys => if less x y then x :: y :: ys else y :: insert less x ys

def sort (less : α → α → Bool) (xs : List α) : List α :=
  xs.foldl (fun sorted x => insert less x sorted) []

def comparable (less? : α → α → Option Bool) : List α → Bool
  | [] => true
  | x :: xs => (xs.all fun y => (less? x y).isSome) && comparable less? xs

-- Two values that cannot be compared leave a list unsorted; otherwise equal ones keep their places. That
-- is all there is to it for orderly values. Among others it depends on what is compared, so runs decide.
def sort? (orderly : α → Bool) (less? : α → α → Option Bool) (xs : List α) : Option (List α) :=
  if !xs.all orderly then Runs.sort? less? xs
  else if comparable less? xs then some (sort (fun x y => (less? x y).getD false) xs)
  else none

-- Texts in ascending order, each once.
def insertText (s : String) : List String → List String
  | [] => [s]
  | t :: ts => if s < t then s :: t :: ts else if s = t then t :: ts else t :: insertText s ts

def ascending (ss : List String) : List String := ss.foldr insertText []

theorem perm_insert (less : α → α → Bool) (x : α) (xs : List α) :
    (insert less x xs).Perm (x :: xs) := by
  induction xs with
  | nil => exact .refl _
  | cons y ys ih =>
    rw [insert]
    split
    · exact .refl _
    · exact (ih.cons y).trans (.swap x y ys)

-- Sorting loses nothing and adds nothing.
theorem perm_sort (less : α → α → Bool) (xs : List α) : (sort less xs).Perm xs := by
  have step : ∀ (xs sorted : List α),
      (xs.foldl (fun sorted x => insert less x sorted) sorted).Perm (sorted ++ xs) := by
    intro xs
    induction xs with
    | nil => intro sorted; simp
    | cons x xs ih =>
      intro sorted
      refine (ih _).trans (((perm_insert less x sorted).append_right xs).trans ?_)
      exact List.perm_middle.symm
  simpa [sort] using step xs []

theorem mem_insertText {s t : String} {ss : List String} :
    t ∈ insertText s ss ↔ t = s ∨ t ∈ ss := by
  induction ss with
  | nil => simp [insertText]
  | cons u us ih =>
    rw [insertText]
    split
    · simp
    · split
      · next h => simp [h]
      · simp only [List.mem_cons, ih]
        exact ⟨fun h => by rcases h with h | h | h <;> simp [h],
          fun h => by rcases h with h | h | h <;> simp [h]⟩

theorem mem_ascending {t : String} {ss : List String} : t ∈ ascending ss ↔ t ∈ ss := by
  induction ss with
  | nil => simp [ascending]
  | cons s ss ih => rw [ascending, List.foldr_cons, mem_insertText, ← ascending, ih]; simp

end DnsSteering.Order
