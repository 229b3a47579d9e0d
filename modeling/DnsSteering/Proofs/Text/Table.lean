import DnsSteering.Text.Table
import Mathlib.Data.Nat.Bitwise

namespace DnsSteering.Text.Table

variable {rows : List Run} {r : Run} {n m : Nat}

theorem Run.image?_eq_some : r.image? n = some m ↔
    (r.first ≤ n ∧ n ≤ r.last ∧ (n - r.first) % r.step = 0) ∧ r.image + (n - r.first) = m := by
  unfold image?
  split
  · rename_i inside
    simp only [Bool.and_eq_true, decide_eq_true_eq] at inside
    simp [inside]
  · rename_i outside
    simp only [Bool.and_eq_true, decide_eq_true_eq] at outside
    simp only [reduceCtorEq, false_iff]
    rintro ⟨⟨first, last, step⟩, _⟩
    exact outside ⟨⟨first, last⟩, step⟩

-- The only character of a run that can have a given image, if the run has that image at all.
def Run.source (r : Run) (image : Nat) : List Nat :=
  if r.image ≤ image ∧ image ≤ r.image + (r.last - r.first) then [r.first + (image - r.image)] else []

theorem Run.mem_source (found : r.image? n = some m) : n ∈ r.source m := by
  obtain ⟨⟨first, last, _⟩, rfl⟩ := image?_eq_some.mp found
  rw [source, if_pos (by omega), List.mem_singleton]
  omega

theorem mem_sources (found : shift? rows n = some m) : n ∈ rows.flatMap fun r => r.source m := by
  obtain ⟨r, listed, here⟩ := List.exists_of_findSome?_eq_some found
  exact List.mem_flatMap.mpr ⟨r, listed, Run.mem_source here⟩

-- In rows one after another a character is only in one of them.
theorem shift?_of_mem (ordered : rows.Pairwise fun r s => r.last < s.first) (listed : r ∈ rows)
    (here : r.image? n = some m) : shift? rows n = some m := by
  induction ordered with
  | nil => cases listed
  | @cons s rows before _ ih =>
    rw [shift?, List.findSome?_cons]
    rcases List.mem_cons.mp listed with rfl | later
    · rw [here]
    · have none : s.image? n = none := by
        refine Option.eq_none_iff_forall_ne_some.mpr fun k found => ?_
        have upper := (Run.image?_eq_some.mp found).1.2.1
        have lower := (Run.image?_eq_some.mp here).1.1
        have between := before r later
        omega
      rw [none]
      exact ih later

section Bits

variable {step count a b : Nat} {sets : List Nat}

-- As many bits as counted, at one distance from each other.
def rungs (step count : Nat) : Nat := (1 <<< (step * count) - 1) / (1 <<< step - 1)

theorem rungs_succ (apart : 0 < step) :
    rungs step (count + 1) = 2 ^ (step * count) + rungs step count := by
  have below : 1 < 2 ^ step := Nat.one_lt_two_pow (by omega)
  have here : 0 < 2 ^ (step * count) := Nat.two_pow_pos _
  have next : 2 ^ (step * (count + 1)) - 1 =
      2 ^ (step * count) - 1 + 2 ^ (step * count) * (2 ^ step - 1) := by
    rw [Nat.mul_succ, Nat.pow_add, Nat.mul_sub_one]
    have more : 2 ^ (step * count) ≤ 2 ^ (step * count) * 2 ^ step := Nat.le_mul_of_pos_right _ (by omega)
    omega
  simp only [rungs, Nat.one_shiftLeft]
  rw [next, Nat.add_mul_div_right _ _ (by omega), Nat.add_comm]

theorem rungs_lt : rungs step count < 2 ^ (step * count) := by
  have pos : 0 < 2 ^ (step * count) := Nat.two_pow_pos _
  have small : rungs step count ≤ 2 ^ (step * count) - 1 := by
    simp only [rungs, Nat.one_shiftLeft]
    exact Nat.div_le_self ..
  omega

-- The induction is on the count: one more bit stands above all the others.
theorem testBit_rungs (apart : 0 < step) :
    (rungs step count).testBit n = true ↔ ∃ i < count, n = step * i := by
  induction count with
  | zero => simp [rungs]
  | succ count ih =>
    have above := Nat.two_pow_add_eq_or_of_lt (@rungs_lt step count) 1
    rw [Nat.mul_one] at above
    rw [rungs_succ apart, above, Nat.testBit_or, Bool.or_eq_true, ih, Nat.testBit_two_pow,
      decide_eq_true_eq]
    constructor
    · rintro (rfl | ⟨i, less, rfl⟩)
      · exact ⟨count, by omega, rfl⟩
      · exact ⟨i, by omega, rfl⟩
    · rintro ⟨i, less, rfl⟩
      by_cases last : i = count
      · exact .inl (by rw [last])
      · exact .inr ⟨i, by omega, rfl⟩

def allBits (sets : List Nat) : Nat := sets.foldr (fun set b => set ||| b) 0

theorem testBit_allBits : (allBits sets).testBit n = true ↔ ∃ set ∈ sets, set.testBit n = true := by
  induction sets with
  | nil => simp [allBits]
  | cons set sets ih =>
    unfold allBits at ih ⊢
    rw [List.foldr_cons, Nat.testBit_or, Bool.or_eq_true, ih]
    simp

def bitsOf (ns : List Nat) : Nat := allBits (ns.map (1 <<< ·))

theorem testBit_bitsOf {ns : List Nat} : (bitsOf ns).testBit n = true ↔ n ∈ ns := by
  rw [bitsOf, testBit_allBits]
  simp [Nat.one_shiftLeft, Nat.testBit_two_pow]

-- The characters of a run, moved to a start. Without steps there is one of them.
def Run.bits (r : Run) (start : Nat) : Nat :=
  rungs (r.step - 1 + 1) ((r.last - r.first) / r.step + 1) <<< start

theorem Run.testBit_bits (found : r.image? n = some m) :
    (r.bits r.first).testBit n = true ∧ (r.bits r.image).testBit m = true := by
  obtain ⟨⟨first, last, step⟩, shifted⟩ := image?_eq_some.mp found
  have inside : (rungs (r.step - 1 + 1) ((r.last - r.first) / r.step + 1)).testBit (n - r.first) = true := by
    refine (testBit_rungs (by omega)).mpr ?_
    obtain ⟨i, steps⟩ := Nat.dvd_of_mod_eq_zero step
    by_cases still : r.step = 0
    · rw [still, Nat.zero_mul] at steps
      exact ⟨0, Nat.succ_pos _, by omega⟩
    · rw [show r.step - 1 + 1 = r.step by omega]
      refine ⟨i, ?_, steps⟩
      rw [Nat.lt_succ_iff, Nat.le_div_iff_mul_le (Nat.pos_of_ne_zero still), Nat.mul_comm]
      omega
  constructor
  · rw [bits, Nat.testBit_shiftLeft, inside]
    simpa using first
  · rw [bits, Nat.testBit_shiftLeft, show m - r.image = n - r.first by omega, inside]
    simp
    omega

def rangeBits (row : Nat × Nat) : Nat := rungs 1 (row.2 + 1 - row.1) <<< row.1

theorem covers_false {rows : List (Nat × Nat)}
    (free : (allBits (rows.map rangeBits)).testBit n = false) : covers rows n = false := by
  refine List.any_eq_false.mpr fun row member inside => Bool.eq_false_iff.mp free ?_
  simp only [Bool.and_eq_true, decide_eq_true_eq] at inside
  refine testBit_allBits.mpr ⟨_, List.mem_map_of_mem member, ?_⟩
  rw [rangeBits, Nat.testBit_shiftLeft, (testBit_rungs (by omega)).mpr ⟨n - row.1, by omega, by omega⟩]
  simpa using inside.1

-- Two tables are compared as numbers with a bit for each character, so neither is gone through more than
-- once.
-- No character is in both sets.
def Apart (a b : Nat) : Prop := a &&& b = 0

instance : Decidable (Apart a b) := inferInstanceAs (Decidable (_ = _))

theorem Apart.testBit (apart : Apart a b) (here : a.testBit n = true) : b.testBit n = false := by
  have neither : (a &&& b).testBit n = false := by
    rw [apart]
    exact Nat.zero_testBit n
  rwa [Nat.testBit_and, here, Bool.true_and] at neither

end Bits
end DnsSteering.Text.Table
