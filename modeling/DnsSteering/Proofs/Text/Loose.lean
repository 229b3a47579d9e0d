import DnsSteering.Json.Reader
import Mathlib.Data.List.Chain
import Mathlib.Data.List.Lex

namespace DnsSteering.LooseText

theorem letters_gather (ls : List Letter) (run : List Char) :
    (gather run ls).letters = run.reverse.map .inl ++ ls := by
  induction ls generalizing run with
  | nil => simp [gather]
  | cons l ls ih =>
    cases l with
    | inl c => simp [gather, ih]
    | inr half => simp [gather, letters, ih]

@[simp] theorem letters_ofLetters (ls : List Letter) : (ofLetters ls).letters = ls := by
  simp [ofLetters, letters_gather]

theorem gather_chars (cs run : List Char) (ls : List Letter) :
    gather run (cs.map .inl ++ ls) = gather (cs.reverse ++ run) ls := by
  induction cs generalizing run with
  | nil => rfl
  | cons c cs ih =>
    rw [List.map_cons, List.cons_append, gather, ih, List.reverse_cons, List.append_assoc]
    rfl

-- A text is gathered from its own letters, and so it is known by them.
theorem ofLetters_letters (t : LooseText) : ofLetters t.letters = t := by
  unfold ofLetters
  induction t with
  | plain s =>
    have gathered := gather_chars s.toList [] []
    simpa [gather] using gathered
  | torn front half rest ih =>
    rw [letters, gather_chars, gather, ih]
    simp

theorem letters_inj {t u : LooseText} (same : t.letters = u.letters) : t = u := by
  rw [← ofLetters_letters t, same, ofLetters_letters]

theorem letters_inj_iff {t u : LooseText} : t.letters = u.letters ↔ t = u :=
  ⟨letters_inj, fun same => same ▸ rfl⟩

theorem append_assoc (t u v : LooseText) : t ++ u ++ v = t ++ (u ++ v) :=
  letters_inj (by simp)

@[simp] theorem append_empty (t : LooseText) : t ++ plain "" = t := letters_inj (by simp)

theorem mapRuns_eq_plain {f : String → String} {t : LooseText} {s : String} :
    t.mapRuns f = plain s ↔ ∃ u, t = plain u ∧ f u = s := by
  cases t <;> simp [mapRuns]

-- No character has the number of a half.
theorem point_apart (c : Char) (half : Surrogate) : c.toNat ≠ half.point := by
  have range : c.toNat < 0xD800 ∨ (0xDFFF < c.toNat ∧ c.toNat < 0x110000) := c.valid
  have bound := half.isLt
  unfold Surrogate.point
  omega

theorem point_injective : Function.Injective point := by
  intro l m same
  cases l with
  | inl c =>
    cases m with
    | inl d => rw [Char.toNat_inj.mp same]
    | inr half => exact absurd same (point_apart c half)
  | inr half =>
    cases m with
    | inl d => exact absurd same.symm (point_apart d half)
    | inr other =>
      have equal : half = other := Fin.ext (Nat.add_left_cancel same)
      rw [equal]

theorem points_injective : Function.Injective points := fun _ _ same =>
  letters_inj (List.map_injective_iff.mpr point_injective same)

-- By code point, and with the comparison that programs run.
instance : LinearOrder LooseText :=
  { LinearOrder.lift' points points_injective with
    toDecidableLT := fun t u => instDecidableLt t u
    compare_eq_compareOfLessAndEq := by
      intro t u
      rw [(LinearOrder.lift' points points_injective).compare_eq_compareOfLessAndEq t u]
      unfold compareOfLessAndEq
      congr }

-- Two halves that make a character.
def Pair : Letter → Letter → Prop
  | .inr high, .inr low => high.val < 0x400 ∧ 0x400 ≤ low.val
  | _, _ => False

theorem not_pair_char (l : Letter) (c : Char) : ¬ Pair l (.inl c) := by
  cases l <;> exact id

-- No such two stand side by side. Written and read again, they would be that character.
def Unpaired (t : LooseText) : Prop := t.letters.IsChain fun l m => ¬ Pair l m

theorem unpaired_chars (cs : List Char) : (cs.map Sum.inl).IsChain fun l m => ¬ Pair l m := by
  induction cs with
  | nil => exact .nil
  | cons c cs ih =>
    cases cs with
    | nil => exact .singleton _
    | cons d cs => exact .cons_cons (by simp [Pair]) ih

theorem unpaired_plain (s : String) : (plain s).Unpaired := unpaired_chars s.toList

theorem Unpaired.append_plain {t : LooseText} (unpaired : t.Unpaired) (s : String) :
    (t ++ plain s).Unpaired := by
  unfold Unpaired
  rw [letters_append, List.isChain_append]
  refine ⟨unpaired, unpaired_plain s, ?_⟩
  intro l _ m first
  obtain ⟨c, _, rfl⟩ := List.mem_map.mp (List.mem_of_mem_head? first)
  exact not_pair_char l c

-- A change of the runs that leaves none of them empty brings no halves together.
section Runs

variable {f : String → String} (kept : ∀ s, f s = "" → s = "")

include kept

theorem head_mapRuns {t : LooseText} {half : Surrogate}
    (first : (t.mapRuns f).letters.head? = some (.inr half)) : t.letters.head? = some (.inr half) := by
  cases t with
  | plain s =>
    obtain ⟨c, _, same⟩ := List.mem_map.mp (List.mem_of_mem_head? first)
    cases same
  | torn front other rest =>
    by_cases empty : f front = ""
    · rw [kept front empty]
      simpa [mapRuns, letters, empty] using first
    · obtain ⟨c, cs, run⟩ := List.exists_cons_of_ne_nil fun none => empty (String.toList_eq_nil_iff.mp none)
      simp [mapRuns, letters, run] at first

theorem Unpaired.mapRuns {t : LooseText} (unpaired : t.Unpaired) : (t.mapRuns f).Unpaired := by
  induction t with
  | plain s => exact unpaired_plain _
  | torn front half rest ih =>
    unfold Unpaired at unpaired ih ⊢
    rw [letters, List.isChain_append, List.isChain_cons] at unpaired
    obtain ⟨_, ⟨apart, later⟩, _⟩ := unpaired
    rw [LooseText.mapRuns, letters, List.isChain_append, List.isChain_cons]
    refine ⟨unpaired_chars _, ⟨?_, ih later⟩, ?_⟩
    · intro m first
      cases m with
      | inl c => exact not_pair_char _ c
      | inr low => exact apart _ (head_mapRuns kept first)
    · intro l last m first
      obtain ⟨c, _, rfl⟩ := List.mem_map.mp (List.mem_of_mem_getLast? last)
      exact id

end Runs

end DnsSteering.LooseText
