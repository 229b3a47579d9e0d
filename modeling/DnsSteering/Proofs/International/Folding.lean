import DnsSteering.Proofs.International
import DnsSteering.Proofs.Text.Lowercase
import Mathlib.Data.List.Chain
import Mathlib.Data.List.Forall2

namespace DnsSteering

namespace International

open DnsSteering.Text

-- Runs of small forms that folding writes out in several characters: the sharp s, and Greek letters
-- with an iota. The lunate sigma is folded like any other.
def longRuns : List Nat := [0x1E9E, 0x1F88, 0x1F98, 0x1FA8, 0x1FBC, 0x1FCC, 0x1FFC]

def lunate : Nat := 0x3F9

-- The characters that are folded into several or into one, those they are folded into, and those dropped.
def severals : Nat := Table.bitsOf (foldManyTable.map (·.1))

def singles : Nat := Table.allBits (foldTable.map fun r => r.bits r.first)

def folded : Nat := Table.allBits (foldTable.map fun r => r.bits r.image)

def dropped : Nat := Table.allBits (droppedTable.map Table.rangeBits)

-- Folding leaves all other characters alone.
def moved : Nat := severals ||| (singles ||| dropped)

-- What the sets have in common, in one place, so that each table is gone through once.
def SetFacts : Prop :=
  (Table.Apart folded moved ∧ Table.Apart severals (singles ||| dropped) ∧ Table.Apart singles dropped) ∧
    moved.testBit 0x307 = false ∧ ∀ n < 128, (0x41 ≤ n ∧ n ≤ 0x5A) ∨ moved.testBit n = false

instance : Decidable SetFacts := inferInstanceAs (Decidable (_ ∧ _))

def longRows (r : Table.Run) : List (Nat × List Nat) :=
  foldManyTable.filter fun row => r.image ≤ row.1 ∧ row.1 ≤ r.last

-- What there is to know of the tables of folding and lower case.
@[mk_iff]
structure FoldFacts : Prop where
  ordered : foldTable.IsChain fun r s => r.last < s.first ∧ s.first ≤ s.last
  sets : SetFacts
  shared : (smallTable.filter fun r => !(Table.bitsOf (lunate :: longRuns)).testBit r.first).isSublist
    foldTable = true
  long : ∀ r ∈ smallTable.filter fun r => (Table.bitsOf longRuns).testBit r.first, r.image ≤ r.first ∧
    ∀ i < r.last - r.first + 1, ((longRows r).lookup (r.first + i)).isSome = true ∧
      (longRows r).lookup (r.image + i) = (longRows r).lookup (r.first + i)
  sigma : ∀ n ∈ [0x3A3, 0x3C2], Table.shift? foldTable n = some 0x3C3
  lunate : ∀ r ∈ smallTable.filter (·.first = lunate), r.last = lunate ∧
    foldAll [r.image] = foldAll [lunate]
  dotted : foldManyTable.lookup 0x130 = some [0x69, 0x307]
  capitals : foldTable.head? = some ⟨0x41, 0x5A, 1, 0x61⟩

theorem foldFacts : FoldFacts := foldFacts_iff.mpr (by decide +kernel)

section Folding

variable {n m : Nat} {ns : List Nat} {r : Table.Run}

theorem row_bits (listed : r ∈ foldTable) (here : r.image? n = some m) :
    singles.testBit n = true ∧ folded.testBit m = true := by
  obtain ⟨single, image⟩ := Table.Run.testBit_bits here
  exact ⟨Table.testBit_allBits.mpr ⟨_, List.mem_map_of_mem listed, single⟩,
    Table.testBit_allBits.mpr ⟨_, List.mem_map_of_mem listed, image⟩⟩

theorem severals_bits (listed : (n, ns) ∈ foldManyTable) : severals.testBit n = true :=
  Table.testBit_bitsOf.mpr (List.mem_map_of_mem (f := (·.1)) listed)

theorem shift?_none (free : singles.testBit n = false) : Table.shift? foldTable n = none := by
  refine List.findSome?_eq_none_iff.mpr fun r listed => ?_
  refine Option.eq_none_iff_forall_ne_some.mpr fun m found => ?_
  exact Bool.eq_false_iff.mp free (row_bits listed found).1

theorem foldAll_fixed (free : moved.testBit n = false) : foldAll [n] = [n] := by
  rw [moved, Nat.testBit_or, Nat.testBit_or, Bool.or_eq_false_iff, Bool.or_eq_false_iff] at free
  obtain ⟨several, single, kept⟩ := free
  have none : foldManyTable.lookup n = none := by
    refine Option.eq_none_iff_forall_ne_some.mpr fun ns found => ?_
    exact Bool.eq_false_iff.mp several (severals_bits (lookup_mem found))
  simp [foldAll, fold, Table.covers_false kept, shift?_none single, none]

theorem foldAll_one (found : Table.shift? foldTable n = some m) : foldAll [n] = [m] := by
  obtain ⟨r, listed, here⟩ := List.exists_of_findSome?_eq_some found
  have kept := (FoldFacts.sets foldFacts).1.2.2.testBit (row_bits listed here).1
  simp [foldAll, fold, Table.covers_false kept, found]

-- What is folded into is not folded any further.
theorem foldAll_row (listed : r ∈ foldTable) (here : r.image? n = some m) :
    foldAll [n] = [m] ∧ foldAll [m] = [m] := by
  have transitive : IsTrans Table.Run fun r s => r.last < s.first ∧ s.first ≤ s.last :=
    ⟨fun r s t one two => ⟨by omega, two.2⟩⟩
  have ordered := (List.isChain_iff_pairwise.mp (FoldFacts.ordered foldFacts)).imp fun next => next.1
  exact ⟨foldAll_one (Table.shift?_of_mem ordered listed here),
    foldAll_fixed ((FoldFacts.sets foldFacts).1.1.testBit (row_bits listed here).2)⟩

theorem foldAll_many (found : foldManyTable.lookup n = some ns) : foldAll [n] = ns := by
  have free := (FoldFacts.sets foldFacts).1.2.1.testBit (severals_bits (lookup_mem found))
  rw [Nat.testBit_or, Bool.or_eq_false_iff] at free
  simp [foldAll, fold, Table.covers_false free.2, shift?_none free.1, found]

theorem foldAll_cons (n : Nat) (ns : List Nat) : foldAll (n :: ns) = foldAll [n] ++ foldAll ns := by
  simp only [foldAll, List.filter_cons]
  split <;> simp

theorem foldAll_append (ns ms : List Nat) : foldAll (ns ++ ms) = foldAll ns ++ foldAll ms := by
  simp [foldAll]

theorem foldAll_long (listed : r ∈ smallTable) (long : r.first ∈ longRuns) (here : r.image? n = some m) :
    foldAll [m] = foldAll [n] := by
  obtain ⟨⟨first, last, _⟩, shifted⟩ := Table.Run.image?_eq_some.mp here
  obtain ⟨below, each⟩ :=
    FoldFacts.long foldFacts r (List.mem_filter.mpr ⟨listed, Table.testBit_bitsOf.mpr long⟩)
  obtain ⟨some, same⟩ := each (n - r.first) (by omega)
  have among : ∀ k, r.image ≤ k → k ≤ r.last → (longRows r).lookup k = foldManyTable.lookup k :=
    fun k lower upper => lookup_filter (p := fun k => r.image ≤ k ∧ k ≤ r.last)
      (decide_eq_true ⟨lower, upper⟩)
  rw [show r.first + (n - r.first) = n by omega] at some same
  rw [shifted, among m (by omega) (by omega)] at same
  rw [among n (by omega) last] at some same
  obtain ⟨ns, written⟩ := Option.isSome_iff_exists.mp some
  rw [foldAll_many written, foldAll_many (same.trans written)]

-- Small forms are folded like their capitals.
theorem foldAll_small (found : Table.shift? smallTable n = some m) : foldAll [m] = foldAll [n] := by
  obtain ⟨r, listed, here⟩ := List.exists_of_findSome?_eq_some found
  by_cases sigma : r.first = lunate
  · obtain ⟨⟨first, last, _⟩, shifted⟩ := Table.Run.image?_eq_some.mp here
    have mine : r ∈ smallTable.filter (·.first = lunate) :=
      List.mem_filter.mpr ⟨listed, decide_eq_true sigma⟩
    obtain ⟨only, same⟩ := FoldFacts.lunate foldFacts r mine
    rwa [show r.image = m by omega, show lunate = n by omega] at same
  · by_cases long : r.first ∈ longRuns
    · exact foldAll_long listed long here
    · have other : ¬ (Table.bitsOf (lunate :: longRuns)).testBit r.first = true := by
        rw [Table.testBit_bitsOf]
        simp [sigma, long]
      have shared : r ∈ foldTable := (List.isSublist_iff_sublist.mp (FoldFacts.shared foldFacts)).subset
        (List.mem_filter.mpr ⟨listed, by simpa using other⟩)
      obtain ⟨folded, fixed⟩ := foldAll_row shared here
      rw [fixed, folded]

theorem foldAll_sigma (small : n ∈ [0x3C2, 0x3C3]) : foldAll [n] = foldAll [0x3A3] := by
  have capital := FoldFacts.sigma foldFacts 0x3A3 (by simp)
  rw [foldAll_one capital]
  rcases List.mem_cons.mp small with rfl | small
  · exact foldAll_one (FoldFacts.sigma foldFacts 0x3C2 (by simp))
  · rw [List.mem_singleton.mp small]
    obtain ⟨r, listed, here⟩ := List.exists_of_findSome?_eq_some capital
    exact (foldAll_row listed here).2

theorem foldAll_letter (ascii : n < 128) : foldAll [n] = [(Char.ofNat n).toLower.toNat] := by
  have letters : ∀ n < 128, (Char.ofNat n).toLower.toNat =
      if 0x41 ≤ n ∧ n ≤ 0x5A then n + 0x20 else n := by decide
  rw [letters n ascii]
  split
  · rename_i capital
    have first : Table.Run.image? ⟨0x41, 0x5A, 1, 0x61⟩ n = some (n + 0x20) := by
      refine Table.Run.image?_eq_some.mpr ⟨⟨capital.1, capital.2, Nat.mod_one _⟩, ?_⟩
      show 0x61 + (n - 0x41) = n + 0x20
      omega
    exact (foldAll_row (List.mem_of_mem_head? (FoldFacts.capitals foldFacts)) first).1
  · rename_i other
    exact foldAll_fixed (((FoldFacts.sets foldFacts).2.2 n ascii).resolve_left other)

theorem foldAll_ascii {cs : List Char} (ascii : ∀ c ∈ cs, c.toNat < 128) :
    foldAll (cs.map Char.toNat) = (cs.map Char.toLower).map Char.toNat := by
  induction cs with
  | nil => rfl
  | cons c cs ih =>
    have here := foldAll_letter (ascii c (List.mem_cons_self ..))
    rw [Char.ofNat_toNat] at here
    rw [List.map_cons, foldAll_cons, here, ih fun d listed => ascii d (List.mem_cons_of_mem _ listed)]
    rfl

end Folding

section Lowercase

variable {c : Char} {cs : List Char} {after : Bool}

theorem foldAll_lowerChar (c : Char) : foldAll ((lowerChar c).map Char.toNat) = foldAll [c.toNat] := by
  unfold lowerChar
  split
  · rename_i ascii
    obtain ⟨small, still, _⟩ := toLower_ascii ascii
    have letter := foldAll_letter small
    rw [Char.ofNat_toNat, still] at letter
    have capital := foldAll_letter ascii
    rw [Char.ofNat_toNat] at capital
    rw [List.map_singleton, letter, capital]
  · split
    · rename_i dotted
      have mark : (Char.ofNat 0x307).toNat = 0x307 := by decide
      rw [dotted, List.map_cons, List.map_singleton, mark, foldAll_many (FoldFacts.dotted foldFacts),
        foldAll_cons, foldAll_fixed (FoldFacts.sets foldFacts).2.1, foldAll_letter (by decide)]
      rfl
    · cases found : Table.shift? smallTable c.toNat with
      | none => simp
      | some m => simp [(small_form found).2, foldAll_small found]

-- The induction is on the text, the last letter before it being left open.
theorem foldAll_parts (after : Bool) (cs : List Char) :
    List.Forall₂ (fun q p => foldAll (q.map Char.toNat) = foldAll (p.map Char.toNat))
      (split '.' (lowerFrom after cs)) (split '.' cs) := by
  -- What a character becomes goes in front of the first part, unless it is a full stop.
  have ahead : ∀ {front : List Char} {c : Char} {ds es : List Char}, '.' ∉ front → c ≠ '.' →
      foldAll (front.map Char.toNat) = foldAll [c.toNat] →
      List.Forall₂ (fun q p => foldAll (q.map Char.toNat) = foldAll (p.map Char.toNat))
        (split '.' ds) (split '.' es) →
      List.Forall₂ (fun q p => foldAll (q.map Char.toNat) = foldAll (p.map Char.toNat))
        (split '.' (front ++ ds)) (split '.' (c :: es)) := by
    intro front c ds es free other folded rest
    obtain ⟨q, qs, more⟩ := List.exists_cons_of_ne_nil (split_ne_nil '.' ds)
    obtain ⟨p, ps, more'⟩ := List.exists_cons_of_ne_nil (split_ne_nil '.' es)
    rw [more, more'] at rest
    obtain ⟨first, others⟩ := List.forall₂_cons.mp rest
    rw [split_prepend free more, split, if_neg other, more']
    refine List.forall₂_cons.mpr ⟨?_, others⟩
    rw [List.map_append, foldAll_append, folded, first, List.map_cons,
      foldAll_cons c.toNat (p.map Char.toNat)]
  induction cs generalizing after with
  | nil => exact .cons rfl .nil
  | cons c cs ih =>
    by_cases capital : c = 'Σ'
    · subst capital
      rw [lowerFrom_sigma]
      split
      · have free : '.' ∉ ['ς'] := by decide
        exact ahead free (by decide) (foldAll_sigma (by decide)) (ih true)
      · have free : '.' ∉ ['σ'] := by decide
        exact ahead free (by decide) (foldAll_sigma (by decide)) (ih true)
    · rw [lowerFrom_other capital]
      by_cases stop : c = '.'
      · subst stop
        have dot : lowerChar '.' = ['.'] := by decide
        rw [dot, List.singleton_append, split, if_pos rfl, split, if_pos rfl]
        exact .cons rfl (ih _)
      · exact ahead (dot_notMem_lowerChar stop) stop (foldAll_lowerChar c) (ih _)

end Lowercase

section Ascii

variable {ns : List Nat} (ascii : ∀ n ∈ ns, n < 128)

include ascii

theorem decompose_ascii : ns.flatMap decompose = ns := by
  induction ns with
  | nil => rfl
  | cons n ns ih =>
    have here : n < 128 := ascii n (List.mem_cons_self ..)
    rw [List.flatMap_cons, decompose, if_pos here, ih fun m listed => ascii m (List.mem_cons_of_mem _ listed)]
    rfl

theorem orderFrom_ascii : orderFrom [] ns = ns := by
  induction ns with
  | nil => rfl
  | cons n ns ih =>
    have starter : combiningClass n = 0 := by rw [combiningClass, if_pos (ascii n (List.mem_cons_self ..))]
    rw [orderFrom, starter, ih fun m listed => ascii m (List.mem_cons_of_mem _ listed)]
    rfl

theorem composeFrom_ascii (base : Nat) : composeFrom base [] 0 ns = base :: ns := by
  induction ns generalizing base with
  | nil => rfl
  | cons n ns ih =>
    have here : n < 128 := ascii n (List.mem_cons_self ..)
    have starter : combiningClass n = 0 := by rw [combiningClass, if_pos here]
    have none : compose? base n = none := by
      refine Option.eq_none_iff_forall_ne_some.mpr fun k composed => ?_
      have beyond := (compose?_some composed).1
      omega
    rw [composeFrom, starter, none]
    simp [ih fun m listed => ascii m (List.mem_cons_of_mem _ listed)]

theorem normalize_ascii : normalize ns = ns := by
  rw [normalize, decompose_ascii ascii, orderFrom_ascii ascii]
  cases ns with
  | nil => rfl
  | cons n ns => exact composeFrom_ascii (fun m listed => ascii m (List.mem_cons_of_mem _ listed)) n

end Ascii

theorem form_ascii {cs : List Char} (ascii : ∀ c ∈ cs, c.toNat < 128) :
    form (foldAll (cs.map Char.toNat)) = cs.map Char.toLower := by
  have small : ∀ n ∈ (cs.map Char.toLower).map Char.toNat, n < 128 := by
    intro n listed
    obtain ⟨d, member, rfl⟩ := List.mem_map.mp listed
    obtain ⟨c, inside, rfl⟩ := List.mem_map.mp member
    exact (toLower_ascii (ascii c inside)).1
  have all : isAscii ((cs.map Char.toLower).map Char.toNat) = true := by simpa [isAscii] using small
  rw [form, foldAll_ascii ascii, normalize_ascii small, all]
  simp [Char.ofNat_toNat, Function.comp_def]

-- The ASCII form of a label, up to capitals in a label that was ASCII before.
theorem asciiLabel?_form {cs l : List Char} (made : asciiLabel? cs = some l) :
    l.map Char.toLower = (form (foldAll (cs.map Char.toNat))).map Char.toLower := by
  obtain ⟨_, ⟨ascii, rfl⟩ | written⟩ := asciiLabel?_cases made
  · have every : ∀ c ∈ l, c.toNat < 128 := by simpa [isAscii] using ascii
    rw [form_ascii every, List.map_map]
    refine List.map_congr_left fun c listed => ?_
    exact (toLower_ascii (every c listed)).2.1.symm
  · rw [written]

end International
end DnsSteering
