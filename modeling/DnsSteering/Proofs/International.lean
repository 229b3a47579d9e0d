import DnsSteering.Dns.Hostname
import DnsSteering.Proofs.Text.Table

namespace DnsSteering

section Lookup

variable {α β : Type} [BEq α] [LawfulBEq α] {rows : List (α × β)} {key : α} {value : β}

theorem lookup_mem (found : rows.lookup key = some value) : (key, value) ∈ rows := by
  obtain ⟨before, after, rfl, _⟩ := List.lookup_eq_some_iff.mp found
  simp

theorem lookup_filter {p : α → Bool} (kept : p key = true) :
    (rows.filter fun row => p row.1).lookup key = rows.lookup key := by
  induction rows with
  | nil => rfl
  | cons row rows ih =>
    obtain ⟨other, value⟩ := row
    by_cases same : key = other
    · subst same
      simp [kept]
    · have skipped : (key == other) = false := beq_false_of_ne same
      cases here : p other <;> simp [here, List.lookup_cons, skipped, ih]

end Lookup

namespace International

open DnsSteering.Text

-- The characters that come out as an asterisk: itself, a small one and one of full width.
def asterisks : List Nat := [0x2A, 0xFE61, 0xFF0A]

-- Characters that are read as full stops, besides the one in ASCII.
def stops : List Nat := [0x3002, 0xFF0E, 0xFF61]

-- What there is to know of the tables, all of it found by going through them.
@[mk_iff]
structure TableFacts : Prop where
  composites : (compositionTable.all fun row => 128 ≤ row.1.2 && 128 ≤ row.2) = true
  single : (singleDecompositionTable.all fun r =>
    0x2A < r.image || (r.source 0x2A).all (· ∈ asterisks)) = true
  several : (decompositionTable.all fun row => row.2.all (· != 0x2A)) = true
  folded : ∀ m ∈ asterisks,
    (Table.allBits (foldTable.map fun r => r.bits r.image)).testBit m = false
  foldedMany : ∀ row ∈ foldManyTable, ∀ m ∈ asterisks, m ∉ row.2
  letterless : ∀ n ∈ asterisks.tail ++ stops,
    (Table.allBits (alphanumericTable.map Table.rangeBits)).testBit n = false

theorem tableFacts : TableFacts := tableFacts_iff.mpr (by decide +kernel)

theorem Hangul.compose?_some {n m k : Nat} (composed : Hangul.compose? n m = some k) :
    128 ≤ m ∧ 128 ≤ k := by
  unfold Hangul.compose? at composed
  split at composed
  · rename_i joined
    simp only [isLead, isVowel, Bool.and_eq_true, decide_eq_true_eq] at joined
    have := Option.some.inj composed
    omega
  · split at composed
    · rename_i joined
      simp only [isSyllable, isTrail, Bool.and_eq_true, decide_eq_true_eq] at joined
      have := Option.some.inj composed
      omega
    · cases composed

-- Nothing is composed with an ASCII character behind it, and nothing into one.
theorem compose?_some {n m k : Nat} (composed : compose? n m = some k) : 128 ≤ m ∧ 128 ≤ k := by
  unfold compose? at composed
  split at composed
  · rename_i syllable hangul
    cases composed
    exact Hangul.compose?_some hangul
  · simpa using List.all_eq_true.mp (TableFacts.composites tableFacts) _ (lookup_mem composed)

section Origins

variable {P : Nat → Prop}

theorem insertMark_forall {n c : Nat} {ms : List Nat} (here : P n) (there : ∀ m ∈ ms, P m) :
    ∀ m ∈ insertMark n c ms, P m := by
  induction ms with
  | nil => simpa [insertMark] using here
  | cons m ms ih =>
    have rest := ih fun k listed => there k (List.mem_cons_of_mem _ listed)
    have first := there m (List.mem_cons_self ..)
    unfold insertMark
    dsimp only
    split
    · simpa [here, first] using fun k listed => there k (List.mem_cons_of_mem _ listed)
    · simpa [first] using rest

theorem orderFrom_forall {marks ns : List Nat} (marked : ∀ m ∈ marks, P m) (given : ∀ n ∈ ns, P n) :
    ∀ m ∈ orderFrom marks ns, P m := by
  induction ns generalizing marks with
  | nil => simpa [orderFrom] using marked
  | cons n ns ih =>
    have first := given n (List.mem_cons_self ..)
    have more : ∀ m ∈ ns, P m := fun m listed => given m (List.mem_cons_of_mem _ listed)
    unfold orderFrom
    dsimp only
    split
    · intro m listed
      rcases List.mem_append.mp listed with mark | later
      · exact marked m mark
      · rcases List.mem_cons.mp later with rfl | later
        · exact first
        · exact ih (by simp) more m later
    · exact ih (insertMark_forall first marked) more

theorem composeFrom_forall (composed : ∀ a b k, compose? a b = some k → P k) {base barrier : Nat}
    {kept ns : List Nat} (start : P base) (passed : ∀ n ∈ kept, P n) (given : ∀ n ∈ ns, P n) :
    ∀ m ∈ composeFrom base kept barrier ns, P m := by
  -- What was kept for later and the base are among the characters all along.
  induction ns generalizing base kept barrier with
  | nil => simpa [composeFrom, start] using passed
  | cons n ns ih =>
    have first := given n (List.mem_cons_self ..)
    have more : ∀ m ∈ ns, P m := fun m listed => given m (List.mem_cons_of_mem _ listed)
    unfold composeFrom
    dsimp only
    split
    · rename_i k joined
      split at joined
      · exact ih (composed _ _ _ joined) passed more
      · cases joined
    · split
      · intro m listed
        rcases List.mem_append.mp listed with before | after
        · rcases List.mem_cons.mp before with rfl | before
          · exact start
          · exact passed m (List.mem_reverse.mp before)
        · exact ih first (by simp) more m after
      · exact ih start (by simpa [first] using passed) more

-- What holds of composites and of all that characters decompose into holds of normalized text.
theorem normalize_forall (composed : ∀ a b k, compose? a b = some k → P k) {ns : List Nat}
    (decomposed : ∀ n ∈ ns, ∀ m ∈ decompose n, P m) : ∀ m ∈ normalize ns, P m := by
  have ordered : ∀ m ∈ orderFrom [] (ns.flatMap decompose), P m := by
    refine orderFrom_forall (by simp) ?_
    intro m listed
    obtain ⟨n, member, part⟩ := List.mem_flatMap.mp listed
    exact decomposed n member m part
  unfold normalize
  generalize orderFrom [] (ns.flatMap decompose) = parts at ordered
  cases parts with
  | nil => simp [compose]
  | cons n ns =>
    exact composeFrom_forall composed (ordered n (List.mem_cons_self ..)) (by simp)
      fun m listed => ordered m (List.mem_cons_of_mem _ listed)

end Origins

theorem toNat_ofNat_ascii {n : Nat} (small : n < 128) : (Char.ofNat n).toNat = n := by
  have every : ∀ n < 128, (Char.ofNat n).toNat = n := by decide
  exact every n small

theorem decompose_asterisk {n : Nat} (part : 0x2A ∈ decompose n) : n ∈ asterisks := by
  unfold decompose at part
  split at part
  · simp_all [asterisks]
  · split at part
    · simp only [Hangul.decompose, List.mem_append, List.mem_cons] at part
      split at part <;> simp at part <;> omega
    · split at part
      · rename_i image found
        obtain rfl := List.mem_singleton.mp part
        obtain ⟨r, listed, here⟩ := List.exists_of_findSome?_eq_some found
        have reached := (Table.Run.image?_eq_some.mp here).2
        have sources := List.all_eq_true.mp (TableFacts.single tableFacts) r listed
        rw [Bool.or_eq_true, decide_eq_true_eq] at sources
        have source := sources.resolve_left (by omega)
        exact of_decide_eq_true (List.all_eq_true.mp source n (Table.Run.mem_source here))
      · cases found : decompositionTable.lookup n with
        | none => simp_all [asterisks]
        | some parts =>
          rw [found, Option.getD_some] at part
          have free := List.all_eq_true.mp (TableFacts.several tableFacts) _ (lookup_mem found)
          exact absurd rfl (bne_iff_ne.mp (List.all_eq_true.mp free _ part))

theorem fold_asterisk {n m : Nat} (folded : m ∈ fold n) (asterisk : m ∈ asterisks) : n ∈ asterisks := by
  unfold fold at folded
  split at folded
  · rename_i image found
    obtain rfl := List.mem_singleton.mp folded
    obtain ⟨r, listed, here⟩ := List.exists_of_findSome?_eq_some found
    have bit := Table.testBit_allBits.mpr
      ⟨_, List.mem_map_of_mem (f := fun r => r.bits r.image) listed, (Table.Run.testBit_bits here).2⟩
    exact absurd bit (Bool.eq_false_iff.mp (TableFacts.folded tableFacts m asterisk))
  · cases found : foldManyTable.lookup n with
    | none =>
      rw [found, Option.getD_none, List.mem_singleton] at folded
      rwa [← folded]
    | some images =>
      rw [found, Option.getD_some] at folded
      exact absurd folded (TableFacts.foldedMany tableFacts _ (lookup_mem found) m asterisk)

theorem normalize_asterisk {ns : List Nat} (plain : ∀ n ∈ ns, n ∉ asterisks) :
    0x2A ∉ normalize (foldAll ns) := by
  have every : ∀ m ∈ normalize (foldAll ns), m ≠ 0x2A := by
    refine normalize_forall ?_ ?_
    · intro a b k composed
      have := compose?_some composed
      omega
    · rintro n folded m part rfl
      obtain ⟨k, kept, image⟩ := List.mem_flatMap.mp folded
      exact plain k (List.mem_filter.mp kept).1 (fold_asterisk image (decompose_asterisk part))
  exact fun listed => every _ listed rfl

section Labels

variable {cs l : List Char}

-- How characters are written that are folded, of whatever length that is.
def form (ns : List Nat) : List Char :=
  if isAscii (normalize ns) then (normalize ns).map Char.ofNat
  else encodedMark ++ Punycode.encode (normalize ns)

theorem fit?_eq_some : fit? cs = some l ↔ (0 < cs.length ∧ cs.length < 64) ∧ cs = l := by
  simp [fit?]

theorem prepare?_normalize {ns ms : List Nat} (prepared : prepare? ns = some ms) :
    ms = normalize (foldAll ns) := by
  unfold prepare? at prepared
  dsimp only at prepared
  split at prepared
  · cases prepared
  · split at prepared
    · exact (Option.some.inj prepared).symm
    · cases prepared

theorem asciiLabel?_cases (made : asciiLabel? cs = some l) :
    l ≠ [] ∧ (isAscii (cs.map Char.toNat) = true ∧ l = cs ∨ l = form (foldAll (cs.map Char.toNat))) := by
  have filled : ∀ {ds : List Char}, fit? ds = some l → l ≠ [] ∧ l = ds := by
    intro ds fit
    obtain ⟨⟨some, _⟩, rfl⟩ := fit?_eq_some.mp fit
    exact ⟨List.ne_nil_of_length_pos some, rfl⟩
  unfold asciiLabel? at made
  dsimp only at made
  split at made
  · rename_i ascii
    exact ⟨(filled made).1, .inl ⟨ascii, (filled made).2⟩⟩
  · obtain ⟨ns, prepared, encoded⟩ := Option.bind_eq_some_iff.mp made
    obtain rfl := prepare?_normalize prepared
    unfold encodePrepared? at encoded
    rw [form]
    split at encoded
    · rw [if_pos ‹_›]
      exact ⟨(filled encoded).1, .inr (filled encoded).2⟩
    · split at encoded
      · cases encoded
      · rw [if_neg ‹_›]
        exact ⟨(filled encoded).1, .inr (filled encoded).2⟩

end Labels

end International

namespace Hostname

theorem isLabelChar_plain {c : Char} (letter : isLabelChar c = true) :
    c.toNat ∉ International.asterisks ∧ c ≠ '\\' ∧ Name.isDot c = false := by
  have beyond : ∀ n ∈ International.asterisks.tail ++ International.stops, c.toNat ≠ n := by
    intro n listed same
    have large : ∀ n ∈ International.asterisks.tail ++ International.stops, 128 ≤ n := by decide
    have outside := large n listed
    have uncovered := Text.Table.covers_false
      (International.TableFacts.letterless International.tableFacts n listed)
    have other : c ≠ '-' := by
      rintro rfl
      exact absurd (same ▸ outside) (by decide)
    have wide : ¬ n < 128 := by omega
    simp [isLabelChar, Text.isAlphanumeric, wide, same, uncovered, other] at letter
  have foreign : ∀ d : Char, isLabelChar d = false → c ≠ d := by
    rintro d strange rfl
    rw [letter] at strange
    cases strange
  have stop : ∀ d : Char, d.toNat ∈ International.stops → c ≠ d := by
    rintro d listed rfl
    exact beyond _ (List.mem_append_right _ listed) rfl
  refine ⟨?_, foreign '\\' (by decide), ?_⟩
  · intro listed
    rcases List.mem_cons.mp listed with asterisk | wide
    · exact foreign '*' (by decide) (Char.toNat_inj.mp asterisk)
    · exact beyond _ (List.mem_append_left _ wide) rfl
  · simp [Name.isDot, foreign '.' (by decide), stop '。' (by decide), stop '．' (by decide),
      stop '｡' (by decide)]

end Hostname

namespace International

-- No label of letters, digits and hyphens becomes an asterisk, and a single byte is an ASCII character.
theorem asciiLabel?_single {cs : List Char} {c : Char} (label : cs.all Hostname.isLabelChar = true)
    (made : asciiLabel? cs = some [c]) : c.toNat < 128 ∧ c ≠ '*' := by
  have letters : ∀ c ∈ cs, Hostname.isLabelChar c = true := List.all_eq_true.mp label
  obtain ⟨_, ⟨ascii, rfl⟩ | written⟩ := asciiLabel?_cases made
  · refine ⟨by simpa [isAscii] using ascii, ?_⟩
    rintro rfl
    exact absurd (letters '*' (by simp)) (by decide)
  · have plain : ∀ n ∈ cs.map Char.toNat, n ∉ asterisks := by
      intro n listed
      obtain ⟨c, member, rfl⟩ := List.mem_map.mp listed
      exact (Hostname.isLabelChar_plain (letters c member)).1
    have free := normalize_asterisk plain
    unfold form at written
    split at written
    · rename_i ascii
      obtain ⟨n, single, rfl⟩ := List.map_eq_singleton_iff.mp written.symm
      rw [single] at ascii free
      have small : n < 128 := by simpa [isAscii] using ascii
      have code := toNat_ofNat_ascii small
      refine ⟨by rwa [code], ?_⟩
      intro asterisk
      rw [asterisk] at code
      exact free (by simp [← code])
    · have longer := congrArg List.length written
      simp [encodedMark] at longer

end International
end DnsSteering
