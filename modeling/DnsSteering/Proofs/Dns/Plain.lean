import DnsSteering.Proofs.Dns.Hostname
import DnsSteering.Proofs.Zone.Words

namespace DnsSteering

namespace Name

-- A character of a plain name.
def IsPlainChar (c : Char) : Prop := c.toNat < 128 ∧ (Hostname.isLabelChar c = true ∨ c = '*')

def IsPlain (cs : List Char) : Prop :=
  ∀ part ∈ Text.split '.' cs, part ≠ [] ∧ ∀ c ∈ part, IsPlainChar c

-- Within the limits of names: labels of sixty-three characters, and 253 in all.
def Fits (cs : List Char) : Prop := (∀ part ∈ Text.split '.' cs, part.length ≤ 63) ∧ cs.length ≤ 253

def bytes (cs : List Char) : Label := cs.map fun c => UInt8.ofNat c.toNat

theorem plainChar_facts {c : Char} (plain : IsPlainChar c) : c ≠ '.' ∧ Unescaped c ∧ c ≠ '@' ∧
    c ∉ Zone.special ∧ IsPlainChar c.toLower ∧ escapeByte (UInt8.ofNat c.toNat) = [c] := by
  have every : ∀ n < 128, Hostname.isLabelChar (Char.ofNat n) = true ∨ Char.ofNat n = '*' →
      Char.ofNat n ≠ '.' ∧ (Char.ofNat n ≠ '\\' ∧ isDot (Char.ofNat n) = false) ∧ Char.ofNat n ≠ '@' ∧
      Char.ofNat n ∉ Zone.special ∧ ((Char.ofNat n).toLower.toNat < 128 ∧
        (Hostname.isLabelChar (Char.ofNat n).toLower = true ∨ (Char.ofNat n).toLower = '*')) ∧
      escapeByte (UInt8.ofNat (Char.ofNat n).toNat) = [Char.ofNat n] := by
    decide +kernel
  obtain ⟨ascii, letter⟩ := plain
  have here := every c.toNat ascii
  rw [Char.ofNat_toNat] at here
  obtain ⟨noStop, ⟨noEscape, noDot⟩, noOrigin, ordinary, small, escaped⟩ := here letter
  exact ⟨noStop, ⟨noEscape, fun dot => by simp [noDot] at dot⟩, noOrigin, ordinary, small, escaped⟩

theorem plainChar_quiet : ∀ c ∈ quiet, IsPlainChar c := by
  have every : ∀ c ∈ quiet, c.toNat < 128 ∧ (Hostname.isLabelChar c = true ∨ c = '*') :=
    Text.forall_of_all (by decide +kernel)
  exact every

-- Labels of such characters are written as they were read.
theorem relativeText_bytes {cs : List Char} (letters : ∀ c ∈ cs, c = '.' ∨ IsPlainChar c) :
    relativeText ((Text.split '.' cs).map bytes) = cs := by
  have label : ∀ part : List Char, (∀ c ∈ part, IsPlainChar c) → labelText (bytes part) = part := by
    intro part letters
    induction part with
    | nil => rfl
    | cons c part ih =>
      have rest := ih fun d listed => letters d (List.mem_cons_of_mem _ listed)
      have here := (plainChar_facts (letters c (List.mem_cons_self ..))).2.2.2.2.2
      unfold labelText bytes at rest ⊢
      rw [List.map_cons, List.flatMap_cons, here, rest]
      rfl
  have joined : ∀ parts : List (List Char), (∀ part ∈ parts, ∀ c ∈ part, IsPlainChar c) →
      Name.relativeText (parts.map bytes) = Text.join '.' parts := by
    intro parts letters
    fun_induction Text.join '.' parts with
    | case1 => rfl
    | case2 part => exact label part (letters part (by simp))
    | case3 part parts more ih =>
      have rest := ih fun other listed => letters other (List.mem_cons_of_mem _ listed)
      obtain ⟨next, others, rfl⟩ := List.exists_cons_of_ne_nil (by simpa using more)
      rw [List.map_cons, List.map_cons, Name.relativeText, ← List.map_cons, rest,
        label part (letters part (List.mem_cons_self ..))]
      simp
  have inside : ∀ part ∈ Text.split '.' cs, ∀ c ∈ part, IsPlainChar c := by
    intro part member c listed
    refine (letters c (Text.mem_of_part member listed)).resolve_left ?_
    rintro rfl
    exact Text.separator_notMem_split member listed
  rw [joined _ inside, Text.join_split]

section Plain

variable {cs : List Char} (plain : IsPlain cs)

include plain

theorem IsPlain.chars : ∀ c ∈ cs, c = '.' ∨ IsPlainChar c := by
  intro c listed
  rcases Text.part_of_mem listed with stop | ⟨part, member, inside⟩
  · exact .inl stop
  · exact .inr ((plain part member).2 c inside)

theorem IsPlain.ascii : ∀ c ∈ cs, c.toNat < 128 := by
  intro c listed
  rcases plain.chars c listed with rfl | letter
  · decide
  · exact letter.1

theorem IsPlain.some : cs ≠ [] := by
  rintro rfl
  exact (plain [] (by simp [Text.split])).1 rfl

theorem IsPlain.word : Zone.IsWord cs := by
  refine ⟨plain.some, ?_⟩
  intro c listed
  rcases plain.chars c listed with rfl | letter
  · decide
  · exact Zone.special_notMem (plainChar_facts letter).2.2.2.1

theorem IsPlain.map_toLower : IsPlain (cs.map Char.toLower) := by
  have parts : Text.split '.' (cs.map Char.toLower) = (Text.split '.' cs).map (·.map Char.toLower) := by
    have mapped : ∀ ds : List Char, ds.map Char.toLower = ds.flatMap fun c => [c.toLower] := by
      intro ds
      induction ds with
      | nil => rfl
      | cons d ds ih => simp [ih]
    simp only [mapped]
    refine Text.split_flatMap (by decide) ?_
    intro c listed other
    have letter := (plain.chars c listed).resolve_left other
    have small := (plainChar_facts letter).2.2.2.2.1
    simpa using (plainChar_facts small).1.symm
  intro part member
  rw [parts] at member
  obtain ⟨old, inside, rfl⟩ := List.mem_map.mp member
  obtain ⟨some, letters⟩ := plain old inside
  refine ⟨by simpa using some, ?_⟩
  intro c listed
  obtain ⟨d, here, rfl⟩ := List.mem_map.mp listed
  exact (plainChar_facts (letters d here)).2.2.2.2.1

theorem IsPlain.cons {label : List Char} (given : label ≠ []) (letters : ∀ c ∈ label, IsPlainChar c) :
    IsPlain (label ++ '.' :: cs) := by
  intro part member
  rw [Text.split_append '.' fun stop => (plainChar_facts (letters '.' stop)).1 rfl] at member
  rcases List.mem_cons.mp member with rfl | later
  · exact ⟨given, letters⟩
  · exact plain part later

end Plain

theorem check_ok {ls : List Label} : check ls = .ok ⟨ls⟩ ↔
    (∀ l ∈ ls, l.length ≤ 63) ∧ (ls.map fun l => l.length + 1).sum + 1 ≤ 255 := by
  -- The root at the end takes one more octet, that of its length.
  have wire : (Name.mk ls).wireLength = (ls.map fun l => l.length + 1).sum + 1 := by
    have folded : ∀ ls : List Label, ls.foldr (fun l n => l.length + 1 + n) 1 =
        (ls.map fun l => l.length + 1).sum + 1 := by
      intro ls
      induction ls with
      | nil => rfl
      | cons l ls ih => simp [ih]; omega
    exact folded ls
  unfold check
  rw [wire]
  split
  · rename_i long
    obtain ⟨l, member, longer⟩ := List.any_eq_true.mp long
    simp only [reduceCtorEq, false_iff, not_and]
    intro short
    have := short l member
    simp at longer
    omega
  · rename_i short
    have each : ∀ l ∈ ls, l.length ≤ 63 := by simpa using short
    split
    · rename_i long
      simp only [reduceCtorEq, false_iff, not_and]
      omega
    · rename_i within
      simp only [true_iff]
      exact ⟨each, by omega⟩

-- In ASCII every label is taken as it is.
theorem closing_ascii {cs : List Char} (ascii : ∀ c ∈ cs, c.toNat < 128) {parts : List (List Char)}
    {ls : List Label} :
    List.Forall₂ (fun p l => closing cs p = .ok l) parts ls ↔ ls = parts.map bytes := by
  have all : isAscii cs = true := List.all_eq_true.mpr fun c listed => by simpa using ascii c listed
  rw [show closing cs = plainLabel by simp [closing, all]]
  constructor
  · intro each
    induction each with
    | nil => rfl
    | cons here _ ih =>
      rw [ih, List.map_cons, ← Except.ok.inj here]
      rfl
  · rintro rfl
    rw [List.forall₂_map_right_iff]
    exact List.forall₂_same.mpr fun _ _ => rfl

-- A plain name is read part by part, each part as its bytes.
theorem IsPlain.read_iff {s : String} (plain : IsPlain s.toList) {name : Name} :
    read s = .ok name ↔ check name.labels = .ok name ∧
      name.labels = (Text.split '.' s.toList).map bytes := by
  have unescaped : ∀ c ∈ s.toList, Unescaped c := by
    intro c listed
    rcases plain.chars c listed with rfl | letter
    · exact ⟨by decide, fun _ => rfl⟩
    · exact (plainChar_facts letter).2.1
  have noOrigin : s.toList ≠ ['@'] := by
    intro single
    rcases plain.chars '@' (by simp [single]) with stop | letter
    · exact absurd stop (by decide)
    · exact (plainChar_facts letter).2.2.1 rfl
  rw [← closing_ascii plain.ascii]
  exact read_parts unescaped noOrigin fun part member => (plain part member).1

-- A plain name is read exactly if it fits.
theorem read_plain {s : String} (plain : IsPlain s.toList) :
    (∃ name, read s = .ok name) ↔ Fits s.toList := by
  have lengths : ((Text.split '.' s.toList).map bytes).map (fun l => l.length + 1) =
      (Text.split '.' s.toList).map fun part => part.length + 1 := by
    simp [bytes, Function.comp_def]
  constructor
  · rintro ⟨name, read⟩
    obtain ⟨checked, labels⟩ := plain.read_iff.mp read
    have within := check_ok.mp (check_iff.mp checked).1
    rw [labels, lengths, Text.length_parts] at within
    obtain ⟨each, all⟩ := within
    refine ⟨fun part member => ?_, by omega⟩
    simpa [bytes] using each _ (List.mem_map_of_mem member)
  · rintro ⟨each, all⟩
    refine ⟨⟨(Text.split '.' s.toList).map bytes⟩, plain.read_iff.mpr ⟨check_ok.mpr ⟨?_, ?_⟩, rfl⟩⟩
    · intro l member
      obtain ⟨part, inside, rfl⟩ := List.mem_map.mp member
      simpa [bytes] using each part inside
    · rw [lengths, Text.length_parts]
      omega

-- And it is written as it was read, with a dot at the end.
theorem IsPlain.text_read {s : String} (plain : IsPlain s.toList) {name : Name}
    (done : read s = .ok name) : name.text = s.toList ++ ['.'] := by
  obtain ⟨_, labels⟩ := plain.read_iff.mp done
  have written := relativeText_bytes plain.chars
  rw [← labels] at written
  unfold text
  split
  · rename_i none
    rw [none] at written
    exact absurd written.symm plain.some
  · rw [written]

end Name

namespace Hostname

theorem plain_of_labels {cs : List Char} (ascii : ∀ c ∈ cs, c.toNat < 128)
    (labels : ∀ part ∈ Text.split '.' cs, isLabel part = true) : Name.IsPlain cs := by
  intro part member
  have label := labels part member
  simp only [isLabel, Bool.and_eq_true] at label
  refine ⟨by simpa using label.1, ?_⟩
  intro c inside
  exact ⟨ascii c (Text.mem_of_part member inside), .inl (List.all_eq_true.mp label.2 c inside)⟩

-- A wildcard in front leaves a name plain.
theorem plain_wild {cs : List Char} (plain : Name.IsPlain cs) : Name.IsPlain ('*' :: '.' :: cs) := by
  have asterisk : ∀ c ∈ ['*'], Name.IsPlainChar c := by
    intro c star
    rw [List.mem_singleton.mp star]
    exact ⟨by decide, .inr rfl⟩
  exact plain.cons (by simp) asterisk

section Ascii

variable {h : String} (accepted : refusal? true h = none) (ascii : ∀ c ∈ h.toList, c.toNat < 128)

include accepted ascii

theorem bare_plain : Name.IsPlain (bare h.toList) := by
  refine plain_of_labels ?_ (accepted_labels accepted)
  intro c listed
  refine ascii c ?_
  rcases wild_or_bare h.toList with ⟨_, written⟩ | ⟨_, same⟩
  · rw [written]
    simp [listed]
  · rwa [← same]

theorem hostname_plain : Name.IsPlain h.toList := by
  have plain := bare_plain accepted ascii
  rcases wild_or_bare h.toList with ⟨_, written⟩ | ⟨_, same⟩
  · rw [written]
    exact plain_wild plain
  · rwa [← same]

-- In ASCII a wildcard is all that is taken away.
theorem base_ascii : base (.str h) = .ok (String.ofList (bare h.toList)) := by
  have plain := bare_plain accepted ascii
  obtain ⟨ls, _, _, closed, left⟩ := accepted_base accepted
  rw [left]
  rcases wild_or_bare h.toList with ⟨wild, _⟩ | ⟨notWild, same⟩
  · rw [Name.closing_ascii plain.ascii] at closed
    rw [if_pos wild, closed, Name.relativeText_bytes plain.chars]
  · simp [notWild, same]

end Ascii
end Hostname
end DnsSteering
