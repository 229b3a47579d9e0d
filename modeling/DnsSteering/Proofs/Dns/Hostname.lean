import DnsSteering.Proofs.Dns.Name
import DnsSteering.Proofs.International
import DnsSteering.Proofs.Text.Parts
import DnsSteering.Synthesis
import Mathlib.Data.List.Forall2

namespace DnsSteering

namespace Name

-- How the labels of a text are closed.
def closing (cs : List Char) : List Char → Except NameFault Label :=
  if isAscii cs then plainLabel else internationalLabel

-- A character that neither escapes another one nor is a dot, unless it is the full stop.
def Unescaped (c : Char) : Prop := c ≠ '\\' ∧ (isDot c = true → c = '.')

section Reading

variable {close : List Char → Except NameFault Label} {cs : List Char} {ls : List Label}

theorem readLabels_next {c : Char} {label : List Char} (plain : Unescaped c) (other : c ≠ '.') :
    readLabels close label (c :: cs) = readLabels close (c :: label) cs := by
  have noDot : isDot c = false := by simpa using fun dot => other (plain.2 dot)
  rw [readLabels]
  · simp [noDot]
  · rintro rfl
    exact absurd rfl plain.1
  · rintro d rest rfl
    exact absurd rfl plain.1

theorem readLabels_dot {label : List Char} (some : label ≠ []) :
    readLabels close label ('.' :: cs) =
      match close label.reverse with
      | .error f => .error (.met f)
      | .ok l => (readLabels close [] cs).map fun ls => l :: ls := by
  have dot : isDot '.' = true := by decide
  have given : label.isEmpty = false := by simpa using some
  rw [readLabels, dot, given]
  · cases close label.reverse <;> rfl
  · simp
  · simp

-- The induction is on the text. The label being read stands in front of the first part.
theorem readLabels_parts {label part : List Char} {parts : List (List Char)}
    (plain : ∀ c ∈ cs, Unescaped c) (split : Text.split '.' cs = part :: parts)
    (some : label.reverse ++ part ≠ []) (filled : ∀ p ∈ parts, p ≠ []) :
    readLabels close label cs = .ok ls ↔
      List.Forall₂ (fun p l => close p = .ok l) ((label.reverse ++ part) :: parts) ls := by
  -- The label holds what was read of the first part, last character first.
  induction cs generalizing label part parts ls with
  | nil =>
    obtain ⟨rfl, rfl⟩ : [] = part ∧ [] = parts := by simpa [Text.split] using split
    have given : label.isEmpty = false := by simpa using some
    rw [readLabels, given]
    simp only [Bool.false_eq_true, if_false, List.append_nil, List.forall₂_cons_left_iff,
      List.forall₂_nil_left_iff]
    cases made : close label.reverse <;> simp [eq_comm]
  | cons c cs ih =>
    have more : ∀ d ∈ cs, Unescaped d := fun d listed => plain d (List.mem_cons_of_mem _ listed)
    obtain ⟨next, rest, following⟩ := List.exists_cons_of_ne_nil (Text.split_ne_nil '.' cs)
    rw [Text.split] at split
    by_cases dot : c = '.'
    · subst dot
      simp only [if_true, List.cons.injEq] at split
      obtain ⟨rfl, rfl⟩ := split
      rw [following] at filled
      have given : label ≠ [] := by simpa using some
      have tail : ∀ ls, readLabels close [] cs = .ok ls ↔
          List.Forall₂ (fun p l => close p = .ok l) (next :: rest) ls := fun ls =>
        ih more following (filled next (List.mem_cons_self ..)) fun p listed =>
          filled p (List.mem_cons_of_mem _ listed)
      rw [readLabels_dot given, following, List.forall₂_cons_left_iff, List.append_nil]
      cases made : close label.reverse with
      | error f => simp
      | ok l =>
        constructor
        · intro done
          obtain ⟨more, read, rfl⟩ := ok_of_map done
          exact ⟨l, more, rfl, (tail more).mp read, rfl⟩
        · rintro ⟨l', more, same, read, rfl⟩
          cases same
          simp [(tail more).mpr read, Except.map]
    · rw [if_neg dot, following] at split
      simp only [List.cons.injEq] at split
      obtain ⟨rfl, rfl⟩ := split
      have longer : (c :: label).reverse ++ next ≠ [] := by simp
      rw [readLabels_next (plain c (List.mem_cons_self ..)) dot, ih more following longer filled]
      simp

theorem check_iff {ls : List Label} {name : Name} :
    check ls = .ok name ↔ check ls = .ok ⟨ls⟩ ∧ name = ⟨ls⟩ := by
  constructor
  · intro checked
    have labels := check_labels checked
    obtain ⟨ls'⟩ := name
    cases labels
    exact ⟨checked, rfl⟩
  · rintro ⟨checked, rfl⟩
    exact checked

theorem read_parts {s : String} {name : Name} (plain : ∀ c ∈ s.toList, Unescaped c)
    (noOrigin : s.toList ≠ ['@']) (filled : ∀ p ∈ Text.split '.' s.toList, p ≠ []) :
    read s = .ok name ↔ check name.labels = .ok name ∧
      List.Forall₂ (fun p l => closing s.toList p = .ok l) (Text.split '.' s.toList) name.labels := by
  -- The root and the origin are the only names that are not read by their labels.
  have noRoot : ∀ c, s.toList = [c] → isDot c = false := by
    intro c single
    rw [single] at plain filled
    cases dot : isDot c with
    | false => rfl
    | true =>
      cases (plain c (by simp)).2 dot
      exact absurd rfl (filled [] (by simp [Text.split]))
  have labelled : read s = ofChars.rest s.toList := by
    unfold read ofChars
    rw [if_neg noOrigin]
    split
    · rename_i c single
      rw [if_neg (by simp [noRoot c single])]
    · rfl
  obtain ⟨part, parts, split⟩ := List.exists_cons_of_ne_nil (Text.split_ne_nil '.' s.toList)
  rw [split] at filled ⊢
  have first : [].reverse ++ part ≠ [] := filled part (List.mem_cons_self ..)
  have parted : ∀ ls, readLabels (closing s.toList) [] s.toList = .ok ls ↔
      List.Forall₂ (fun p l => closing s.toList p = .ok l) (part :: parts) ls := fun ls =>
    readLabels_parts plain split first fun p listed => filled p (List.mem_cons_of_mem _ listed)
  rw [labelled]
  unfold ofChars.rest
  rw [← closing]
  cases got : readLabels (closing s.toList) [] s.toList with
  | error stop =>
    have none := parted name.labels
    rw [got] at none
    simp only [reduceCtorEq, false_iff] at none
    simp only [reduceCtorEq, false_iff, not_and]
    exact fun _ => none
  | ok ls =>
    have one := parted ls
    rw [got] at one
    constructor
    · intro checked
      rw [check_labels checked]
      exact ⟨checked, one.mp rfl⟩
    · rintro ⟨checked, closed⟩
      have same := (parted name.labels).mpr closed
      rw [got] at same
      cases Except.ok.inj same
      exact checked

end Reading
end Name

namespace Hostname

-- Whether a hostname is written with a wildcard in front, and what it is without.
def isWild (cs : List Char) : Bool := ['*', '.'].isPrefixOf cs

def bare (cs : List Char) : List Char := if isWild cs then cs.drop 2 else cs

theorem split_wild (cs : List Char) :
    Text.split '.' ('*' :: '.' :: cs) = ['*'] :: Text.split '.' cs := rfl

theorem isAscii_wild (cs : List Char) : Name.isAscii ('*' :: '.' :: cs) = Name.isAscii cs := by
  simp [Name.isAscii]

theorem unescaped_wild {cs : List Char} (plain : ∀ c ∈ cs, Name.Unescaped c) :
    ∀ c ∈ '*' :: '.' :: cs, Name.Unescaped c := by
  have star : Name.Unescaped '*' := ⟨by decide, by decide⟩
  have stop : Name.Unescaped '.' := ⟨by decide, fun _ => rfl⟩
  exact List.forall_mem_cons.mpr ⟨star, List.forall_mem_cons.mpr ⟨stop, plain⟩⟩

theorem closing_asterisk {cs : List Char} {l : List UInt8} (closed : Name.closing cs ['*'] = .ok l) :
    l = [42] := by
  unfold Name.closing at closed
  split at closed
  · exact (Except.ok.inj closed).symm
  · exact (Except.ok.inj closed).symm

theorem wild_or_bare (cs : List Char) :
    (isWild cs = true ∧ cs = '*' :: '.' :: bare cs) ∨ (isWild cs = false ∧ bare cs = cs) := by
  cases wild : isWild cs with
  | false => exact .inr ⟨rfl, by simp [bare, wild]⟩
  | true =>
    left
    obtain ⟨rest, rfl⟩ := List.isPrefixOf_iff_prefix.mp wild
    rw [bare, if_pos wild]
    exact ⟨wild, rfl⟩

theorem labels_bare (cs : List Char) : labels true cs = Text.split '.' (bare cs) := by
  rcases wild_or_bare cs with ⟨_, written⟩ | ⟨plain, same⟩
  · have parts : Text.split '.' cs = ['*'] :: Text.split '.' (bare cs) :=
      (congrArg _ written).trans (split_wild _)
    obtain ⟨l, ls, more⟩ := List.exists_cons_of_ne_nil (Text.split_ne_nil '.' (bare cs))
    simp [labels, parts, more]
  · rw [same]
    unfold labels
    split
    · rename_i l ls parts
      have whole := Text.join_split '.' cs
      rw [parts] at whole
      rw [← whole] at plain
      simp [Text.join, isWild] at plain
    · rfl

theorem refusal?_eq_none {wildcard : Bool} {s : String} : refusal? wildcard s = none ↔
    s.toList ≠ [] ∧ (∀ l ∈ labels wildcard s.toList, isLabel l = true) ∧
      ∃ name, Name.read s = .ok name := by
  have given : s.isEmpty = true ↔ s.toList = [] := by simp
  rw [← List.all_eq_true]
  unfold refusal?
  split
  · simp_all
  · split
    · simp_all
    · cases Name.read s <;> simp_all

section Accepted

variable {h : String} (accepted : refusal? true h = none)

include accepted

theorem accepted_labels : ∀ p ∈ Text.split '.' (bare h.toList), isLabel p = true := by
  rw [← labels_bare]
  exact (refusal?_eq_none.mp accepted).2.1

theorem accepted_chars : ∀ c ∈ bare h.toList, c = '.' ∨ isLabelChar c = true := by
  intro c listed
  rcases Text.part_of_mem listed with dot | ⟨part, member, inside⟩
  · exact .inl dot
  · have label := accepted_labels accepted part member
    simp only [isLabel, Bool.and_eq_true] at label
    exact .inr (List.all_eq_true.mp label.2 c inside)

theorem accepted_unescaped : ∀ c ∈ bare h.toList, Name.Unescaped c := by
  intro c listed
  rcases accepted_chars accepted c listed with rfl | letter
  · exact ⟨by decide, fun _ => rfl⟩
  · obtain ⟨_, noEscape, noDot⟩ := isLabelChar_plain letter
    exact ⟨noEscape, fun dot => by simp [noDot] at dot⟩

theorem accepted_filled : ∀ p ∈ Text.split '.' (bare h.toList), p ≠ [] := by
  rintro p listed rfl
  exact absurd (accepted_labels accepted [] listed) (by decide)

-- The name of an accepted hostname: the labels behind the wildcard, if there is one.
theorem accepted_read : ∃ name ls, Name.read h = .ok name ∧
    name.labels = (if isWild h.toList then [[42]] else []) ++ ls ∧
    List.Forall₂ (fun p l => Name.closing (bare h.toList) p = .ok l)
      (Text.split '.' (bare h.toList)) ls := by
  obtain ⟨_, _, name, read⟩ := refusal?_eq_none.mp accepted
  have unescaped := accepted_unescaped accepted
  have filled := accepted_filled accepted
  rcases wild_or_bare h.toList with ⟨wild, written⟩ | ⟨plain, same⟩
  · have parts : Text.split '.' h.toList = ['*'] :: Text.split '.' (bare h.toList) :=
      (congrArg _ written).trans (split_wild _)
    have ascii : Name.isAscii h.toList = Name.isAscii (bare h.toList) :=
      (congrArg _ written).trans (isAscii_wild _)
    have unescaped' : ∀ c ∈ h.toList, Name.Unescaped c := by
      rw [written]
      exact unescaped_wild unescaped
    have filled' : ∀ p ∈ Text.split '.' h.toList, p ≠ [] := by
      rw [parts]
      exact List.forall_mem_cons.mpr ⟨by simp, filled⟩
    have closed := ((Name.read_parts unescaped' (by rw [written]; simp) filled').mp read).2
    rw [parts, List.forall₂_cons_left_iff] at closed
    obtain ⟨l, ls, star, closed, labelled⟩ := closed
    refine ⟨name, ls, read, by rw [labelled, closing_asterisk star, if_pos wild]; rfl, ?_⟩
    unfold Name.closing at closed ⊢
    rwa [ascii] at closed
  · rw [same] at unescaped filled ⊢
    have noOrigin : h.toList ≠ ['@'] := by
      intro origin
      have chars := accepted_chars accepted
      rw [same, origin] at chars
      exact absurd (chars '@' (by simp)) (by decide)
    have closed := ((Name.read_parts unescaped noOrigin filled).mp read).2
    exact ⟨name, name.labels, read, by simp [plain], closed⟩

theorem accepted_notWild {p : List Char} {l : Label} (member : p ∈ Text.split '.' (bare h.toList))
    (closed : Name.closing (bare h.toList) p = .ok l) : l ≠ [42] := by
  have label := accepted_labels accepted p member
  simp only [isLabel, Bool.and_eq_true] at label
  have single : ∀ c : Char, c.toNat < 128 → c ≠ '*' → UInt8.ofNat c.toNat ≠ 42 := by
    intro c ascii other same
    have code := congrArg UInt8.toNat same
    rw [UInt8.toNat_ofNat', Nat.mod_eq_of_lt (show c.toNat < 2 ^ 8 by omega)] at code
    exact other (Char.toNat_inj.mp code)
  unfold Name.closing at closed
  split at closed
  · rename_i ascii
    rintro rfl
    obtain ⟨c, rfl, same⟩ := List.map_eq_singleton_iff.mp (Except.ok.inj closed)
    have inside := Text.mem_of_part member (List.mem_singleton_self c)
    refine single c (by simpa using List.all_eq_true.mp ascii c inside) ?_ same
    rintro rfl
    exact absurd (List.all_eq_true.mp label.2 '*' (by simp)) (by decide)
  · unfold Name.internationalLabel at closed
    split at closed
    · rename_i form made
      rintro rfl
      obtain ⟨c, rfl, same⟩ := List.map_eq_singleton_iff.mp (Except.ok.inj closed)
      obtain ⟨ascii, other⟩ := International.asciiLabel?_single label.2 made
      exact single c ascii other same
    · cases closed

-- Behind a wildcard the ASCII forms of the labels are left, and else what was written.
theorem accepted_base : ∃ ls, ls ≠ [] ∧ (∀ l ∈ ls, l ≠ []) ∧
    List.Forall₂ (fun p l => Name.closing (bare h.toList) p = .ok l)
      (Text.split '.' (bare h.toList)) ls ∧
    base (.str h) = .ok
      (if isWild h.toList then String.ofList (Name.relativeText ls) else h) := by
  obtain ⟨name, ls, read, labelled, closed⟩ := accepted_read accepted
  have parts : ls ≠ [] := by
    rintro rfl
    exact Text.split_ne_nil '.' _ (List.forall₂_nil_right_iff.mp closed)
  have filled : ∀ l ∈ ls, l ≠ [] := fun l listed =>
    Name.read_filled read l (by rw [labelled]; exact List.mem_append_right _ listed)
  refine ⟨ls, parts, filled, closed, ?_⟩
  unfold base
  simp only [Name.ofJson, LooseText.mended_plain, read]
  cases wild : isWild h.toList with
  | true =>
    rw [wild, if_pos rfl] at labelled
    simp [Name.isWild, Name.parent, labelled]
  | false =>
    rw [wild] at labelled
    simp only [Bool.false_eq_true, if_false, List.nil_append] at labelled
    have first : name.isWild = false := by
      obtain ⟨l, more, rfl⟩ := List.exists_cons_of_ne_nil parts
      obtain ⟨p, others, made, _, split⟩ := List.forall₂_cons_right_iff.mp closed
      have notWild := accepted_notWild accepted (by rw [split]; exact List.mem_cons_self ..) made
      simpa [Name.isWild, labelled] using notWild
    have some : name ≠ Name.root := by
      rintro rfl
      exact parts labelled.symm
    simp [first, some, Json.display]

end Accepted

-- At most the dot behind a wildcard is gone from what is left of a hostname.
theorem count_base {h left : String} (accepted : refusal? true h = none)
    (stripped : base (.str h) = .ok left) : h.toList.count '.' ≤ left.toList.count '.' + 1 := by
  obtain ⟨ls, _, _, closed, bared⟩ := accepted_base accepted
  cases Except.ok.inj (bared.symm.trans stripped)
  rcases wild_or_bare h.toList with ⟨wild, written⟩ | ⟨plain, _⟩
  · have parts := closed.length_eq
    have texts := Name.count_relativeText ls
    rw [Text.length_split] at parts
    have dots : h.toList.count '.' = (bare h.toList).count '.' + 1 := by
      conv_lhs => rw [written]
      simp
    rw [if_pos wild, String.toList_ofList]
    omega
  · rw [if_neg (by simp [plain])]
    exact Nat.le_succ _

end Hostname

-- There is always something to publish for a hostname that was accepted.
theorem Synthesis.listenerBase_accepted {h : String} (accepted : Hostname.refusal? true h = none) :
    ∃ base, listenerBase (.str h) = .ok base ∧ Hostname.base (.str h) = .ok base ∧ base ≠ "" := by
  have given : h ≠ "" := by
    rintro rfl
    simp [Hostname.refusal?] at accepted
  obtain ⟨ls, parts, filled, _, left⟩ := Hostname.accepted_base accepted
  have some : (if Hostname.isWild h.toList then String.ofList (Name.relativeText ls) else h) ≠ "" := by
    split
    · intro empty
      exact parts ((Name.relativeText_nil filled).mp (by simpa using congrArg String.toList empty))
    · exact given
  exact ⟨_, by simp [listenerBase, Json.truthy, given, left, some], left, some⟩

end DnsSteering
