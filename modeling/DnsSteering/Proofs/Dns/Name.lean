import DnsSteering.Proofs.International
import DnsSteering.Proofs.Text.Parts

namespace DnsSteering

namespace Name

theorem plainLabel_filled {cs : List Char} {l : Label} (given : cs ≠ [])
    (made : plainLabel cs = .ok l) : l ≠ [] := by
  cases Except.ok.inj made
  simpa using given

theorem internationalLabel_filled {cs : List Char} {l : Label}
    (made : internationalLabel cs = .ok l) : l ≠ [] := by
  unfold internationalLabel at made
  cases ascii : International.asciiLabel? cs with
  | none => simp [ascii] at made
  | some form =>
    simp only [ascii] at made
    exact plainLabel_filled (International.asciiLabel?_cases ascii).1 made

-- The induction is on the reading; a label is closed at a dot and at the end.
theorem readLabels_filled {close : List Char → Except NameFault Label}
    (filled : ∀ {cs l}, cs ≠ [] → close cs = .ok l → l ≠ []) (label cs : List Char)
    {ls : List Label} (done : readLabels close label cs = .ok ls) : ∀ l ∈ ls, l ≠ [] := by
  have closed : ∀ {label : List Char} {l : Label}, ¬ label.isEmpty = true →
      close label.reverse = .ok l → l ≠ [] := by
    intro label l some made
    refine filled ?_ made
    simpa using some
  fun_induction readLabels close label cs generalizing ls with
  | case1 =>
    cases Except.ok.inj done
    simp
  | case3 label some l made =>
    cases Except.ok.inj done
    intro l' listed
    rw [List.mem_singleton.mp listed]
    exact closed some made
  | case6 label c digit d e rest byte numbered ih => exact ih done
  | case9 label c rest plain ih => exact ih done
  | case12 label c rest _ _ dot some l made ih =>
    cases tail : readLabels close [] rest with
    | error stop => simp [tail, Except.map] at done
    | ok more =>
      simp only [tail, Except.map, Except.ok.injEq] at done
      rw [← done]
      intro l' listed
      rcases List.mem_cons.mp listed with rfl | later
      · exact closed some made
      · exact ih tail l' later
  | case13 label c rest _ _ plain ih => exact ih done
  | case2 | case4 | case5 | case7 | case8 | case10 | case11 => cases done

theorem check_labels {ls : List Label} {name : Name} (checked : check ls = .ok name) :
    name.labels = ls := by
  unfold check at checked
  split at checked
  · cases checked
  · split at checked
    · cases checked
    · cases checked
      rfl

theorem read_filled {s : String} {name : Name} (done : read s = .ok name) :
    ∀ l ∈ name.labels, l ≠ [] := by
  have labelled : ∀ {cs : List Char}, ofChars.rest cs = .ok name → ∀ l ∈ name.labels, l ≠ [] := by
    intro cs done
    unfold ofChars.rest at done
    split at done
    · cases done
    · rename_i ls labels
      rw [check_labels done]
      refine readLabels_filled ?_ [] cs labels
      intro cs l some made
      split at made
      · exact plainLabel_filled some made
      · exact internationalLabel_filled made
  have rooted : root.labels = [] := rfl
  unfold read ofChars at done
  split at done
  · cases Except.ok.inj done
    simp [rooted]
  · split at done
    · split at done
      · cases Except.ok.inj done
        simp [rooted]
      · exact labelled done
    · exact labelled done

theorem escapeByte_filled (b : UInt8) : escapeByte b ≠ [] := by
  unfold escapeByte
  split
  · simp
  · split
    · simp
    · simp

theorem relativeText_nil {ls : List Label} (filled : ∀ l ∈ ls, l ≠ []) :
    relativeText ls = [] ↔ ls = [] := by
  have written : ∀ l : Label, l ≠ [] → labelText l ≠ [] := by
    intro l some empty
    cases l with
    | nil => exact some rfl
    | cons b bs =>
      have first : escapeByte b = [] := (List.append_eq_nil_iff.mp empty).1
      exact escapeByte_filled b first
  cases ls with
  | nil => simp [relativeText]
  | cons l ls =>
    have here := written l (filled l (List.mem_cons_self ..))
    cases ls with
    | nil => simpa [relativeText] using here
    | cons m ms => simp [relativeText]

-- Characters that stand for themselves in every name, and in lower case too.
def quiet : List Char := "0123456789abcdefghijklmnopqrstuvwxyz-".toList

theorem quiet_facts : ∀ c ∈ quiet, c.toNat < 128 ∧ c.toLower = c ∧ c ≠ '\\' ∧ isDot c = false ∧
    UInt8.ofNat c.toNat ≠ 42 :=
  Text.forall_of_all (by decide)

section Quiet

variable {label : List Char} (only : ∀ c ∈ label, c ∈ quiet)

include only

theorem readLabels_quiet (close : List Char → Except NameFault Label) (read cs : List Char) :
    readLabels close read (label ++ '.' :: cs) =
      readLabels close (label.reverse ++ read) ('.' :: cs) := by
  induction label generalizing read with
  | nil => rfl
  | cons c label ih =>
    obtain ⟨_, _, noEscape, noDot, _⟩ := quiet_facts c (only c (List.mem_cons_self ..))
    rw [List.cons_append, readLabels]
    · rw [noDot]
      simpa using ih (fun d member => only d (List.mem_cons_of_mem _ member)) (c :: read)
    · simp
    · intro d rest escape
      exact absurd escape noEscape

-- A quiet label is read as it stands, whatever else is in the name.
theorem closed_quiet {ascii : Bool} {l : Label}
    (made : (if ascii then plainLabel else internationalLabel) label = .ok l) :
    l = label.map fun c => UInt8.ofNat c.toNat := by
  cases ascii with
  | true => exact (Except.ok.inj made).symm
  | false =>
    have plain : International.isAscii (label.map Char.toNat) = true := by
      apply List.all_eq_true.mpr
      intro n member
      obtain ⟨c, listed, rfl⟩ := List.mem_map.mp member
      exact decide_eq_true (quiet_facts c (only c listed)).1
    unfold International.isAscii at plain
    simp only [Bool.false_eq_true, if_false, internationalLabel, International.asciiLabel?,
      International.isAscii, plain, if_true, International.fit?] at made
    split at made
    · rename_i form fitted
      split at fitted
      · cases fitted
        exact (Except.ok.inj made).symm
      · cases fitted
    · cases made

-- The first label of a name that starts with it.
theorem read_quiet_first {s : String} {rest : List Char} {name : Name} (some : label ≠ [])
    (start : s.toList = label ++ '.' :: rest) (done : read s = .ok name) :
    ∃ more, name.labels = (label.map fun c => UInt8.ofNat c.toNat) :: more := by
  -- With a label and a dot it is neither the root nor the origin.
  have longer : ∀ c, s.toList ≠ [c] := by
    intro c single
    have length := congrArg List.length (start.symm.trans single)
    have filled := List.length_pos_iff.mpr some
    simp at length
    omega
  have labelled : ofChars.rest s.toList = .ok name := by
    unfold read ofChars at done
    rw [if_neg (longer '@')] at done
    split at done
    · rename_i c single
      exact absurd single (longer c)
    · exact done
  unfold ofChars.rest at labelled
  split at labelled
  · cases labelled
  · rename_i ls got
    have labels := check_labels labelled
    generalize isAscii s.toList = ascii at got
    rw [start, readLabels_quiet only] at got
    have dot : isDot '.' = true := by decide
    have filled : (label.reverse ++ []).isEmpty = false := by simpa using some
    rw [readLabels, dot, filled] at got
    · simp only [if_true, Bool.false_eq_true, if_false, List.append_nil, List.reverse_reverse] at got
      split at got
      · cases got
      · rename_i l made
        obtain ⟨more, _, rfl⟩ := ok_of_map got
        exact ⟨more, by rw [labels, closed_quiet only made]⟩
    · simp
    · simp

theorem read_quiet_notWild {s : String} {rest : List Char} {name : Name} (some : label ≠ [])
    (start : s.toList = label ++ '.' :: rest) (done : read s = .ok name) : name.isWild = false := by
  obtain ⟨more, labels⟩ := read_quiet_first only some start done
  obtain ⟨c, cs, rfl⟩ := List.exists_cons_of_ne_nil some
  have first := (quiet_facts c (only c (List.mem_cons_self ..))).2.2.2.2
  have head : (c :: cs).map (fun c => UInt8.ofNat c.toNat) ≠ [42] := by
    intro wild
    exact first (List.cons.inj wild).1
  rw [isWild, labels]
  simpa using head

end Quiet

-- What is left of a name without a leading wildcard.
def withoutWildcard (name : Name) : Name := if name.isWild then name.parent else name

theorem count_relativeText (ls : List Label) : ls.length ≤ (relativeText ls).count '.' + 1 := by
  induction ls with
  | nil => exact Nat.zero_le _
  | cons l ls ih =>
    cases ls with
    | nil => exact Nat.succ_le_succ (Nat.zero_le _)
    | cons m ms =>
      rw [show relativeText (l :: m :: ms) = labelText l ++ '.' :: relativeText (m :: ms) from rfl,
        List.count_append, List.count_cons_self, List.length_cons]
      omega

end Name

namespace Hostname

theorem base_root {t : LooseText} {name : Name} (given : t ≠ "")
    (read : Name.read t.mended = .ok name) :
    ∃ left, base (.str t) = .ok left ∧ (left = "" ↔ name.withoutWildcard = Name.root) := by
  have filled := Name.read_filled read
  unfold base Name.withoutWildcard
  simp only [Name.ofJson, read]
  by_cases wild : name.isWild = true
  · rw [if_pos wild, if_pos wild]
    refine ⟨_, rfl, ?_⟩
    have inside : ∀ l ∈ name.parent.labels, l ≠ [] := fun l listed =>
      filled l (List.mem_of_mem_tail listed)
    have written := Name.relativeText_nil inside
    constructor
    · intro empty
      have none : name.parent.labels = [] := written.mp (by simpa using congrArg String.toList empty)
      rw [← show Name.mk name.parent.labels = name.parent from rfl, none]
      rfl
    · intro rooted
      rw [written.mpr (by rw [rooted]; rfl)]
  · rw [if_neg wild, if_neg wild]
    by_cases rooted : name = Name.root
    · rw [if_pos rooted]
      exact ⟨"", rfl, by simp [rooted]⟩
    · rw [if_neg rooted]
      exact ⟨t.mended, rfl, by simp [t.mended_eq_empty, given, rooted]⟩

end Hostname
end DnsSteering
