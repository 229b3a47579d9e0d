import DnsSteering.Address.Basic
import DnsSteering.Proofs.Address.Ipv4
import Mathlib.Tactic.Conv

namespace DnsSteering

namespace Ipv6

section Groups

variable {cs : List Char}

theorem isGroup_digits {p : List Char} (group : isGroup p = true) :
    ∀ c ∈ p, (Text.hexValue? c).isSome = true := by
  simp only [isGroup, Bool.and_eq_true] at group
  exact List.all_eq_true.mp group.2

-- Taking a colon off an edge changes nothing in front of the first one.
theorem trimEdge_front (colon : ':' ∈ cs) :
    (∃ rest, cs = ':' :: rest) ∨
      (trimEdge cs).takeWhile (· ≠ ':') = cs.takeWhile (· ≠ ':') := by
  unfold trimEdge
  split
  · exact .inl ⟨_, rfl⟩
  · right
    split
    · rename_i double
      obtain ⟨more, reversed⟩ := List.isPrefixOf_iff_prefix.mp double
      have written : cs = more.reverse ++ [':', ':'] := by
        rw [← List.reverse_reverse cs, ← reversed]
        simp
      rw [written]
      have dropped : (more.reverse ++ [':', ':']).dropLast = more.reverse ++ [':'] := by
        rw [show [':', ':'] = [':'] ++ [':'] from rfl, ← List.append_assoc, List.dropLast_concat]
      rw [dropped]
      exact Text.takeWhile_separated _ _ _
    · rfl

theorem groupsFit_front (some : cs ≠ []) (fit : groupsFit (Text.split ':' (trimEdge cs)) = true) :
    ':' ∈ cs ∧ ∀ c ∈ cs.takeWhile (· ≠ ':'), (Text.hexValue? c).isSome = true := by
  simp only [groupsFit, Bool.and_eq_true, Bool.or_eq_true, decide_eq_true_eq] at fit
  obtain ⟨⟨_, groups⟩, filled⟩ := fit
  obtain ⟨parts, split⟩ := Text.split_first ':' (trimEdge cs)
  have colon : ':' ∈ cs := by
    by_contra none
    have single : trimEdge cs = cs := by
      unfold trimEdge
      split
      · exact absurd (List.mem_cons_self ..) none
      · rw [if_neg]
        intro double
        have edge := (List.isPrefixOf_iff_prefix.mp double).subset (List.mem_cons_self ..)
        exact none (List.mem_reverse.mp edge)
    rw [single, Text.split_single none] at filled
    simp [some] at filled
  refine ⟨colon, ?_⟩
  rcases trimEdge_front colon with ⟨rest, rfl⟩ | same
  · simp
  · rw [← same]
    refine isGroup_digits (List.all_eq_true.mp groups _ ?_)
    rw [split]
    exact List.mem_cons_self ..

-- An IPv4 address at the end stands behind a colon.
theorem expandTail_front {ds : List Char} (expanded : expandTail cs = some ds) :
    ds = cs ∨ (':' ∈ cs ∧ ds.takeWhile (· ≠ ':') = cs.takeWhile (· ≠ ':')) := by
  unfold expandTail at expanded
  dsimp only at expanded
  split at expanded
  · rename_i dotted
    simp only [Bool.and_eq_true, List.contains_iff_mem] at dotted
    have colon := dotted.1.1
    split at expanded
    · right
      refine ⟨colon, ?_⟩
      rw [← Option.some.inj expanded]
      obtain ⟨last, front, reversed, free⟩ := List.eq_append_cons_of_mem (List.mem_reverse.mpr colon)
      have other : ∀ c ∈ last, decide (c ≠ ':') = true := by
        intro c listed
        refine decide_eq_true ?_
        rintro rfl
        exact free listed
      have written : cs = front.reverse ++ ':' :: last.reverse := by
        rw [← List.reverse_reverse cs, reversed]
        simp
      rw [reversed, List.dropWhile_append_of_pos other]
      simp only [ne_eq, not_true_eq_false, decide_false, List.dropWhile_cons, Bool.false_eq_true,
        if_false, List.drop_succ_cons, List.drop_zero, List.append_assoc, List.cons_append]
      rw [written]
      exact Text.takeWhile_separated _ _ _
    · cases expanded
  · exact .inl (Option.some.inj expanded).symm

theorem isUnscoped_front (valid : isUnscoped cs = true) :
    ':' ∈ cs ∧ ∀ c ∈ cs.takeWhile (· ≠ ':'), (Text.hexValue? c).isSome = true := by
  unfold isUnscoped at valid
  split at valid
  · cases valid
  · rename_i edges
    have some : cs ≠ [] := by
      rintro rfl
      simp at edges
    by_cases zero : cs = [':', ':']
    · simp [zero]
    · rw [if_neg zero] at valid
      split at valid
      · cases valid
      · rename_i ds expanded
        rcases expandTail_front expanded with rfl | ⟨colon, same⟩
        · exact groupsFit_front some valid
        · refine ⟨colon, ?_⟩
          rw [← same]
          by_cases none : ds = []
          · simp [none]
          · exact (groupsFit_front none valid).2

theorem isValid_front (valid : isValid cs = true) :
    ∃ front rest, cs = front ++ ':' :: rest ∧ ∀ c ∈ front, (Text.hexValue? c).isSome = true := by
  have written : ∃ scope, cs = cs.takeWhile (· ≠ '%') ++ scope := ⟨_, (List.takeWhile_append_dropWhile).symm⟩
  obtain ⟨scope, written⟩ := written
  obtain ⟨parts, split⟩ := Text.split_first '%' cs
  have unscoped : isUnscoped (cs.takeWhile (· ≠ '%')) = true := by
    unfold isValid at valid
    rw [split] at valid
    split at valid
    · rename_i same
      cases same
      exact valid
    · rename_i same
      cases same
      exact valid
    · cases valid
  obtain ⟨colon, digits⟩ := isUnscoped_front unscoped
  generalize cs.takeWhile (· ≠ '%') = address at written colon digits
  obtain ⟨rest, parted⟩ := Text.parted_of_mem colon
  refine ⟨address.takeWhile (· ≠ ':'), rest ++ scope, ?_, digits⟩
  rw [written]
  conv_lhs => rw [parted]
  simp

end Groups
end Ipv6

namespace Ip

variable {s : String} (accepted : refusal? s = none)

include accepted

theorem accepted_kind : Ipv4.isValid s.toList = true ∨ Ipv6.isValid s.toList = true := by
  simp only [refusal?] at accepted
  split at accepted
  · cases accepted
  · split at accepted
    · rename_i valid
      simpa using valid
    · cases accepted

-- Four runs of digits with dots between them are accepted as an IPv4 address only.
theorem accepted_dotted (dotted : Ipv6.isDotted s.toList = true) : Ipv4.isValid s.toList = true := by
  refine (accepted_kind accepted).resolve_right fun other => ?_
  obtain ⟨front, rest, written, _⟩ := Ipv6.isValid_front other
  have colon : ':' ∈ s.toList := by rw [written]; simp
  simp only [Ipv6.isDotted, Bool.and_eq_true, List.all_eq_true] at dotted
  have parted : ':' = '.' ∨ ∃ part ∈ Text.split '.' s.toList, ':' ∈ part := Text.part_of_mem colon
  rcases parted with stop | ⟨part, member, inside⟩
  · exact absurd stop (by decide)
  · exact absurd ((dotted.2 part member).2 ':' inside) (by decide)

end Ip
end DnsSteering
