import DnsSteering.Proofs.Dns.Plain
import DnsSteering.Proofs.Dns.Printing
import DnsSteering.Proofs.International.Folding

namespace DnsSteering

namespace Name

section Bytes

def smallByte (b : UInt8) : UInt8 := if 65 ≤ b && b ≤ 90 then b + 32 else b

theorem escapeByte_small (b : UInt8) :
    (escapeByte b).map Char.toLower = escapeByte (smallByte b) := by
  refine byte_forall (P := fun b => (escapeByte b).map Char.toLower = escapeByte (smallByte b)) ?_ b
  decide +kernel

theorem labelText_small (l : Label) : (labelText l).map Char.toLower = labelText (l.map smallByte) := by
  simp [labelText, List.map_flatMap, List.flatMap_map, escapeByte_small]

theorem relativeText_small (ls : List Label) :
    (relativeText ls).map Char.toLower = relativeText (ls.map (·.map smallByte)) := by
  fun_induction relativeText ls with
  | case1 => rfl
  | case2 l => exact labelText_small l
  | case3 l ls more ih =>
    obtain ⟨next, others, rfl⟩ := List.exists_cons_of_ne_nil (by simpa using more)
    have stop : '.'.toLower = '.' := by decide
    rw [List.map_append, List.map_cons, labelText_small, ih, stop]
    rfl

theorem relativeText_ascii (ls : List Label) : ∀ c ∈ relativeText ls, c.toNat < 128 :=
  fun c listed => (relativeText_visible ls c listed).2.trans (by decide)

-- Bytes are the same in lower case as those of the text in lower case.
theorem bytes_small (cs : List Char) :
    (bytes cs).map smallByte = (bytes (cs.map Char.toLower)).map smallByte := by
  simp only [bytes, List.map_map]
  refine List.map_congr_left fun c _ => ?_
  by_cases ascii : c.toNat < 128
  · exact Text.ascii_forall (P := fun c => smallByte (UInt8.ofNat c.toNat) =
      smallByte (UInt8.ofNat c.toLower.toNat)) (by decide +kernel) ascii
  · have same : c.toLower = c := by
      unfold Char.toLower
      rw [dif_neg]
      rintro ⟨_, upper⟩
      have bound : c.toNat ≤ 90 := upper
      omega
    simp [same]

theorem bytes_fixed {cs : List Char} (ascii : ∀ c ∈ cs, c.toNat < 128)
    (small : ∀ c ∈ cs, c.toLower = c) : (bytes cs).map smallByte = bytes cs := by
  have every : ∀ n < 128, (Char.ofNat n).toLower = Char.ofNat n →
      smallByte (UInt8.ofNat (Char.ofNat n).toNat) = UInt8.ofNat (Char.ofNat n).toNat := by decide +kernel
  simp only [bytes, List.map_map]
  refine List.map_congr_left fun c listed => ?_
  exact Text.ascii_forall (P := fun c => c.toLower = c →
    smallByte (UInt8.ofNat c.toNat) = UInt8.ofNat c.toNat) every (ascii c listed) (small c listed)

end Bytes

open International in
-- The labels of a text in ASCII form and in lower case.
def spelled (cs : List Char) : List Char :=
  relativeText ((Text.split '.' cs).map fun part =>
    (bytes (form (foldAll (part.map Char.toNat)))).map smallByte)

open International in
theorem closing_form {whole part : List Char} {l : Label} (within : ∀ c ∈ part, c ∈ whole)
    (closed : closing whole part = .ok l) :
    l.map smallByte = (bytes (form (foldAll (part.map Char.toNat)))).map smallByte := by
  unfold closing at closed
  split at closed
  · rename_i ascii
    have every : ∀ c ∈ part, c.toNat < 128 := fun c inside =>
      of_decide_eq_true (List.all_eq_true.mp ascii c (within c inside))
    rw [← Except.ok.inj closed, form_ascii every, ← bytes_small]
    rfl
  · unfold internationalLabel at closed
    split at closed
    · rename_i text made
      rw [← Except.ok.inj closed, bytes_small (form _), ← asciiLabel?_form made, ← bytes_small]
      rfl
    · cases closed

-- What is left of a wildcard, in lower case, is found from the lower case of what was written.
theorem lowerFrom_relativeText {cs : List Char} {ls : List Label}
    (closed : List.Forall₂ (fun p l => closing cs p = .ok l) (Text.split '.' cs) ls) (after : Bool) :
    Text.lowerFrom after (relativeText ls) = spelled (Text.lowerFrom false cs) := by
  have labels : ls.map (·.map smallByte) = (Text.split '.' (Text.lowerFrom false cs)).map fun part =>
      (bytes (International.form (International.foldAll (part.map Char.toNat)))).map smallByte := by
    have inside : ∀ p ∈ Text.split '.' cs, ∀ c ∈ p, c ∈ cs := fun p member c => Text.mem_of_part member
    have folded := International.foldAll_parts false cs
    generalize Text.split '.' cs = parts at closed inside folded
    generalize Text.split '.' (Text.lowerFrom false cs) = smalls at folded ⊢
    induction folded generalizing ls with
    | nil =>
      cases closed
      rfl
    | @cons q p qs ps same _ ih =>
      obtain ⟨l, more, here, rest, rfl⟩ := List.forall₂_cons_left_iff.mp closed
      have first := closing_form (inside p (List.mem_cons_self ..)) here
      have others := ih rest fun p member => inside p (List.mem_cons_of_mem _ member)
      rw [List.map_cons, List.map_cons, others, first, same]
  rw [Text.lowerFrom_ascii (relativeText_ascii ls), relativeText_small, labels, spelled]

-- Small letters in ASCII are spelled as they are.
theorem spelled_small {cs : List Char}
    (small : ∀ c ∈ cs, c = '.' ∨ IsPlainChar c ∧ c.toLower = c) : spelled cs = cs := by
  have labels : ∀ part ∈ Text.split '.' cs,
      (bytes (International.form (International.foldAll (part.map Char.toNat)))).map smallByte =
        bytes part := by
    intro part member
    have letters : ∀ c ∈ part, IsPlainChar c ∧ c.toLower = c := by
      intro c listed
      refine (small c (Text.mem_of_part member listed)).resolve_left ?_
      rintro rfl
      exact Text.separator_notMem_split member listed
    have ascii : ∀ c ∈ part, c.toNat < 128 := fun c listed => (letters c listed).1.1
    have same : part.map Char.toLower = part := by
      have each := List.map_congr_left fun c listed => (letters c listed).2
      rwa [List.map_id'] at each
    rw [International.form_ascii ascii, same]
    exact bytes_fixed ascii fun c listed => (letters c listed).2
  rw [spelled, List.map_congr_left labels]
  exact relativeText_bytes fun c listed => (small c listed).imp_right (·.1)

end Name
end DnsSteering
