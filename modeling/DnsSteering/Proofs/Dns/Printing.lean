import DnsSteering.Proofs.Dns.Hostname

namespace DnsSteering

-- A character that is seen: in ASCII, and neither a blank nor one that controls.
def IsVisible (c : Char) : Prop := 32 < c.toNat ∧ c.toNat < 127

instance : DecidablePred IsVisible := fun c => inferInstanceAs (Decidable (32 < c.toNat ∧ c.toNat < 127))

def Visible (cs : List Char) : Prop := ∀ c ∈ cs, IsVisible c

theorem Visible.notMem {cs : List Char} (visible : Visible cs) {c : Char} (hidden : c.toNat ≤ 32) :
    c ∉ cs := fun listed => absurd (visible c listed).1 (Nat.not_lt.mpr hidden)

namespace Name

theorem byte_forall {P : UInt8 → Prop} (each : ∀ n < 256, P (UInt8.ofNat n)) (b : UInt8) : P b := by
  rw [← UInt8.ofNat_toNat (x := b)]
  exact each b.toNat b.toNat_lt

-- The character with the number of a byte.
def byteChar (b : UInt8) : Char := Char.ofNat b.toNat

theorem escapeByte_visible : ∀ b : UInt8, Visible (escapeByte b) := by
  have each : ∀ n < 256, ((escapeByte (UInt8.ofNat n)).all fun c => IsVisible c) = true := by decide +kernel
  exact byte_forall fun n small => Text.forall_of_all (each n small)

theorem relativeText_visible (ls : List Label) : Visible (relativeText ls) := by
  have label : ∀ l : Label, Visible (labelText l) := by
    intro l c listed
    obtain ⟨b, _, inside⟩ := List.mem_flatMap.mp listed
    exact escapeByte_visible b c inside
  intro c listed
  fun_induction relativeText ls with
  | case1 => cases listed
  | case2 l => exact label l c listed
  | case3 l ls _ ih =>
    rcases List.mem_append.mp listed with here | later
    · exact label l c here
    · rcases List.mem_cons.mp later with rfl | later
      · exact ⟨by decide, by decide⟩
      · exact ih later

theorem text_visible (name : Name) : Visible name.text := by
  have dot : IsVisible '.' := ⟨by decide, by decide⟩
  intro c listed
  unfold text at listed
  split at listed
  · rw [List.mem_singleton.mp listed]
    exact dot
  · rcases List.mem_append.mp listed with inside | last
    · exact relativeText_visible _ c inside
    · rw [List.mem_singleton.mp last]
      exact dot

theorem byteChar_escaped : ∀ b ∈ special, (byteChar b).isDigit = false := by
  have every : (special.all fun b => !(byteChar b).isDigit) = true := by decide
  simpa using every

theorem byteChar_plain : ∀ b : UInt8, b ∉ special → (decide (32 < b) && decide (b < 127)) = true →
    byteChar b ≠ '\\' ∧ isDot (byteChar b) = false := by
  refine byte_forall (P := fun b => b ∉ special → (decide (32 < b) && decide (b < 127)) = true →
    byteChar b ≠ '\\' ∧ isDot (byteChar b) = false) ?_
  decide +kernel

theorem decimalByte_read : ∀ b : UInt8, ∃ c d e, decimalByte b = [c, d, e] ∧ c.isDigit = true ∧
    byNumber c d e = .ok (byteChar b) := by
  have each : ∀ n < 256, (decimalByte (UInt8.ofNat n)).head?.map Char.isDigit = some true ∧
      byNumber (Nat.digitChar (n / 100)) (Nat.digitChar (n / 10 % 10)) (Nat.digitChar (n % 10)) =
        .ok (Char.ofNat n) := by
    decide +kernel
  intro b
  obtain ⟨digit, value⟩ := each b.toNat b.toNat_lt
  rw [UInt8.ofNat_toNat] at digit
  exact ⟨_, _, _, rfl, by simpa [decimalByte] using digit, value⟩

theorem plainLabel_byteChar (l : Label) : plainLabel (l.map byteChar) = .ok l := by
  have every : ∀ b : UInt8, UInt8.ofNat (byteChar b).toNat = b := by
    refine byte_forall (P := fun b => UInt8.ofNat (byteChar b).toNat = b) ?_
    decide +kernel
  rw [plainLabel, List.map_map]
  exact congrArg _ ((List.map_congr_left fun b _ => every b).trans (List.map_id l))

section Reading

variable {close : List Char → Except NameFault Label} {label cs : List Char}

theorem readLabels_escaped {c : Char} (other : c.isDigit = false) :
    readLabels close label ('\\' :: c :: cs) = readLabels close (c :: label) cs := by
  rcases cs with _ | ⟨d, _ | ⟨e, cs⟩⟩ <;> simp [readLabels, other]

theorem readLabels_byte (b : UInt8) :
    readLabels close label (escapeByte b ++ cs) = readLabels close (byteChar b :: label) cs := by
  unfold escapeByte
  split
  · rename_i member
    exact readLabels_escaped (byteChar_escaped b member)
  · rename_i other
    split
    · rename_i visible
      obtain ⟨noEscape, noDot⟩ := byteChar_plain b other visible
      have unescaped : Unescaped (byteChar b) := ⟨noEscape, fun dot => by simp [noDot] at dot⟩
      have noStop : byteChar b ≠ '.' := by
        intro stop
        rw [stop] at noDot
        exact absurd noDot (by decide)
      exact readLabels_next unescaped noStop
    · obtain ⟨c, d, e, written, digit, value⟩ := decimalByte_read b
      simp [written, readLabels, digit, value]

theorem readLabels_label (l : Label) :
    readLabels close label (labelText l ++ cs) =
      readLabels close ((l.map byteChar).reverse ++ label) cs := by
  induction l generalizing label with
  | nil => rfl
  | cons b l ih =>
    have first : labelText (b :: l) ++ cs = escapeByte b ++ (labelText l ++ cs) := by
      simp [labelText]
    rw [first, readLabels_byte, ih]
    simp

-- A label that was printed is closed as it was.
theorem readLabels_closed {l : Label} (filled : l ≠ []) :
    readLabels plainLabel [] (labelText l ++ '.' :: cs) =
      (readLabels plainLabel [] cs).map fun ls => l :: ls := by
  have given : (l.map byteChar).reverse ++ [] ≠ [] := by simpa using filled
  rw [readLabels_label, readLabels_dot given, List.append_nil, List.reverse_reverse, plainLabel_byteChar]

end Reading

theorem readLabels_relativeText {ls : List Label} (some : ls ≠ []) (filled : ∀ l ∈ ls, l ≠ []) :
    readLabels plainLabel [] (relativeText ls ++ ['.']) = .ok ls := by
  fun_induction relativeText ls with
  | case1 => exact absurd rfl some
  | case2 l =>
    rw [readLabels_closed (filled l (by simp))]
    rfl
  | case3 l ls more ih =>
    rw [List.append_assoc, List.cons_append, readLabels_closed (filled l (by simp)),
      ih (by simpa using more) fun m listed => filled m (List.mem_cons_of_mem _ listed)]
    rfl

-- Names are told apart by their texts.
theorem text_injective {one two : Name} (filled : ∀ l ∈ one.labels, l ≠ [])
    (filled' : ∀ l ∈ two.labels, l ≠ []) (same : one.text = two.text) : one = two := by
  have back : ∀ name : Name, (∀ l ∈ name.labels, l ≠ []) →
      (readLabels plainLabel [] name.text).toOption.getD [] = name.labels := by
    intro name filled
    unfold text
    split
    · rename_i none
      rw [none]
      rfl
    · rename_i some
      rw [readLabels_relativeText some filled]
      rfl
  have labels := back one filled
  rw [same, back two filled'] at labels
  obtain ⟨ls⟩ := one
  obtain ⟨ms⟩ := two
  exact congrArg Name.mk labels.symm

end Name
end DnsSteering
