import DnsSteering.Proofs.Dns.Printing
import DnsSteering.Proofs.Json.Numbers
import DnsSteering.Proofs.Text.Parts
import DnsSteering.Zone.Line

namespace DnsSteering

theorem digit_visible {c : Char} (digit : c.isDigit = true) : IsVisible c := by
  simp only [Char.isDigit, Bool.and_eq_true, decide_eq_true_eq, UInt32.le_iff_toNat_le] at digit
  have between : 48 ≤ c.toNat ∧ c.toNat ≤ 57 := digit
  exact ⟨by omega, by omega⟩

theorem visible_digits (n : Nat) : Visible (Nat.toDigits 10 n) := fun c listed =>
  digit_visible (Json.isDigit_toDigits c listed)

theorem IsVisible.noBreak {c : Char} (visible : IsVisible c) : Zone.Token.isBreak c = false := by
  have feed : c ≠ '\n' := by
    rintro rfl
    exact absurd visible (by decide)
  have carriage : c ≠ '\r' := by
    rintro rfl
    exact absurd visible (by decide)
  simp [Zone.Token.isBreak, feed, carriage]

theorem visible_whole (n : Int) : Visible (toString n).toList := by
  cases n with
  | ofNat m =>
    rw [Json.toList_ofNat]
    exact visible_digits m
  | negSucc m =>
    rw [Json.toList_negSucc]
    exact List.forall_mem_cons.mpr ⟨⟨by decide, by decide⟩, visible_digits (m + 1)⟩

theorem Ipv4.text_visible (octets : List Nat) : Visible (Ipv4.text octets) := by
  intro c listed
  rcases Text.mem_join listed with rfl | ⟨part, member, inside⟩
  · exact ⟨by decide, by decide⟩
  · obtain ⟨n, _, rfl⟩ := List.mem_map.mp member
    exact visible_digits n c inside

namespace Zone

theorem Data.text_visible (d : Data) : Visible d.text := by
  cases d with
  | address octets => exact Ipv4.text_visible octets
  | «alias» name => exact name.text_visible

-- The fields of a line, with those of its comment behind them.
def fields (line : LooseText) : List (List Char) := Text.split ' ' line.mended.toList

def ownerField (line : LooseText) : Option (List Char) := (fields line)[0]?

def dataField (line : LooseText) : Option (List Char) := (fields line)[4]?

section Line

variable {r : Record} {owner : Name} {note : LooseText} {d : Data}

theorem toList_line : (line r owner note d).mended.toList =
    owner.text ++ ' ' :: (r.ttl.display.mended.toList ++ ' ' :: ("IN".toList ++ ' ' ::
      (r.type.text.toList ++ ' ' :: (d.text ++ note.mended.toList)))) := by
  simp [line, toString]

theorem ownerField_line : ownerField (line r owner note d) = some owner.text := by
  have free : ' ' ∉ owner.text := owner.text_visible.notMem (by decide)
  rw [ownerField, fields, toList_line, Text.split_append ' ' free]
  rfl

-- Behind the data the line ends, or a blank stands in front of the comment.
theorem comment_parted (noted : comment r = .ok note) : note = "" ∨ ∃ cs, note.mended.toList = ' ' :: cs := by
  unfold comment at noted
  split at noted
  · cases noted
  · split at noted
    · exact .inl (Except.ok.inj noted).symm
    · rw [← Except.ok.inj noted, LooseText.mended_append, String.toList_append]
      exact .inr ⟨_, rfl⟩

theorem dataField_line {n : Int} (whole : r.ttl = .int n) (type : ' ' ∉ r.type.text.toList)
    (noted : comment r = .ok note) : dataField (line r owner note d) = some d.text := by
  have free : ∀ {cs : List Char}, Visible cs → ' ' ∉ cs := fun visible => visible.notMem (by decide)
  have time : ' ' ∉ r.ttl.display.mended.toList := by
    rw [whole]
    exact free (visible_whole n)
  rw [dataField, fields, toList_line, Text.split_append ' ' (free owner.text_visible),
    Text.split_append ' ' time, Text.split_append ' ' (by decide), Text.split_append ' ' type]
  rcases comment_parted noted with rfl | ⟨cs, written⟩
  · simp [Text.split_single (free d.text_visible)]
  · rw [written, Text.split_append ' ' (free d.text_visible)]
    rfl

end Line

-- A command line for zone text, with a label for the geography in the way JSON has it.
def locatedWords (label : String) : List String := [
  "--hostname", "app.x", "--gateway",
  "\x7b\"labels\":\x7b\"kuadrant.io/lb-attribute-geo-code\":\"" ++ label ++ "\"\x7d," ++
    "\"addresses\":[\x7b\"type\":\"Hostname\",\"value\":\"edge.x\"\x7d]\x7d",
  "--routing", "\x7b\"cluster_id\":\"c1\",\"default_geo\":\"IE\",\"default_weight\":120\x7d",
  "--output-format", "zone"]

end Zone
end DnsSteering
