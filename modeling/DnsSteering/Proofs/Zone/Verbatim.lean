import DnsSteering.Proofs.Dns.Grammar
import DnsSteering.Proofs.Zone.Lines

namespace DnsSteering

namespace Hostname

variable {wildcard : Bool} {s : String} (ascii : ∀ c ∈ s.toList, c.toNat < 128)
  (accepted : check wildcard (.str s) = .ok none)

include ascii accepted

-- What is accepted without a wildcard is accepted where one is allowed.
theorem checked_plain : Name.IsPlain s.toList := by
  have written := (refusal?_written ascii wildcard).mp (Except.ok.inj accepted)
  have allowed : Written true s.toList := by
    generalize s.toList = cs at written
    cases written with
    | plain dotted short => exact .plain dotted short
    | wild _ dotted short => exact .wild rfl dotted short
  exact hostname_plain ((refusal?_written ascii true).mpr allowed) ascii

theorem checked_read : ∃ name, Name.read s = .ok name ∧ name.text = s.toList ++ ['.'] := by
  obtain ⟨_, _, name, read⟩ := refusal?_eq_none.mp (Except.ok.inj accepted)
  exact ⟨name, read, (checked_plain ascii accepted).text_read read⟩

end Hostname

namespace Zone

-- An ASCII hostname that was accepted.
def IsHost (wildcard : Bool) (v : Json) : Prop :=
  ∃ s : String, v = .str s ∧ (∀ c ∈ s.toList, c.toNat < 128) ∧ Hostname.check wildcard v = .ok none

-- An IP address that was accepted and is written as four numbers.
def IsQuad (v : Json) : Prop :=
  ∃ s : String, v = .str s ∧ Ip.check v = none ∧ Ipv6.isDotted s.toList = true

structure Valid (r : Record) : Prop where
  name : IsHost true r.name
  targets : (r.type = .cname ∧ ∀ t ∈ r.targets, IsHost false t) ∨
    (r.type = .a ∧ ∀ t ∈ r.targets, IsQuad t)
  ttl : ∃ n, r.ttl = .int n
  attributes : r.attributes.Named

-- The line of a record for a target, with nothing changed in either.
def verbatim (r : Record) (note : LooseText) (t : Json) : LooseText :=
  r.name.display ++ ". " ++ r.ttl.display ++ " IN " ++ r.type.text ++ " " ++ t.display ++
    (if r.type = .cname then "." else "") ++ note

section Targets

variable {r : Record} {t : Json}

theorem data_host (host : IsHost false t) :
    ∃ d, data .cname t = .ok d ∧ .plain (String.ofList d.text) = t.display ++ "." := by
  obtain ⟨s, rfl, ascii, accepted⟩ := host
  obtain ⟨name, read, text⟩ := Hostname.checked_read ascii accepted
  have word := (Hostname.checked_plain ascii accepted).word
  have done := (Data.read_alias word).mpr ⟨name, read, rfl⟩
  refine ⟨.alias name, by simp [data, done], ?_⟩
  simp [Data.text, text, Json.display]

theorem data_quad (quad : IsQuad t) :
    ∃ d, data .a t = .ok d ∧ .plain (String.ofList d.text) = t.display := by
  obtain ⟨s, rfl, accepted, dotted⟩ := quad
  obtain ⟨octets, made⟩ := Option.isSome_iff_exists.mp (Ip.accepted_dotted accepted dotted)
  have done := Data.read_octets made
  rw [LooseText.mended_plain] at done
  refine ⟨.address octets, by simp [data, done], ?_⟩
  simp [Data.text, Ipv4.text_octets made, Json.display]

theorem Valid.data (valid : Valid r) (member : t ∈ r.targets) :
    ∃ d, Zone.data r.type t = .ok d ∧
      .plain (String.ofList d.text) = t.display ++ (if r.type = .cname then "." else "") := by
  rcases valid.targets with ⟨aliased, hosts⟩ | ⟨addressed, quads⟩
  · rw [aliased]
    exact data_host (hosts t member)
  · obtain ⟨d, done, text⟩ := data_quad (quads t member)
    have other : RecordType.a ≠ RecordType.cname := by decide
    rw [addressed]
    exact ⟨d, done, by simp [other, text]⟩

theorem Valid.lines (valid : Valid r) : ∃ note, Notes r note ∧
    recordLines r = .ok (r.targets.map (verbatim r note)) := by
  obtain ⟨s, named, ascii, accepted⟩ := valid.name
  obtain ⟨owner, read, text⟩ := Hostname.checked_read ascii (named ▸ accepted)
  obtain ⟨note, noted, notes⟩ := comment_notes valid.attributes
  refine ⟨note, notes, recordLines_ok.mpr ⟨owner, note, ?_, noted, targetLines_ok.mpr ?_⟩⟩
  · simp [named, Name.ofJson, read]
  · rw [List.forall₂_map_right_iff, List.forall₂_same]
    intro t member
    obtain ⟨d, done, written⟩ := valid.data member
    refine ⟨d, done, ?_⟩
    have owned : .plain (String.ofList owner.text) = r.name.display ++ "." := by
      simp [named, text, Json.display]
    calc verbatim r note t
        = r.name.display ++ .plain "." ++ .plain " " ++ r.ttl.display ++
            (.plain (" IN " ++ r.type.text ++ " ") ++
              (t.display ++ .plain (if r.type = .cname then "." else ""))) ++ note := by
          have parted : LooseText.plain ". " = .plain "." ++ .plain " " := rfl
          simp only [verbatim, parted, LooseText.append_assoc, ← LooseText.plain_append]
      _ = line r owner note d := by
          rw [← owned, ← written]
          simp [line, toString, String.append_assoc]

end Targets

theorem lines_concat {f : Record → List LooseText} {rs : List Record}
    (each : ∀ r ∈ rs, recordLines r = .ok (f r)) : lines rs = .ok (rs.flatMap f) := by
  induction rs with
  | nil => rfl
  | cons r rs ih =>
    obtain ⟨first, rest⟩ := List.forall_mem_cons.mp each
    simp [lines, first, ih rest, Except.map]

-- Valid records have the lines that one would write for them by hand.
theorem lines_verbatim {rs : List Record} (valid : ∀ r ∈ rs, Valid r) : ∃ note : Record → LooseText,
    (∀ r ∈ rs, Notes r (note r) ∧ recordLines r = .ok (r.targets.map (verbatim r (note r)))) ∧
      lines rs = .ok (rs.flatMap fun r => r.targets.map (verbatim r (note r))) := by
  have each : ∀ r, ∃ note, r ∈ rs →
      Notes r note ∧ recordLines r = .ok (r.targets.map (verbatim r note)) := by
    intro r
    by_cases member : r ∈ rs
    · obtain ⟨note, facts⟩ := (valid r member).lines
      exact ⟨note, fun _ => facts⟩
    · exact ⟨"", fun other => absurd other member⟩
  choose note facts using each
  exact ⟨note, facts, lines_concat fun r member => (facts r member).2⟩

-- A wildcard in capitals with its attributes in descending order, and addresses at both ends of the range.
def starred : Record :=
  ⟨.str "*.App.x", .cname, [.str "klb.App.x", .str "edge-1.X"], .int 300, .str "IE",
    [(.str "weight", .str "120"), (.str "geo-code", .str "*")], []⟩

def addressed : Record :=
  ⟨.str "app.x", .a, [.str "192.0.2.1", .str "0.0.10.255"], .int (-5), .str "", [], []⟩

theorem starred_verbatim : (∀ r ∈ [starred, addressed], Valid r) ∧ ∃ note : Record → LooseText,
    (∀ r ∈ [starred, addressed],
      Notes r (note r) ∧ recordLines r = .ok (r.targets.map (verbatim r (note r)))) ∧
      lines [starred, addressed] =
        .ok ([starred, addressed].flatMap fun r => r.targets.map (verbatim r (note r))) := by
  have host : ∀ {wildcard : Bool} {s : String}, (s.toList.all fun c => c.toNat < 128) = true →
      Hostname.check wildcard (.str s) = .ok none → IsHost wildcard (.str s) :=
    fun ascii accepted => ⟨_, rfl, Text.forall_of_all ascii, accepted⟩
  have quad : ∀ {s : String}, Ip.check (.str s) = none → Ipv6.isDotted s.toList = true →
      IsQuad (.str s) := fun accepted dotted => ⟨_, rfl, accepted, dotted⟩
  have both : ∀ {α : Type} {P : α → Prop} {a b : α}, P a → P b → ∀ x ∈ [a, b], P x :=
    fun here there => List.forall_mem_cons.mpr ⟨here, List.forall_mem_singleton.mpr there⟩
  have one : Valid starred := by
    refine ⟨host (by decide) (by decide +kernel), .inl ⟨rfl, ?_⟩, ⟨300, rfl⟩, ?_⟩
    · exact both (host (by decide) (by decide +kernel)) (host (by decide) (by decide +kernel))
    · exact ⟨by simp [starred], by simp [starred, Entries.keys]⟩
  have two : Valid addressed := by
    refine ⟨host (by decide) (by decide +kernel), .inr ⟨rfl, ?_⟩, ⟨-5, rfl⟩, ?_⟩
    · exact both (quad (by decide +kernel) (by decide +kernel))
        (quad (by decide +kernel) (by decide +kernel))
    · exact ⟨by simp [addressed], by simp [addressed, Entries.keys]⟩
  have valid : ∀ r ∈ [starred, addressed], Valid r := both one two
  exact ⟨valid, lines_verbatim valid⟩

-- The lines themselves.
example : lines [starred, addressed] = .ok [
    "*.App.x. 300 IN CNAME klb.App.x. ; set-identifier=IE geo-code=* weight=120",
    "*.App.x. 300 IN CNAME edge-1.X. ; set-identifier=IE geo-code=* weight=120",
    "app.x. -5 IN A 192.0.2.1", "app.x. -5 IN A 0.0.10.255"] := by decide +kernel

end Zone
end DnsSteering
