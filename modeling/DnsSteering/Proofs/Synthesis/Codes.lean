import DnsSteering.Proofs.Synthesis.Clusters
import DnsSteering.Proofs.Synthesis.Faults

namespace DnsSteering

-- Decimal digits and small letters.
def Base36.IsCodeChar (c : Char) : Prop := ('0' ≤ c ∧ c ≤ '9') ∨ ('a' ≤ c ∧ c ≤ 'z')

namespace ShortCode

-- The label that is made of two digests.
def label (one two : List UInt8) : List Char :=
  cut usualLength (Base36.encode one) ++ '-' :: cut usualLength (Base36.encode two)

structure IsFull (label : List Char) : Prop where
  length : label.length = 13
  hyphen : label[6]? = some '-'
  codes : ∀ i, i ≠ 6 → ∀ c, label[i]? = some c → Base36.IsCodeChar c
  fits : label.length ≤ 63

theorem encode_codeChar (raw : List UInt8) : ∀ c ∈ Base36.encode raw, Base36.IsCodeChar c := by
  refine Base36.forall_encode ?_ raw
  unfold Base36.IsCodeChar
  decide

theorem cut_full {digest : List UInt8} (bytes : digest.length = 28) {n : Nat} (bound : n ≤ 28) :
    (cut n (Base36.encode digest)).length = n := by
  refine length_cut (Nat.le_trans bound ?_)
  rw [← bytes]
  exact Base36.length_le_encode digest

theorem label_full {one two : List UInt8} (first : one.length = 28) (second : two.length = 28) :
    IsFull (label one two) := by
  have front : (cut usualLength (Base36.encode one)).length = 6 := cut_full first (by decide)
  have back : (cut usualLength (Base36.encode two)).length = 6 := cut_full second (by decide)
  have length : (label one two).length = 13 := by
    rw [label, List.length_append, List.length_cons, front, back]
  refine ⟨length, ?_, ?_, by omega⟩
  · rw [label, List.getElem?_append_right (by omega), front]
    rfl
  · intro i other c there
    have member : c ∈ cut usualLength (Base36.encode one) ∨ c ∈ cut usualLength (Base36.encode two) := by
      rw [label] at there
      by_cases early : i < 6
      · rw [List.getElem?_append_left (by omega)] at there
        exact .inl (List.mem_of_getElem? there)
      · rw [List.getElem?_append_right (by omega), front] at there
        obtain ⟨j, place⟩ : ∃ j, i - 6 = j + 1 := ⟨i - 7, by omega⟩
        rw [place, List.getElem?_cons_succ] at there
        exact .inr (List.mem_of_getElem? there)
    rcases member with here | here
    · exact encode_codeChar one c (mem_of_mem_cut here)
    · exact encode_codeChar two c (mem_of_mem_cut here)

end ShortCode

namespace Synthesis

open ShortCode (label IsFull)

variable {p : Policy} {g : Gateway} {balancer name : String}

-- A gateway's own name starts with the label of two digests, as it stands and as it is read.
theorem clusterName_label (named : clusterName p g balancer = .ok name) :
    ∃ id one two, p.clusterId = .str id ∧ id.utf8 = .ok one ∧ (gatewayText g).utf8 = .ok two ∧
      let first := label (Sha224.hash one) (Sha224.hash two)
      (∃ rest, Text.split '.' name.toList = first :: rest) ∧
        ∀ read, Name.read name = .ok read →
          ∃ more, read.labels = (first.map fun c => UInt8.ofNat c.toNat) :: more := by
  obtain ⟨id, cluster, gateway, clustered, first, second, rfl⟩ := clusterName_ok named
  have quiet := codes_quiet first second
  obtain ⟨one, whole, cut⟩ := ShortCode.ofText_ok first
  obtain ⟨two, whole', cut'⟩ := ShortCode.ofText_ok second
  obtain ⟨cs, start⟩ := lower_start quiet balancer
  have written : (cluster ++ "-" ++ gateway).toList = label (Sha224.hash one) (Sha224.hash two) := by
    simp [cut, cut', label]
  rw [written] at start quiet
  refine ⟨id, one, two, clustered, whole, whole', ?_, fun read done => ?_⟩
  · have free : '.' ∉ label (Sha224.hash one) (Sha224.hash two) := by
      intro dot
      exact absurd (quiet '.' dot) (by decide)
    exact ⟨_, by rw [start]; exact Text.split_append '.' free cs⟩
  · exact Name.read_quiet_first quiet (by simp [label]) start done

theorem clusterName_made {id gateway : String} (clustered : p.clusterId = .str id)
    (plain : gatewayText g = gateway) : ∃ name, clusterName p g balancer = .ok name := by
  rw [clusterName, clustered, plain]
  exact ⟨_, rfl⟩

-- No byte string is shorter in base 36, and nothing else is asked of a digest than its length. A text has
-- a code, and a gateway a name of its own, only where no half of a pair stands alone in what is hashed.
theorem codes_full {n : Nat} (bound : n ≤ 28) (raw : List UInt8) (t : LooseText) (p : Policy)
    (g : Gateway) (balancer : String) :
    (raw.length ≤ (Base36.encode raw).length ∧ ∀ c ∈ Base36.encode raw, Base36.IsCodeChar c) ∧
    (raw.length = 28 → (ShortCode.cut n (Base36.encode raw)).length = n ∧
      ∀ other : List UInt8, other.length = 28 → IsFull (label raw other)) ∧
    (((∃ code, ShortCode.ofText n t = .ok code) ↔ ∃ s : String, t = s) ∧
      (∀ code, ShortCode.ofText n t = .ok code → code.toList.length = n) ∧
      ∀ f, ShortCode.ofText n t = .error f → f.IsEncoding) ∧
    ((∃ name, clusterName p g balancer = .ok name) ↔
      ∃ id gateway : String, p.clusterId = .str id ∧ gatewayText g = gateway) ∧
    ∀ name, clusterName p g balancer = .ok name → ∃ first rest,
      Text.split '.' name.toList = first :: rest ∧ IsFull first ∧
      (∃ id one two, p.clusterId = .str id ∧ id.utf8 = .ok one ∧ (gatewayText g).utf8 = .ok two ∧
        first = label (Sha224.hash one) (Sha224.hash two)) ∧
      ∀ read, Name.read name = .ok read →
        ∃ more, read.labels = (first.map fun c => UInt8.ofNat c.toNat) :: more := by
  refine ⟨⟨Base36.length_le_encode raw, ShortCode.encode_codeChar raw⟩, fun bytes => ?_,
    ⟨⟨?_, ?_⟩, ?_, fun f failed => ofText_encoding failed⟩, ⟨?_, ?_⟩, ?_⟩
  · exact ⟨ShortCode.cut_full bytes bound, fun other second => ShortCode.label_full bytes second⟩
  · rintro ⟨code, done⟩
    obtain ⟨bytes, whole, _⟩ := ShortCode.ofText_ok done
    exact LooseText.utf8_plain whole
  · rintro ⟨s, rfl⟩
    exact ⟨_, rfl⟩
  · intro code done
    obtain ⟨bytes, _, rfl⟩ := ShortCode.ofText_ok done
    rw [String.toList_ofList]
    exact ShortCode.cut_full (Sha224.length_hash _) bound
  · rintro ⟨name, named⟩
    obtain ⟨id, one, two, clustered, whole, whole', _⟩ := clusterName_label named
    obtain ⟨s, rfl⟩ := LooseText.utf8_plain whole
    obtain ⟨gateway, plain⟩ := LooseText.utf8_plain whole'
    exact ⟨s, gateway, clustered, plain⟩
  · rintro ⟨id, gateway, clustered, plain⟩
    exact clusterName_made clustered plain
  · intro name named
    obtain ⟨id, one, two, clustered, whole, whole', ⟨rest, split⟩, read⟩ := clusterName_label named
    exact ⟨_, rest, split, ShortCode.label_full (Sha224.length_hash _) (Sha224.length_hash _),
      ⟨id, one, two, clustered, whole, whole', rfl⟩, read⟩

-- A digest that is next to nothing.
def tiny : List UInt8 := List.replicate 27 0 ++ [1]

theorem tiny_full : 28 ≤ 28 ∧ tiny.length = 28 ∧ (ShortCode.cut 28 (Base36.encode tiny)).length = 28 ∧
    IsFull (label tiny tiny) ∧
    (∃ code, ShortCode.ofText 28 "c1" = .ok code ∧ code.toList.length = 28) ∧
    ∃ name, clusterName spread outer (balancerName "app.x") = .ok name ∧ ∃ first rest,
      Text.split '.' name.toList = first :: rest ∧ IsFull first := by
  have bytes : tiny.length = 28 := rfl
  obtain ⟨_, digests, ⟨_, whole, _⟩, _, clusters⟩ :=
    codes_full (Nat.le_refl 28) tiny "c1" spread outer (balancerName "app.x")
  obtain ⟨length, labels⟩ := digests bytes
  obtain ⟨first, rest, split, full, _⟩ := clusters _ rfl
  exact ⟨Nat.le_refl 28, bytes, length, labels tiny bytes, ⟨_, rfl, whole _ rfl⟩, _, rfl, first, rest,
    split, full⟩

-- Half of a pair is a text of one letter, and has no code of any length.
theorem half_uncoded :
    ShortCode.ofText ShortCode.usualLength (.torn "" lone "") = .error (.encoding ⟨lone, 0, 0⟩) ∧
    ¬ ∀ (t : LooseText) (n : Nat), n ≤ 28 →
      ∃ code, ShortCode.ofText n t = .ok code ∧ code.toList.length = n := by
  refine ⟨rfl, fun all => ?_⟩
  obtain ⟨code, done, _⟩ := all (.torn "" lone "") 6 (by decide)
  cases done

end Synthesis
end DnsSteering
