import DnsSteering.Proofs.Dns.Name
import DnsSteering.Proofs.Hash.Base36
import DnsSteering.Proofs.Texts
import DnsSteering.Synthesis

namespace DnsSteering

namespace Text

theorem length_lowerFrom (after : Bool) (cs : List Char) :
    cs.length ≤ (lowerFrom after cs).length := by
  induction cs generalizing after with
  | nil => exact Nat.le_refl _
  | cons c cs ih =>
    have one : ∀ d : Char, 1 ≤ (lowerChar d).length := by
      intro d
      unfold lowerChar
      split
      · exact Nat.le_refl 1
      · split <;> simp
    have rest := ih (if isSkipped c then after else isCased c)
    have here := one c
    unfold lowerFrom
    simp only [List.length_append, List.length_cons]
    split
    · simp only [List.length_singleton]
      omega
    · omega

-- So what is put in front of a name makes another one.
theorem length_lower (s : String) : s.toList.length ≤ (lower s).toList.length := by
  rw [lower, String.toList_ofList]
  exact length_lowerFrom false s.toList

theorem length_lowerRuns (t : LooseText) :
    t.letters.length ≤ (t.mapRuns lower).letters.length := by
  induction t with
  | plain s => simpa using length_lower s
  | torn front half rest ih =>
    have runs := length_lower front
    simp only [LooseText.mapRuns, LooseText.letters, List.length_append, List.length_map, List.length_cons]
    omega

theorem lowerFrom_quiet {label : List Char} (only : ∀ c ∈ label, c ∈ Name.quiet) (after : Bool)
    (cs : List Char) :
    ∃ cased, lowerFrom after (label ++ cs) = label ++ lowerFrom cased cs := by
  induction label generalizing after with
  | nil => exact ⟨after, rfl⟩
  | cons c label ih =>
    obtain ⟨small, lower, _⟩ := Name.quiet_facts c (only c (List.mem_cons_self ..))
    obtain ⟨cased, rest⟩ := ih (fun d member => only d (List.mem_cons_of_mem _ member))
      (if isSkipped c then after else isCased c)
    refine ⟨cased, ?_⟩
    have noSigma : c.toNat ≠ 0x3A3 := by omega
    rw [List.cons_append, lowerFrom, if_neg noSigma, lowerChar, if_pos small, lower, rest]
    rfl

end Text

namespace ShortCode

-- What is true of the 36 digits is true of every character of a code.
theorem ofText_ok {n : Int} {t : LooseText} {code : String} (done : ofText n t = .ok code) :
    ∃ bytes, t.utf8 = .ok bytes ∧ code = String.ofList (cut n (Base36.encode (Sha224.hash bytes))) := by
  obtain ⟨cs, hashed, rfl⟩ := ok_of_map done
  unfold hash at hashed
  split at hashed
  · cases hashed
  · rename_i bytes encoded
    cases hashed
    exact ⟨bytes, encoded, rfl⟩

theorem ofText_digits {P : Char → Prop} (digit : ∀ d : Fin 36, P (Base36.digit d)) {n : Int}
    {t : LooseText} {code : String} (done : ofText n t = .ok code) : ∀ c ∈ code.toList, P c := by
  obtain ⟨bytes, _, rfl⟩ := ofText_ok done
  intro c member
  rw [String.toList_ofList] at member
  exact Base36.forall_encode digit _ c (mem_of_mem_cut member)

theorem ofText_quiet {n : Int} {t : LooseText} {code : String} (done : ofText n t = .ok code) :
    ∀ c ∈ code.toList, c ∈ Name.quiet :=
  ofText_digits (by decide) done

theorem hyphen_notMem_ofText {n : Int} {t : LooseText} {code : String} (done : ofText n t = .ok code) :
    '-' ∉ code.toList := fun member =>
  ofText_digits (P := (· ≠ '-')) (by decide) done '-' member rfl

end ShortCode

namespace Synthesis

theorem balancerLabel_quiet : ∀ c ∈ balancerLabel.toList, c ∈ Name.quiet :=
  Text.forall_of_all (by decide)

-- What a gateway's own name is made of: the code of the cluster and that of the gateway.
theorem clusterName_ok {p : Policy} {g : Gateway} {balancer name : String}
    (named : clusterName p g balancer = .ok name) : ∃ id cluster gateway, p.clusterId = .str id ∧
      ShortCode.ofText ShortCode.usualLength id = .ok cluster ∧
      ShortCode.ofText ShortCode.usualLength (gatewayText g) = .ok gateway ∧
      name = Text.lower (cluster ++ "-" ++ gateway ++ "." ++ balancer) := by
  unfold clusterName at named
  split at named
  · rename_i id given
    split at named
    · cases named
    · rename_i cluster first
      split at named
      · cases named
      · rename_i gateway second
        cases named
        exact ⟨id, cluster, gateway, given, first, second, rfl⟩
  · cases named

-- What is put in front of a balancer for a gateway of its own.
theorem codes_quiet {n : Int} {t u : LooseText} {cluster gateway : String}
    (first : ShortCode.ofText n t = .ok cluster) (second : ShortCode.ofText n u = .ok gateway) :
    ∀ c ∈ (cluster ++ "-" ++ gateway).toList, c ∈ Name.quiet := by
  intro c member
  simp only [String.toList_append, List.mem_append] at member
  rcases member with (one | hyphen) | two
  · exact ShortCode.ofText_quiet first c one
  · rw [List.mem_singleton.mp hyphen]
    decide
  · exact ShortCode.ofText_quiet second c two

theorem geoName_ne (geo : Json) (balancer : String) : geoName geo balancer ≠ balancer := by
  intro same
  have longer := Text.length_lowerRuns (geo.display ++ .plain "." ++ .plain balancer)
  rw [geoName] at same
  rw [same] at longer
  simp at longer
  omega

theorem balancerName_longer (base : String) :
    base.toList.length < (balancerName base).toList.length := by
  have longer := Text.length_lower (balancerLabel ++ "." ++ base)
  simp only [balancerLabel, String.toList_append, List.length_append] at longer
  have label : "klb".toList.length = 3 := rfl
  rw [balancerName, balancerLabel]
  omega

theorem lower_start {label : String} (only : ∀ c ∈ label.toList, c ∈ Name.quiet) (rest : String) :
    ∃ cs, (Text.lower (label ++ "." ++ rest)).toList = label.toList ++ '.' :: cs := by
  obtain ⟨cased, split⟩ := Text.lowerFrom_quiet only false ('.' :: rest.toList)
  refine ⟨Text.lowerFrom cased rest.toList, ?_⟩
  have list : (label ++ "." ++ rest).toList = label.toList ++ '.' :: rest.toList := by simp
  rw [Text.lower, String.toList_ofList, list, split]
  rfl

theorem listenerBase_parts {hostname : LooseText} {base : String}
    (left : listenerBase (.str hostname) = .ok base) :
    ∃ name, Name.read hostname.mended = .ok name ∧ (name.isWild = true ∨ base = hostname.mended) := by
  unfold listenerBase at left
  split at left
  · cases left
  · cases read : Name.read hostname.mended with
    | error f => simp [Hostname.base, Name.ofJson, read] at left
    | ok name =>
      refine ⟨name, rfl, ?_⟩
      by_cases wild : name.isWild = true
      · exact .inl wild
      · right
        have parsed : Hostname.base (.str hostname) =
            if name = Name.root then .ok "" else .ok hostname.mended := by
          simp [Hostname.base, Name.ofJson, read, wild, Json.display]
        rw [parsed] at left
        split at left
        · rename_i f failed
          split at failed <;> cases failed
        · rename_i rest got
          split at left
          · cases left
          · rename_i some
            cases left
            split at got
            · cases got
              exact absurd rfl some
            · cases got
              rfl

-- What is put in front of a listener's base never makes the listener's own name.
theorem lower_ne {label base rest : String} {hostname : LooseText}
    (only : ∀ c ∈ label.toList, c ∈ Name.quiet) (some : label.toList ≠ [])
    (left : listenerBase (.str hostname) = .ok base) (bound : base.toList.length ≤ rest.toList.length) :
    .plain (Text.lower (label ++ "." ++ rest)) ≠ hostname := by
  intro written
  have same : Text.lower (label ++ "." ++ rest) = hostname.mended := by
    rw [← written, LooseText.mended_plain]
  obtain ⟨name, done, wild | plain⟩ := listenerBase_parts left
  · obtain ⟨cs, start⟩ := lower_start only rest
    rw [same] at start
    have notWild := Name.read_quiet_notWild only some start done
    rw [wild] at notWild
    cases notWild
  · have longer := Text.length_lower (label ++ "." ++ rest)
    rw [same, ← plain] at longer
    simp only [String.toList_append, List.length_append] at longer
    have dot : ".".toList.length = 1 := rfl
    omega

theorem balancerName_ne {hostname : LooseText} {base : String}
    (left : listenerBase (.str hostname) = .ok base) : .plain (balancerName base) ≠ hostname :=
  lower_ne balancerLabel_quiet (by decide) left (Nat.le_refl _)

-- Where a gateway's own name can be made, it is neither the listener's nor the balancer's.
theorem clusterName_ne {p : Policy} {g : Gateway} {hostname : LooseText} {base name : String}
    (left : listenerBase (.str hostname) = .ok base)
    (named : clusterName p g (balancerName base) = .ok name) :
    .plain name ≠ hostname ∧ name ≠ balancerName base := by
  obtain ⟨id, cluster, gateway, _, first, second, rfl⟩ := clusterName_ok named
  constructor
  · exact lower_ne (codes_quiet first second) (by simp) left (Nat.le_of_lt (balancerName_longer base))
  · intro same
    have longer := Text.length_lower (cluster ++ "-" ++ gateway ++ "." ++ balancerName base)
    rw [same] at longer
    simp at longer
    omega

end Synthesis
end DnsSteering
