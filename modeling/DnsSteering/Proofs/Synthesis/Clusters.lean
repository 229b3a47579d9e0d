import DnsSteering.Proofs.Synthesis.Delivery
import DnsSteering.Proofs.Synthesis.Names
import DnsSteering.Proofs.Text.Parts

namespace DnsSteering

namespace Text

-- A full stop does not end a word, but a letter starts one anew: what follows is written the same
-- whatever was before.
theorem lowerFrom_dotted (after : Bool) (cs : List Char) :
    lowerFrom after ('.' :: 'k' :: cs) = '.' :: 'k' :: lowerFrom true cs := by
  have dot : isSkipped '.' = true ∧ lowerChar '.' = ['.'] := by decide
  have k : isSkipped 'k' = false ∧ isCased 'k' = true ∧ lowerChar 'k' = ['k'] := by decide
  simp [lowerFrom, dot, k]

end Text

namespace Synthesis

section Clusters

variable {p q : Policy} {g h : Gateway} {base : String} {id id' : LooseText}

-- Below one balancer the names differ in the codes they start with, and only there.
theorem clusterName_coded (base : String) : ∃ rest, ∀ p g id cluster gateway, p.clusterId = .str id →
    ShortCode.ofText ShortCode.usualLength id = .ok cluster →
    ShortCode.ofText ShortCode.usualLength (gatewayText g) = .ok gateway →
    clusterName p g (balancerName base) =
      .ok (String.ofList (cluster.toList ++ '-' :: (gateway.toList ++ rest))) := by
  have balancer : ∃ cs, (balancerName base).toList = 'k' :: cs := by
    obtain ⟨cs, start⟩ := lower_start balancerLabel_quiet base
    exact ⟨_, start⟩
  obtain ⟨cs, start⟩ := balancer
  refine ⟨'.' :: 'k' :: Text.lowerFrom true cs, ?_⟩
  intro p g id cluster gateway clustered first second
  obtain ⟨cased, lower⟩ := Text.lowerFrom_quiet (codes_quiet first second) false
    ('.' :: (balancerName base).toList)
  rw [start, Text.lowerFrom_dotted] at lower
  simp only [clusterName, clustered, first, second, Text.lower, Except.ok.injEq]
  have written : (cluster ++ "-" ++ gateway ++ "." ++ balancerName base).toList =
      (cluster ++ "-" ++ gateway).toList ++ '.' :: 'k' :: cs := by
    simp [start]
  rw [written, lower]
  simp

-- The name of `h` starts with the name of `g` and more, which the namespace of `g` starts with.
def Straddles (g h : Gateway) : Prop :=
  ∃ m, h.name.display = g.name.display ++ "-" ++ m ∧ g.space.display = m ++ "-" ++ h.space.display

theorem gatewayText_eq_iff : gatewayText g = gatewayText h ↔
    (g.name.display = h.name.display ∧ g.space.display = h.space.display) ∨
      Straddles g h ∨ Straddles h g := by
  have listed : ∀ f : Gateway,
      (gatewayText f).letters = f.name.display.letters ++ .inl '-' :: f.space.display.letters := by
    intro f
    simp [gatewayText]
  have straddles : ∀ f f' : Gateway, Straddles f f' ↔
      ∃ m, f'.name.display.letters = f.name.display.letters ++ .inl '-' :: m ∧
        f.space.display.letters = m ++ .inl '-' :: f'.space.display.letters := by
    intro f f'
    constructor
    · rintro ⟨m, name, space⟩
      exact ⟨m.letters, by simp [name], by simp [space]⟩
    · rintro ⟨m, name, space⟩
      exact ⟨.ofLetters m, LooseText.letters_inj (by simp [name]),
        LooseText.letters_inj (by simp [space])⟩
  rw [straddles, straddles, ← LooseText.letters_inj_iff, ← LooseText.letters_inj_iff,
    ← LooseText.letters_inj_iff, listed, listed]
  exact append_separator_eq_iff

-- The texts have a code, and it is the same.
def OneCode (t u : LooseText) : Prop :=
  ∃ code, ShortCode.ofText ShortCode.usualLength t = .ok code ∧
    ShortCode.ofText ShortCode.usualLength u = .ok code

-- Two gateways share their own name below a balancer exactly if both codes are the same, and they
-- have the same text not only where name and namespace agree.
theorem clusterName_shared (clustered : p.clusterId = .str id) (other : q.clusterId = .str id') :
    ((∃ name, clusterName p g (balancerName base) = .ok name ∧
        clusterName q h (balancerName base) = .ok name) ↔
      OneCode id id' ∧ OneCode (gatewayText g) (gatewayText h)) ∧
    (gatewayText g = gatewayText h ↔
      (g.name.display = h.name.display ∧ g.space.display = h.space.display) ∨
        Straddles g h ∨ Straddles h g) := by
  refine ⟨?_, gatewayText_eq_iff⟩
  obtain ⟨rest, coded⟩ := clusterName_coded base
  constructor
  · rintro ⟨name, here, there⟩
    obtain ⟨_, cluster, gateway, given, first, second, _⟩ := clusterName_ok here
    cases Json.str.inj (clustered.symm.trans given)
    obtain ⟨_, cluster', gateway', given', first', second', _⟩ := clusterName_ok there
    cases Json.str.inj (other.symm.trans given')
    rw [coded p g id cluster gateway clustered first second] at here
    rw [coded q h id' cluster' gateway' other first' second'] at there
    have lists := String.ofList_inj.mp (Except.ok.inj (here.trans there.symm))
    obtain ⟨clusters, more⟩ := append_separator_inj (ShortCode.hyphen_notMem_ofText first)
      (ShortCode.hyphen_notMem_ofText first') lists
    cases String.toList_inj.mp clusters
    cases String.toList_inj.mp (List.append_cancel_right more)
    exact ⟨⟨cluster, first, first'⟩, ⟨gateway, second, second'⟩⟩
  · rintro ⟨⟨cluster, first, first'⟩, ⟨gateway, second, second'⟩⟩
    exact ⟨_, coded p g id cluster gateway clustered first second,
      coded q h id' cluster gateway other first' second'⟩

end Clusters

-- Two gateways that differ in where a hyphen belongs.
def outer : Gateway := ⟨.str "a-b", .str "c", .obj [], [first]⟩

def inner : Gateway := ⟨.str "a", .str "b-c", .obj [], [first]⟩

theorem outer_shared : spread.clusterId = .str "c1" ∧
    ((∃ name, clusterName spread outer (balancerName "app.x") = .ok name ∧
        clusterName spread inner (balancerName "app.x") = .ok name) ↔
      OneCode "c1" "c1" ∧ OneCode (gatewayText outer) (gatewayText inner)) ∧
    (gatewayText outer = gatewayText inner ↔
      (outer.name.display = inner.name.display ∧ outer.space.display = inner.space.display) ∨
        Straddles outer inner ∨ Straddles inner outer) :=
  ⟨rfl, clusterName_shared rfl rfl⟩

-- They differ in both, and have one text and so one name.
theorem outer_collides : outer.name ≠ inner.name ∧ outer.space ≠ inner.space ∧
    gatewayText outer = gatewayText inner ∧
    ∃ name, clusterName spread outer (balancerName "app.x") = .ok name ∧
      clusterName spread inner (balancerName "app.x") = .ok name := by
  have text : gatewayText outer = gatewayText inner := by decide
  have alike : clusterName spread inner (balancerName "app.x") =
      clusterName spread outer (balancerName "app.x") := by
    rw [clusterName, clusterName, text]
  exact ⟨by decide, by decide, text, _, rfl, alike⟩

end Synthesis
end DnsSteering
