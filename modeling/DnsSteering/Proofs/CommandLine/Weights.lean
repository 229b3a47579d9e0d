import DnsSteering.Proofs.CommandLine.Acceptance
import DnsSteering.Proofs.Synthesis.Weights
import DnsSteering.Proofs.Weight.Decimals

namespace DnsSteering.CommandLine

open Synthesis

-- A weight that a rule gave is a whole number other than zero. The default is published as it was given.
theorem accepted_weighed {s : Config.Source} {c : Config} {ids : List Nat}
    (accepted : (Config.read s).ending = .accepted c) (balanced : c.policy.isBalanced = true)
    (done : (Run.publication c).published = .ok ids) :
    ∃ base geo rs, listenerBase (.str c.hostname) = .ok base ∧ geoCode c.gateway.labels = .ok geo ∧
      Shows (Run.publication c).records ids rs ∧
      ((c.gateway.addresses = [] ∧ rs = []) ∨
        ∃ weight, (Weight.resolve c.policy c.gateway.labels).1 = .ok weight ∧
          (∀ r ∈ rs, r.name = .str (geoName geo (balancerName base)) →
            (r.type = .cname ∧
              Entries.value? (.str "weight") r.attributes = some (.str weight.display)) ∨
            (r.type = .a ∧ c.gateway.ips ≠ [] ∧
              (clusterName c.policy c.gateway (balancerName base)).map .plain =
                .ok (geoName geo (balancerName base)))) ∧
          ((Json.str weight.display).IsDecimal ↔
            (∃ r ∈ c.policy.rules, r.weight = weight) ∨ c.policy.Countable)) := by
  have parts := Config.read_parts.mp accepted
  have named := Config.readHostname_accepted parts.hostname
  obtain ⟨clear, _⟩ := Config.readPolicy_accepted parts.policy
  have other : ¬ c.policy.isSimple = true := fun simple => by simp [not_balanced simple] at balanced
  obtain ⟨base, left, _⟩ := listenerBase_accepted named
  obtain ⟨geo, rs, located, shows, weighed⟩ :=
    publish_weighed balanced named List.nodup_range left done
  refine ⟨base, geo, rs, left, located, shows, weighed.imp_right ?_⟩
  rintro ⟨weight, resolved, each⟩
  exact ⟨weight, resolved, each,
    Weight.resolve_decimal clear other (Config.readPolicy_whole parts.policy) resolved⟩

-- The label of a geography may spell a gateway's own name.
example : (clusterName spread ⟨.str "a", .str "b-c", .obj [], [first]⟩ (balancerName "app.x")).map .plain =
    .ok (geoName (.str "2PIIVC-2kfjba") (balancerName "app.x")) := by decide +kernel

-- A gateway of one hostname, and what policies weigh it with.
def weighed (labels : List (LooseText × Json)) (default : Json) (rules : List WeightRule) : Config where
  hostname := "app.x"
  gateway := ⟨.str "", .str "", .obj labels, [edge]⟩
  policy := { spread with defaultWeight := default, rules := rules }
  current := []

def goldenInput : Config.Source := Config.texts "app.x"
  "\x7b\"labels\": \x7b\"tier\": \"gold\"\x7d,
    \"addresses\": [\x7b\"type\": \"Hostname\", \"value\": \"edge.x\"\x7d]\x7d"
  "\x7b\"cluster_id\": \"c1\", \"default_geo\": \"IE\", \"default_weight\": \"heavy\",
    \"custom_weights\": [\x7b\"weight\": 80.5,
      \"selector\": \x7b\"match_labels\": \x7b\"tier\": \"gold\"\x7d\x7d\x7d]\x7d"
  "[]"

def golden : Config := weighed [("tier", .str "gold")] (.str "heavy")
  [⟨.int 80, some ⟨.obj [("tier", .str "gold")], .none⟩⟩]

-- A rule that matches is asked first, and its weight was made whole when it was read.
theorem golden_weighed : (Config.read goldenInput).ending = .accepted golden ∧ golden.policy.isBalanced = true ∧
    (Run.publication golden).published = .ok [2, 0, 1] ∧
    ∃ rs, Shows (Run.publication golden).records [2, 0, 1] rs ∧
      ∀ r ∈ rs, r.name = .str "default.klb.app.x" →
        Entries.value? (.str "weight") r.attributes = some (.str "80") := by
  have accepted : (Config.read goldenInput).ending = .accepted golden := by decide +kernel
  have done : (Run.publication golden).published = .ok [2, 0, 1] := by decide +kernel
  obtain ⟨base, geo, rs, left, located, shows, weight⟩ := accepted_weighed accepted rfl done
  have known : listenerBase (.str "app.x") = .ok "app.x" := by decide +kernel
  cases Except.ok.inj (known.symm.trans left)
  cases Except.ok.inj located
  refine ⟨accepted, rfl, done, rs, shows, ?_⟩
  rcases weight with ⟨none, _⟩ | ⟨weight, resolved, each, _⟩
  · cases none
  · have rule : (Weight.resolve golden.policy golden.gateway.labels).1 = .ok (.int 80) := by
      decide +kernel
    cases Except.ok.inj (rule.symm.trans resolved)
    intro r member here
    rcases each r member (here.trans (by decide +kernel)) with ⟨_, carried⟩ | ⟨_, some, _⟩
    · exact carried
    · exact absurd rfl some

def fractionalInput : Config.Source := Config.texts "app.x"
  "\x7b\"addresses\": [\x7b\"type\": \"Hostname\", \"value\": \"edge.x\"\x7d]\x7d"
  "\x7b\"cluster_id\": \"c1\", \"default_geo\": \"IE\", \"default_weight\": 1.5\x7d" "[]"

def fractional : Config := weighed [] (.float (.finite false 6755399441055744 (-52))) []

-- The default is not: what was read as one and a half is published as that.
theorem fractional_published : (Config.read fractionalInput).ending = .accepted fractional ∧
    (Run.publication fractional).published = .ok [2, 0, 1] ∧
    ((Run.publication fractional).records[0]?).map (fun r => (r.name, r.attributes)) =
      some (.str "default.klb.app.x", [(.str "weight", .str "1.5")]) ∧
    ¬ ∀ s c ids, (Config.read s).ending = .accepted c → c.policy.isBalanced = true →
      (Run.publication c).published = .ok ids → ∃ value : Json, value.IsDecimal ∧
        ∀ base geo, listenerBase (.str c.hostname) = .ok base → geoCode c.gateway.labels = .ok geo →
          ∀ id ∈ ids, ∀ r, (Run.publication c).records[id]? = some r →
            r.name = .str (geoName geo (balancerName base)) →
              Entries.value? (.str "weight") r.attributes = some value := by
  have accepted : (Config.read fractionalInput).ending = .accepted fractional := by decide +kernel
  have done : (Run.publication fractional).published = .ok [2, 0, 1] := by decide +kernel
  have shown : ((Run.publication fractional).records[0]?).map (fun r => (r.name, r.attributes)) =
      some (.str "default.klb.app.x", [(.str "weight", .str "1.5")]) := by decide +kernel
  refine ⟨accepted, done, shown, fun all => ?_⟩
  obtain ⟨value, ⟨n, _, whole⟩, carried⟩ := all _ _ _ accepted rfl done
  obtain ⟨r, there, same⟩ := Option.map_eq_some_iff.mp shown
  obtain ⟨name, attributes⟩ := Prod.mk.inj same
  have known : listenerBase (.str "app.x") = .ok "app.x" := by decide +kernel
  have weight := carried "app.x" defaultGeo known rfl 0 (by simp) r there (name.trans (by decide +kernel))
  rw [attributes, whole] at weight
  have text : "1.5" = toString n := LooseText.plain.inj (Json.str.inj (Option.some.inj weight))
  rcases Json.toString_chars n '.' (by rw [← text]; decide) with digit | minus
  · exact absurd digit (by decide)
  · exact absurd minus (by decide)

end DnsSteering.CommandLine
