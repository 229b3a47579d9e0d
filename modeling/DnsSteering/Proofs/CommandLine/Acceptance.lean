import DnsSteering.Proofs.CommandLine.Repetition
import DnsSteering.Proofs.Config.Breaks
import DnsSteering.Proofs.Dns.Hostname
import DnsSteering.Proofs.Synthesis.Faults

namespace DnsSteering.Config

theorem readHostname_accepted {v : Option Json} {h : String} (done : (readHostname v).ending = .accepted h) :
    Hostname.refusal? true h = none := by
  obtain ⟨w, present, checked⟩ := Reading.bind_accepted.mp done
  cases v with
  | none => cases present
  | some v =>
    cases present
    cases w with
    | str t =>
      cases clear : Hostname.refusal? true t.mended with
      | some reason => simp [Hostname.check, clear] at checked
      | none =>
        simp only [Hostname.check, clear] at checked
        cases checked
        exact clear
    | _ =>
      split at checked
      · cases checked
      · cases checked
      · cases checked

-- Only policies of a known strategy are built, and only those that are not refused are accepted.
theorem readPolicy_accepted {text : Option Json} {p : Policy} (done : (readPolicy text).ending = .accepted p) :
    p.refusal? = none ∧ (p.isSimple = true ∨ p.isBalanced = true) := by
  obtain ⟨v, _, made⟩ := Reading.bind_accepted.mp done
  cases v with
  | obj fields =>
    simp only [policyOfFields] at made
    split at made
    · obtain ⟨rfl, clear⟩ := build_accepted made
      exact ⟨clear, .inl rfl⟩
    · split at made
      · obtain ⟨rules, _, made⟩ := Reading.bind_accepted.mp made
        obtain ⟨rfl, clear⟩ := build_accepted made
        exact ⟨clear, .inr rfl⟩
      · cases made
  | _ => cases made

end DnsSteering.Config

namespace DnsSteering.CommandLine

-- An accepted input has a hostname with something left of it and a policy that stands. Its publication
-- fails on the kind of a value or on a text that cannot be hashed, or not at all, and such a failure breaks
-- the run off.
theorem accepted_published {s : Config.Source} {c : Config} (accepted : (Config.read s).ending = .accepted c) :
    (∃ name base, Name.read c.hostname = .ok name ∧ Hostname.base (.str c.hostname) = .ok base ∧
      base ≠ "") ∧
    c.policy.refusal? = none ∧ (c.policy.isSimple = true ∨ c.policy.isBalanced = true) ∧
    ∀ f, (Run.publication c).published = .error f →
      (f.IsKind ∨ f.IsEncoding) ∧
        ∀ zone, Run.ofConfig zone c = ⟨.broken f, (Run.publication c).log⟩ := by
  have parts := Config.read_parts.mp accepted
  have named := Config.readHostname_accepted parts.hostname
  obtain ⟨clear, known⟩ := Config.readPolicy_accepted parts.policy
  obtain ⟨name, _, read, _⟩ := Hostname.accepted_read named
  obtain ⟨base, left, bare, some⟩ := Synthesis.listenerBase_accepted named
  refine ⟨⟨name, base, read, bare, some⟩, clear, known, ?_⟩
  intro f failed
  have kind := Synthesis.publish_kind left clear known failed
  have unrefused : f.isRefusal = false := kind.elim Fault.IsKind.not_refusal Fault.IsEncoding.not_refusal
  refine ⟨kind, fun zone => ?_⟩
  unfold Run.publication at failed
  simp [Run.ofConfig, failed, unrefused, Run.publication]

def clusterRouting (id : String) : String :=
  "\x7b\"cluster_id\": " ++ id ++ ", \"default_geo\": \"IE\", \"default_weight\": 120\x7d"

def clusterSource (id : String) : Config.Source :=
  Config.texts "*.x" labelledGateway (clusterRouting id) "[]"

def clusterConfig (id : Json) : Config :=
  { hostname := "*.x", gateway := ⟨.str "", .str "", .obj [], [Synthesis.first]⟩
    policy := { Synthesis.spread with clusterId := id }, current := [] }

-- Where a text is given for the cluster, what was accepted is published. A number for it is accepted as
-- well, and no name can be made of that.
theorem cluster_published :
    (Config.read (clusterSource "\"c1\"")).ending = .accepted (clusterConfig (.str "c1")) ∧
    Hostname.base (.str "*.x") = .ok "x" ∧
    (Run.publication (clusterConfig (.str "c1"))).published = .ok [3, 0, 1, 2] ∧
    (Config.read (clusterSource "5")).ending = .accepted (clusterConfig (.int 5)) ∧
    (Run.publication (clusterConfig (.int 5))).published = .error .noMember ∧
    Run.ofConfig true (clusterConfig (.int 5)) = ⟨.broken .noMember, []⟩ := by
  have named : (Config.read (clusterSource "\"c1\"")).ending = .accepted (clusterConfig (.str "c1")) := by
    decide +kernel
  have published : (Run.publication (clusterConfig (.str "c1"))).published = .ok [3, 0, 1, 2] := by
    decide +kernel
  have numbered : (Config.read (clusterSource "5")).ending = .accepted (clusterConfig (.int 5)) := by
    decide +kernel
  have failed : (Run.publication (clusterConfig (.int 5))).published = .error .noMember := by
    decide +kernel
  have log : (Run.publication (clusterConfig (.int 5))).log = [] := by decide +kernel
  obtain ⟨⟨_, base, _, bare, _⟩, _⟩ := accepted_published named
  obtain ⟨_, _, _, faults⟩ := accepted_published numbered
  obtain ⟨_, broken⟩ := faults .noMember failed
  obtain rfl : base = "x" := by
    have known : Hostname.base (.str "*.x") = .ok "x" := by decide +kernel
    exact Except.ok.inj (bare.symm.trans known)
  refine ⟨named, bare, published, numbered, failed, ?_⟩
  rw [broken true, log]

end DnsSteering.CommandLine
