import DnsSteering.Proofs.Records.Exchange
import DnsSteering.Proofs.Synthesis.Bystanders
import DnsSteering.Proofs.Synthesis.Standing

namespace DnsSteering

namespace Synthesis

-- Attributes and labels of current records are texts that an exchange leaves as they are.
def AllSteady (records : List Record) (ids : List Nat) : Prop :=
  ∀ id ∈ ids, ∀ r, records[id]? = some r → r.attributes.Steady ∧ r.labels.Steady

-- So are the texts of a policy and a gateway that are written into records.
structure Steady (p : Policy) (g : Gateway) : Prop where
  geo : ∀ geo, geoCode g.labels = .ok geo → geo.IsSteady
  weight : ∀ weight, (Weight.resolve p g.labels).1 = .ok weight → (Json.str weight.display).IsSteady

section Portable

variable {p : Policy} {g : Gateway} {hostname : LooseText} {base : String} {es : List Emission}
  {records : List Record} {current ids : List Nat} {row : Row} {marks : List (Json × Json)}

theorem geoName_steady {geo : Json} (steady : geo.IsSteady) (balancer : String) :
    (Json.str (geoName geo balancer)).IsSteady := by
  obtain ⟨t, rfl, unpaired⟩ := steady
  have kept : ∀ s, Text.lower s = "" → s = "" := by
    intro s none
    have longer := Text.length_lower s
    rw [none] at longer
    exact String.toList_eq_nil_iff.mp (List.length_eq_zero_iff.mp (Nat.le_zero.mp longer))
  exact ⟨_, rfl, ((unpaired.append_plain ".").append_plain balancer).mapRuns kept⟩

section Due

variable (steady : Steady p g) (due : Due p g hostname base row marks)

include steady due

theorem Due.slot_steady (unpaired : hostname.Unpaired) :
    row.slot.name.IsSteady ∧ row.slot.identifier.IsSteady := by
  have listener : (Json.str hostname).IsSteady := ⟨_, rfl, unpaired⟩
  cases due with
  | addresses | aliases | entry => exact ⟨listener, Json.isSteady_plain _⟩
  | leaf _ located => exact ⟨geoName_steady (steady.geo _ located) _, Json.isSteady_plain _⟩
  | region _ _ located => exact ⟨Json.isSteady_plain _, steady.geo _ located⟩
  | cluster | fallback => exact ⟨Json.isSteady_plain _, Json.isSteady_plain _⟩

theorem Due.targets_steady : ∀ t ∈ row.targets, t.IsSteady := by
  have listed : ∀ ss : List String, ∀ t ∈ ss.map fun (s : String) => Json.str s, t.IsSteady := by
    intro ss t member
    obtain ⟨s, _, rfl⟩ := List.mem_map.mp member
    exact Json.isSteady_plain s
  cases due with
  | addresses | aliases | cluster => exact listed _
  | leaf | entry => exact List.forall_mem_singleton.mpr (Json.isSteady_plain _)
  | region _ _ located | fallback _ _ located =>
    exact List.forall_mem_singleton.mpr (geoName_steady (steady.geo _ located) _)

theorem Due.marks_steady (unpaired : hostname.Unpaired) : ∀ m ∈ marks, m.1.IsSteady ∧ m.2.IsSteady := by
  rintro ⟨key, value⟩ mark
  rcases due.mark_cases mark with ⟨rfl, weight, weighed, rfl⟩ | ⟨rfl, rfl⟩
  · exact ⟨Json.isSteady_plain _, steady.weight weight weighed⟩
  · refine ⟨Json.isSteady_plain _, ?_⟩
    dsimp only
    split
    · exact Json.isSteady_plain _
    · exact (Due.slot_steady steady due unpaired).2

end Due

theorem imprintAll_portable (unpaired : hostname.Unpaired) (steady : Steady p g)
    (emits : EmitsDue p g hostname base es) {s : Slot} {origin : Record}
    (attributes : origin.attributes.Steady) (marked : origin.labels.Steady)
    (due : Due p g hostname base (Emission.imprintAll s es origin).row marks) :
    (Emission.imprintAll s es origin).Portable := by
  have printed := Emission.imprintAll_imprinted s es origin
  obtain ⟨name, identifier⟩ := Due.slot_steady steady due unpaired
  refine ⟨name, identifier, ?_, due.targets_steady steady, due.ttl_whole, ?_, ?_⟩
  · rcases due.type with isAddress | isAlias
    · rw [show (Emission.imprintAll s es origin).type = .a from isAddress]
      rfl
    · rw [show (Emission.imprintAll s es origin).type = .cname from isAlias]
      rfl
  · refine Emission.imprintAll_attributes ?_ attributes
    intro e member m mark entries before
    obtain ⟨row, marks, wanted, rfl⟩ := (emits e).mp member
    obtain ⟨key, value⟩ := wanted.marks_steady steady unpaired m mark
    exact before.set key value
  · rw [printed.labels]
    exact marked

-- What is published are current records and blank ones, with what a plan sets.
theorem publish_imprinted (labels : TextLabels g.labels) (text : AllText records current)
    (done : (publish g (.str hostname) p records (some current)).published = .ok ids) :
    ∃ base rs, listenerBase (.str hostname) = .ok base ∧ p.refusal? = none ∧
      (plan p g (.str hostname) base).fault = none ∧
      Standing p g hostname base (publish g (.str hostname) p records (some current)).records ids rs ∧
      ∀ r ∈ rs, ∃ s origin marks,
        r = Emission.imprintAll s (Plan.emissions (plan p g (.str hostname) base).acts) origin ∧
        Due p g hostname base r.row marks ∧
        ((origin.attributes = [] ∧ origin.labels = []) ∨ ∃ id ∈ current, records[id]? = some origin) := by
  obtain ⟨base, left, accepted, sound⟩ := publish_parts done
  have emits := plan_emissions labels sound
  obtain ⟨start, ids', rs, _, same, waiting, done', completed⟩ :=
    publish_completed text left accepted sound (plan_fit labels sound)
  cases Except.ok.inj (done'.symm.trans done)
  have standing := (completed_delivered labels left emits completed).standing
  refine ⟨base, rs, left, accepted, sound, standing, ?_⟩
  intro r member
  obtain ⟨marks, due⟩ := (standing.rows r.row).mp ⟨r, member, rfl⟩
  obtain ⟨id, listed, there⟩ := standing.shows.mem_id member
  obtain ⟨s, origin, _, source, there'⟩ := completed.drawn id listed
  cases Option.some.inj (there'.symm.trans there)
  refine ⟨s, origin, marks, rfl, due, ?_⟩
  cases source with
  | waiting t held was alike =>
    rw [same] at was
    exact .inr ⟨id, waiting _ held, was⟩
  | blank fresh empty =>
    rw [empty]
    exact .inl ⟨rfl, rfl⟩

theorem publish_named (labels : TextLabels g.labels)
    (done : (publish g (.str hostname) p [] (some [])).published = .ok ids) :
    ∃ base rs, listenerBase (.str hostname) = .ok base ∧ (plan p g (.str hostname) base).fault = none ∧
      Standing p g hostname base (publish g (.str hostname) p [] (some [])).records ids rs ∧
      ∀ r ∈ rs, r.attributes.Named := by
  obtain ⟨base, rs, left, _, sound, standing, made⟩ :=
    publish_imprinted labels (allText_of (List.forall_mem_nil _) []) done
  refine ⟨base, rs, left, sound, standing, ?_⟩
  intro r member
  obtain ⟨s, origin, _, rfl, _, ⟨attributes, _⟩ | ⟨id, listed, _⟩⟩ := made r member
  · refine Emission.imprintAll_attributes ?_ (attributes ▸ Entries.named_nil)
    intro e emitted m mark entries named
    obtain ⟨row, marks, wanted, rfl⟩ := (plan_emissions labels sound e).mp emitted
    exact named.set (wanted.mark_text m mark) m.2
  · cases listed

theorem publish_portable (labels : TextLabels g.labels) (text : AllText records current)
    (unpaired : hostname.Unpaired) (steady : Steady p g) (stored : AllSteady records current)
    (done : (publish g (.str hostname) p records (some current)).published = .ok ids) :
    ∃ base rs, listenerBase (.str hostname) = .ok base ∧ p.refusal? = none ∧
      (plan p g (.str hostname) base).fault = none ∧
      Standing p g hostname base (publish g (.str hostname) p records (some current)).records ids rs ∧
      ∀ r ∈ rs, r.Portable := by
  obtain ⟨base, rs, left, accepted, sound, standing, made⟩ := publish_imprinted labels text done
  refine ⟨base, rs, left, accepted, sound, standing, ?_⟩
  intro r member
  have emits := plan_emissions labels sound
  obtain ⟨s, origin, marks, rfl, due, ⟨attributes, marked⟩ | ⟨id, listed, there⟩⟩ := made r member
  · exact imprintAll_portable unpaired steady emits (attributes ▸ Entries.steady_nil)
      (marked ▸ Entries.steady_nil) due
  · obtain ⟨attributes, marked⟩ := stored id listed origin there
    exact imprintAll_portable unpaired steady emits attributes marked due

-- The records published are portable, and published again when they are all that is current.
theorem publish_reprinted (labels : TextLabels g.labels) (unpaired : hostname.Unpaired)
    (steady : Steady p g) (stored : AllSteady records current)
    (done : (publish g (.str hostname) p records (some current)).published = .ok ids) :
    ∃ rs, Shows (publish g (.str hostname) p records (some current)).records ids rs ∧
      (∀ r ∈ rs, r.Portable) ∧
      (publish g (.str hostname) p rs (some (List.range rs.length))).published =
        .ok (List.range rs.length) ∧
      (publish g (.str hostname) p rs (some (List.range rs.length))).records = rs := by
  obtain ⟨start, opened⟩ := publish_opened done
  rw [publish_textual labels opened] at done ⊢
  have textual : AllSteady records (current.filter (Ledger.standsText records)) :=
    fun id member => stored id (List.mem_of_mem_filter member)
  obtain ⟨base, rs, left, accepted, sound, standing, portable⟩ :=
    publish_portable labels (filter_allText records current) unpaired steady textual done
  obtain ⟨again, kept⟩ := publish_standing labels left accepted sound standing.renumbered
  exact ⟨rs, standing.shows, portable, again, kept⟩

end Portable
end Synthesis
end DnsSteering
