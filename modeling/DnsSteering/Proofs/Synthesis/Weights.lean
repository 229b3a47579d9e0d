import DnsSteering.Proofs.Dns.Hostname
import DnsSteering.Proofs.Ledger.Names
import DnsSteering.Proofs.Order.Runs
import DnsSteering.Proofs.Synthesis.Plans
import DnsSteering.Proofs.Text.Lowercase

namespace DnsSteering

namespace Plan

variable {es : List Emission} {acts : List Act} {name key value : Json} {type : RecordType}
variable {l after : Ledger}

-- Emissions with texts for names, where those of one name and type set one value under a key.
structure Uniform (name : Json) (type : RecordType) (key value : Json) (es : List Emission) : Prop where
  text : ∀ e ∈ es, e.request.name.IsText
  keys : ∀ e ∈ es, ∀ m ∈ e.marks, m.1.IsText
  marks : ∀ e ∈ es, e.request.name = name → e.request.type = type → e.marks = [(key, value)]

-- What is given out was requested, and carries what was set.
structure Stands (name : Json) (type : RecordType) (key value : Json) (es : List Emission) (l : Ledger) :
    Prop where
  named : l.Named
  carries : l.Carries name type key value
  requested : ∀ h ∈ l.emitted, ∃ e ∈ es, e.request.name = h.1.name ∧ e.request.type = h.1.type

theorem Stands.step {e : Emission} {id : Nat} {marked : Ledger}
    (uniform : Uniform name type key value es) (listed : e ∈ es) (stands : Stands name type key value es l)
    (put : l.put e.request = (after, .ok id)) (set : after.setAttributes id e.marks = (marked, none)) :
    Stands name type key value es marked := by
  have text := uniform.text e listed
  have served := Ledger.put_served stands.named put
  have named := served.named stands.named text
  obtain ⟨r, there, _⟩ := served.record stands.named text
  rw [Ledger.setAttributes_text (uniform.keys e listed) there] at set
  cases set
  refine ⟨named.replace there rfl rfl, served.carries stands.named text stands.carries ?_, ?_⟩
  · intro name' type'
    have one := uniform.marks e listed name' type'
    have keyed : key.IsText := uniform.keys e listed (key, value) (by simp [one])
    simp [one, Record.marked, Entries.value?_set keyed]
  · intro h member
    by_cases here : h.2 = id
    · obtain ⟨t, given, called, typed⟩ := served.holding text
      have same : h = (t, id) := List.inj_on_of_nodup_map named.once
        (List.mem_append_left _ member) (List.mem_append_left _ given) here
      rw [same]
      exact ⟨e, listed, called.symm, typed.symm⟩
    · obtain ⟨_, emitted, _⟩ := served.others stands.named (List.mem_append_left _ member) here
      exact stands.requested h (emitted member)

theorem Stands.shown (uniform : Uniform name type key value es) (stands : Stands name type key value es l) :
    ∀ id ∈ l.emittedIds, ∃ r, l.records[id]? = some r ∧
      (∃ e ∈ es, e.request.name = r.name ∧ e.request.type = r.type) ∧
      (r.name = name → r.type = type → Entries.value? key r.attributes = some value) := by
  intro id listed
  obtain ⟨h, held, rfl⟩ := List.mem_map.mp listed
  obtain ⟨r, there, called, typed⟩ := stands.named.there h (List.mem_append_left _ held)
  obtain ⟨e, emitted, name', type'⟩ := stands.requested h held
  have same : r.name = h.1.name := called.eq (name' ▸ uniform.text e emitted)
  refine ⟨r, there, ⟨e, emitted, name'.trans same.symm, type'.trans typed.symm⟩, ?_⟩
  intro here alike
  obtain ⟨r', there', carried⟩ := stands.carries h held (same.symm.trans here) (typed.symm.trans alike)
  cases Option.some.inj (there'.symm.trans there)
  exact carried

-- A plan that ran to its end wrote its notes, and was answered each request.
theorem runActs_note {line : Log.Line} {log : List Log.Line}
    (ran : runActs l (.note line :: acts) = (after, none, log)) :
    ∃ more, runActs l acts = (after, none, more) := by
  rcases rest : runActs l acts with ⟨last, fault, more⟩
  simp only [runActs, rest, Prod.mk.injEq] at ran
  obtain ⟨rfl, rfl, _⟩ := ran
  exact ⟨more, rfl⟩

theorem runActs_emit {q : Request} {marks : List (Json × Json)} {log : List Log.Line}
    (ran : runActs l (.emit q marks :: acts) = (after, none, log)) :
    ∃ next id marked more, l.put q = (next, .ok id) ∧ next.setAttributes id marks = (marked, none) ∧
      runActs marked acts = (after, none, more) := by
  rcases put : l.put q with ⟨next, f | id⟩
  · simp [runActs, put] at ran
  · rcases set : next.setAttributes id marks with ⟨marked, _ | f⟩
    · rcases rest : runActs marked acts with ⟨last, fault, more⟩
      simp only [runActs, put, set, rest, Prod.mk.injEq] at ran
      obtain ⟨rfl, rfl, _⟩ := ran
      exact ⟨next, id, marked, more, rfl, set, rest⟩
    · simp [runActs, put, set] at ran

-- The induction is on what is left of the plan.
theorem runActs_stands {log : List Log.Line} (uniform : Uniform name type key value es)
    (listed : ∀ e ∈ emissions acts, e ∈ es) (stands : Stands name type key value es l)
    (ran : runActs l acts = (after, none, log)) : Stands name type key value es after := by
  induction acts generalizing l log with
  | nil =>
    cases ran
    exact stands
  | cons act acts ih =>
    cases act with
    | note line =>
      obtain ⟨_, rest⟩ := runActs_note ran
      exact ih listed stands rest
    | emit q marks =>
      have first := listed ⟨q, marks⟩ (List.mem_cons_self ..)
      have others : ∀ e ∈ emissions acts, e ∈ es := fun e member => listed e (List.mem_cons_of_mem _ member)
      obtain ⟨_, _, _, _, put, set, rest⟩ := runActs_emit ran
      exact ih others (stands.step uniform first put set) rest

end Plan

namespace Synthesis

variable {p : Policy} {g : Gateway} {records : List Record} {current ids : List Nat}

-- Numbers are put in order, and none is lost or added.
theorem orderedIds_perm {numbers : List Nat} (there : ∀ id ∈ numbers, ∃ r, records[id]? = some r)
    (done : orderedIds records numbers = .ok ids) : ids.Perm numbers := by
  obtain ⟨same, _⟩ := numbered_facts there
  unfold orderedIds at done
  dsimp only at done
  split at done
  · rename_i sorted found
    cases Except.ok.inj done
    have perm := (Order.perm_sort? found).map (·.1)
    rwa [same] at perm
  · cases done

theorem shows_of_there (there : ∀ id ∈ ids, ∃ r, records[id]? = some r) : ∃ rs, Shows records ids rs := by
  induction ids with
  | nil => exact ⟨[], rfl⟩
  | cons id ids ih =>
    obtain ⟨r, here⟩ := there id (List.mem_cons_self ..)
    obtain ⟨rs, shows⟩ := ih fun n listed => there n (List.mem_cons_of_mem _ listed)
    refine ⟨r :: rs, ?_⟩
    rw [Shows, List.map_cons, List.map_cons, here, shows]

-- What is published was requested under its name and with its type, and carries what was set for them.
theorem publish_stands {hostname : Json} {base : String} {name key value : Json} {type : RecordType}
    (once : current.Nodup) (left : listenerBase hostname = .ok base)
    (uniform : Plan.Uniform name type key value (Plan.emissions (plan p g hostname base).acts))
    (done : (publish g hostname p records (some current)).published = .ok ids) :
    ∃ rs, Shows (publish g hostname p records (some current)).records ids rs ∧ ∀ r ∈ rs,
      (∃ e ∈ Plan.emissions (plan p g hostname base).acts, e.request.name = r.name ∧ e.request.type = r.type) ∧
      (r.name = name → r.type = type → Entries.value? key r.attributes = some value) := by
  obtain ⟨start, opened⟩ := publish_opened done
  obtain ⟨named, none⟩ := Ledger.opening_named once opened
  obtain ⟨base', left', accepted, sound⟩ := publish_parts done
  cases Except.ok.inj (left'.symm.trans left)
  rcases ran : Plan.runActs start (plan p g hostname base).acts with ⟨l, _ | f, log⟩
  · have outcome : publish g hostname p records (some current) =
        ⟨l.records, orderedIds l.records l.emittedIds,
          log ++ [summaryLine l.emittedIds.length hostname p]⟩ := by
      simp [publish, left, accepted, opened, carryOut, Plan.run, ran, sound]
    have stands := Plan.runActs_stands uniform (fun _ listed => listed)
      ⟨named, by simp [Ledger.Carries, none], by simp [none]⟩ ran
    have there := stands.shown uniform
    rw [outcome] at done ⊢
    have perm := orderedIds_perm (fun id listed => (there id listed).imp fun _ facts => facts.1) done
    have listed : ∀ id ∈ ids, _ := fun id member => there id (perm.mem_iff.mp member)
    obtain ⟨rs, shows⟩ := shows_of_there fun id member => (listed id member).imp fun _ facts => facts.1
    refine ⟨rs, shows, fun r member => ?_⟩
    obtain ⟨_, _, _, facts⟩ := shows.forall_record listed r member
    exact facts
  · simp [publish, left, accepted, opened, carryOut, Plan.run, ran] at done

theorem geoName_ne_hostname {h base : String} (accepted : Hostname.refusal? true h = none)
    (left : listenerBase (.str h) = .ok base) (geo : Json) : geoName geo (balancerName base) ≠ h := by
  intro same
  obtain ⟨bare, written, lowered⟩ := LooseText.mapRuns_eq_plain.mp same
  have spelled : bare = geo.display.mended ++ "." ++ balancerName base := by
    simpa using (congrArg LooseText.mended written).symm
  rw [spelled] at lowered
  obtain ⟨base', left', rest, _⟩ := listenerBase_accepted accepted
  cases Except.ok.inj (left'.symm.trans left)
  have whole := Hostname.count_base accepted rest
  have upper := Text.count_lower (geo.display.mended ++ "." ++ balancerName base)
  have lower := Text.count_lower (balancerLabel ++ "." ++ base)
  have dot : ".".toList.count '.' = 1 := rfl
  rw [lowered] at upper
  rw [← balancerName] at lower
  simp only [String.toList_append, List.count_append] at upper lower
  omega

theorem geoActs_named {geo : Json} {balancer : String} {name : LooseText} :
    ∀ e ∈ Plan.emissions (geoActs p geo balancer name), e.request.name = .str balancer ∧
      ∀ m ∈ e.marks, m.1.IsText := by
  intro e member
  unfold geoActs at member
  simp only [Plan.emissions_emit, List.mem_cons] at member
  rcases member with rfl | fallback
  · refine ⟨rfl, fun m mark => ?_⟩
    dsimp only at mark
    split at mark
    · cases mark
    · rw [List.mem_singleton.mp mark]
      exact ⟨"geo-code", rfl⟩
  · split at fallback
    · rw [Plan.emissions_emit, Plan.emissions_nil, List.mem_singleton] at fallback
      rw [fallback]
      refine ⟨rfl, fun m mark => ?_⟩
      rw [List.mem_singleton.mp mark]
      exact ⟨"geo-code", rfl⟩
    · cases fallback

-- The emissions of a balanced plan at the name of the geography: one for each leaf, with the weight, and
-- the gateway's addresses where its own name is that name.
structure Weighed (p : Policy) (g : Gateway) (balancer : String) (name : LooseText) (weight : Json)
    (e : Emission) : Prop where
  text : e.request.name.IsText
  keys : ∀ m ∈ e.marks, m.1.IsText
  here : e.request.name = .str name →
    (e.request.type = .cname ∧ e.marks = [(.str "weight", .str weight.display)]) ∨
      (e.request.type = .a ∧ g.ips ≠ [] ∧ (clusterName p g balancer).map .plain = .ok name)

theorem balancedPlan_weighed {h base : String} (accepted : Hostname.refusal? true h = none)
    (left : listenerBase (.str h) = .ok base)
    (sound : (balancedPlan p g (.str h) base).fault = none) :
    ∃ geo, geoCode g.labels = .ok geo ∧
      ((g.addresses = [] ∧ Plan.emissions (balancedPlan p g (.str h) base).acts = []) ∨
        ∃ weight, (Weight.resolve p g.labels).1 = .ok weight ∧
          ∀ e ∈ Plan.emissions (balancedPlan p g (.str h) base).acts,
            Weighed p g (balancerName base) (geoName geo (balancerName base)) weight e) := by
  obtain ⟨geo, own, acts, located, made, none | ⟨_, weight, resolved, parts⟩⟩ := balancedPlan_parts sound
  · exact ⟨geo, located, .inl none⟩
  · refine ⟨geo, located, .inr ⟨weight, resolved, ?_⟩⟩
    -- Only leaves have the name of the region, and a cluster that is named alike.
    have apart := geoName_ne geo (balancerName base)
    have entry := geoName_ne_hostname accepted left geo
    rw [parts]
    intro e member
    simp only [List.mem_append] at member
    rcases member with ((cluster | leaf) | region) | last
    · rcases clusterActs_parts made with ⟨_, _, rfl⟩ | ⟨some, t, named, _, rfl⟩
      · cases cluster
      · rw [Plan.emissions_emit, Plan.emissions_nil, List.mem_singleton] at cluster
        rw [cluster]
        refine ⟨⟨t, rfl⟩, by simp, fun here => .inr ⟨rfl, some, ?_⟩⟩
        rw [named, ← Json.str.inj here]
        rfl
    · rw [weightActs_emissions] at leaf
      obtain ⟨t, _, rfl⟩ := List.mem_map.mp leaf
      exact ⟨⟨_, rfl⟩, by simp [Row.emission], fun _ => .inl ⟨rfl, rfl⟩⟩
    · obtain ⟨name, keys⟩ := geoActs_named e region
      refine ⟨⟨_, name⟩, keys, fun here => ?_⟩
      exact absurd (Json.str.inj (here.symm.trans name)) apart
    · rw [entryAct, Plan.emissions_emit, Plan.emissions_nil, List.mem_singleton] at last
      rw [last]
      refine ⟨⟨h, rfl⟩, by simp, fun here => ?_⟩
      exact absurd (Json.str.inj here).symm entry

-- A publication of a balanced policy, with its one weight.
theorem publish_weighed {h base : String} (balanced : p.isBalanced = true)
    (accepted : Hostname.refusal? true h = none) (once : current.Nodup)
    (left : listenerBase (.str h) = .ok base)
    (done : (publish g (.str h) p records (some current)).published = .ok ids) :
    ∃ geo rs, geoCode g.labels = .ok geo ∧
      Shows (publish g (.str h) p records (some current)).records ids rs ∧
      ((g.addresses = [] ∧ rs = []) ∨ ∃ weight, (Weight.resolve p g.labels).1 = .ok weight ∧
        ∀ r ∈ rs, r.name = .str (geoName geo (balancerName base)) →
          (r.type = .cname ∧
            Entries.value? (.str "weight") r.attributes = some (.str weight.display)) ∨
          (r.type = .a ∧ g.ips ≠ [] ∧
            (clusterName p g (balancerName base)).map .plain = .ok (geoName geo (balancerName base)))) := by
  obtain ⟨base', left', _, sound⟩ := publish_parts done
  cases Except.ok.inj (left'.symm.trans left)
  have planned : plan p g (.str h) base = balancedPlan p g (.str h) base := by
    rw [plan, if_neg (not_simple balanced), if_pos balanced]
  rw [planned] at sound
  obtain ⟨geo, located, ⟨none, empty⟩ | ⟨weight, resolved, each⟩⟩ :=
    balancedPlan_weighed accepted left sound
  · have uniform : Plan.Uniform .null .a .null .null (Plan.emissions (plan p g (.str h) base).acts) := by
      rw [planned, empty]
      exact ⟨by simp, by simp, by simp⟩
    obtain ⟨rs, shows, requested⟩ := publish_stands once left uniform done
    refine ⟨geo, rs, located, shows, .inl ⟨none, List.eq_nil_iff_forall_not_mem.mpr fun r member => ?_⟩⟩
    obtain ⟨⟨e, emitted, _⟩, _⟩ := requested r member
    rw [planned, empty] at emitted
    cases emitted
  · have retyped : RecordType.a ≠ RecordType.cname := by decide
    have uniform : Plan.Uniform (.str (geoName geo (balancerName base))) .cname (.str "weight")
        (.str weight.display) (Plan.emissions (plan p g (.str h) base).acts) := by
      rw [planned]
      refine ⟨fun e listed => (each e listed).text, fun e listed => (each e listed).keys, ?_⟩
      intro e listed name type
      rcases (each e listed).here name with ⟨_, marks⟩ | ⟨other, _⟩
      · exact marks
      · exact absurd (other.symm.trans type) retyped
    obtain ⟨rs, shows, requested⟩ := publish_stands once left uniform done
    refine ⟨geo, rs, located, shows, .inr ⟨weight, resolved, fun r member here => ?_⟩⟩
    obtain ⟨⟨e, emitted, name, type⟩, carried⟩ := requested r member
    rw [planned] at emitted
    rcases (each e emitted).here (name.trans here) with ⟨aliased, _⟩ | ⟨address, cluster⟩
    · exact .inl ⟨type.symm.trans aliased, carried here (type.symm.trans aliased)⟩
    · exact .inr ⟨type.symm.trans address, cluster⟩

end Synthesis
end DnsSteering
