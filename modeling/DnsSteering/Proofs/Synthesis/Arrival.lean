import DnsSteering.Proofs.Resolution
import DnsSteering.Proofs.Synthesis.Delivery

namespace DnsSteering

namespace Synthesis
open Resolution

section Arrival

variable {p : Policy} {g : Gateway} {hostname : LooseText} {base : String} {start : Ledger}
  {records rs : List Record} {current ids : List Nat} {row : Row} {marks : List (Json × Json)}

theorem Delivered.record (delivered : Delivered p g hostname base start records ids rs)
    (due : Due p g hostname base row marks) :
    ∃ r ∈ rs, r.slot = row.slot ∧ r.targets = row.targets := by
  obtain ⟨r, member, here⟩ := (delivered.rows row).mpr ⟨marks, due⟩
  exact ⟨r, member, congrArg Row.slot here, congrArg Row.targets here⟩

theorem Delivered.plain (labels : TextLabels g.labels)
    (delivered : Delivered p g hostname base start records ids rs) : ∀ r ∈ rs, r.Plain := by
  intro r member
  obtain ⟨marks, due⟩ := (delivered.rows r.row).mp ⟨r, member, rfl⟩
  exact ⟨(due.slot_text labels).name, due.targets_text⟩

-- One step of resolution, along a row of aliases.
theorem Delivered.step (labels : TextLabels g.labels)
    (delivered : Delivered p g hostname base start records ids rs)
    (due : Due p g hostname base row marks) (aliased : row.slot.type = .cname) {host t : Json}
    (reached : Reaches rs host row.slot.name) (target : t ∈ row.targets) : Reaches rs host t := by
  obtain ⟨r, member, slot, targets⟩ := delivered.record due
  have named : r ∈ ofName rs row.slot.name :=
    (mem_ofName (due.slot_text labels).name).mpr ⟨member, congrArg Slot.name slot⟩
  refine .step reached (mem_aliases.mpr ⟨r, named, ?_, ?_⟩)
  · exact (congrArg Slot.type slot).trans aliased
  · rw [targets]
    exact target

section Balanced

variable {geo weight : Json} (labels : TextLabels g.labels)
  (delivered : Delivered p g hostname base start records ids rs) (balanced : p.isBalanced = true)
  (addressed : g.addresses ≠ []) (surveyed : Surveyed p g base geo weight)

include labels delivered balanced addressed

theorem reaches_balancer : Reaches rs (.str hostname) (.str (balancerName base)) :=
  delivered.step labels (.entry balanced addressed) rfl .host (List.mem_singleton.mpr rfl)

include surveyed

theorem reaches_geo : Reaches rs (.str hostname) (.str (geoName geo (balancerName base))) :=
  delivered.step labels (.region balanced addressed surveyed.located) rfl
    (reaches_balancer labels delivered balanced addressed) (List.mem_singleton.mpr rfl)

theorem reaches_leaf {t : String} (leaf : Leaf p g (balancerName base) t) :
    Reaches rs (.str hostname) (.str t) :=
  delivered.step labels (.leaf balanced surveyed.located surveyed.weighed leaf) rfl
    (reaches_geo labels delivered balanced addressed surveyed) (List.mem_singleton.mpr rfl)

end Balanced

variable (labels : TextLabels g.labels)
  (delivered : Delivered p g hostname base start records ids rs) (addressed : g.addresses ≠ [])
  (sound : (plan p g (.str hostname) base).fault = none)

include addressed sound

theorem due_hostname : ∃ row marks, Due p g hostname base row marks ∧ row.slot.name = .str hostname := by
  cases plan_strategy sound with
  | inl simple =>
    by_cases noIps : g.ips = []
    · have someHostnames : g.hostnames ≠ [] := fun noHostnames =>
        addressed (Gateway.addresses_none.mpr ⟨noIps, noHostnames⟩)
      exact ⟨_, _, .aliases simple someHostnames, rfl⟩
    · exact ⟨_, _, .addresses simple noIps, rfl⟩
  | inr balanced => exact ⟨_, _, .entry balanced addressed, rfl⟩

-- Where an address stands among the targets that are due.
theorem due_address {a : Address} (member : a ∈ g.addresses) :
    ∃ row marks, Due p g hostname base row marks ∧ .str a.value ∈ row.targets ∧
      (a.isIp = true → row.slot.type = .a) := by
  by_cases ip : a.isIp = true
  · have listed : a.value ∈ g.ips := Gateway.mem_ips.mpr ⟨a, member, ip, rfl⟩
    have someIps : g.ips ≠ [] := List.ne_nil_of_mem listed
    cases plan_strategy sound with
    | inl simple => exact ⟨_, _, .addresses simple someIps, List.mem_map_of_mem listed, fun _ => rfl⟩
    | inr balanced =>
      obtain ⟨geo, weight, surveyed⟩ := plan_surveyed balanced addressed sound
      obtain ⟨t, named⟩ := surveyed.cluster someIps
      exact ⟨_, _, .cluster balanced someIps named, List.mem_map_of_mem listed, fun _ => rfl⟩
  · have listed : a.value ∈ g.hostnames := Gateway.mem_hostnames.mpr ⟨a, member, by simpa using ip, rfl⟩
    cases plan_strategy sound with
    | inl simple =>
      exact ⟨_, _, .aliases simple (List.ne_nil_of_mem listed), List.mem_map_of_mem listed,
        fun isIp => absurd isIp ip⟩
    | inr balanced =>
      obtain ⟨geo, weight, surveyed⟩ := plan_surveyed balanced addressed sound
      exact ⟨_, _, .leaf balanced surveyed.located surveyed.weighed (.hostname listed),
        List.mem_singleton.mpr rfl, fun isIp => absurd isIp ip⟩

-- A target that is due is an address, or else an alias to a name that is due.
theorem due_target (due : Due p g hostname base row marks) {v : Json} (target : v ∈ row.targets) :
    (∃ a ∈ g.addresses, v = .str a.value ∧ (a.isIp = true ↔ row.slot.type = .a)) ∨
      (row.slot.type = .cname ∧ ∃ row' marks', Due p g hostname base row' marks' ∧
        row'.slot.name = v) := by
  have ofIp : v ∈ (g.ips.map fun (s : String) => Json.str s) →
      ∃ a ∈ g.addresses, v = .str a.value ∧ a.isIp = true := by
    intro member
    obtain ⟨s, listed, rfl⟩ := List.mem_map.mp member
    obtain ⟨a, held, ip, rfl⟩ := Gateway.mem_ips.mp listed
    exact ⟨a, held, rfl, ip⟩
  have ofHostname : ∀ {s : String}, s ∈ g.hostnames → ∃ a ∈ g.addresses, Json.str s = .str a.value ∧
      (a.isIp = true ↔ RecordType.cname = RecordType.a) := by
    intro s listed
    obtain ⟨a, held, notIp, rfl⟩ := Gateway.mem_hostnames.mp listed
    have retyped : RecordType.cname ≠ RecordType.a := by decide
    exact ⟨a, held, rfl, by simp [notIp, retyped]⟩
  cases due with
  | addresses | cluster =>
    obtain ⟨a, held, equal, ip⟩ := ofIp target
    exact .inl ⟨a, held, equal, fun _ => rfl, fun _ => ip⟩
  | aliases =>
    obtain ⟨s, listed, rfl⟩ := List.mem_map.mp target
    exact .inl (ofHostname listed)
  | leaf balanced located weighed leaf =>
    obtain rfl := List.mem_singleton.mp target
    cases leaf with
    | hostname listed => exact .inl (ofHostname listed)
    | cluster someIps named => exact .inr ⟨rfl, _, _, .cluster balanced someIps named, rfl⟩
  | region balanced _ located | fallback balanced _ located _ =>
    obtain rfl := List.mem_singleton.mp target
    obtain ⟨geo, weight, surveyed⟩ := plan_surveyed balanced addressed sound
    obtain ⟨t, leaf⟩ := surveyed.leaf
    exact .inr ⟨rfl, _, _, .leaf balanced located surveyed.weighed leaf, rfl⟩
  | entry balanced =>
    obtain rfl := List.mem_singleton.mp target
    obtain ⟨geo, weight, surveyed⟩ := plan_surveyed balanced addressed sound
    exact .inr ⟨rfl, _, _, .region balanced addressed surveyed.located, rfl⟩

include labels delivered

theorem delivered_reached : ∀ r ∈ rs, Reaches rs (.str hostname) r.name := by
  intro r member
  obtain ⟨marks, due⟩ := (delivered.rows r.row).mp ⟨r, member, rfl⟩
  have reached : ∀ {row marks}, Due p g hostname base row marks →
      Reaches rs (.str hostname) row.slot.name := by
    intro row marks due
    cases due with
    | addresses | aliases | entry => exact .host
    | cluster balanced someIps named =>
      obtain ⟨geo, weight, surveyed⟩ := plan_surveyed balanced addressed sound
      exact reaches_leaf labels delivered balanced addressed surveyed (.cluster someIps named)
    | leaf balanced located =>
      obtain ⟨geo, weight, surveyed⟩ := plan_surveyed balanced addressed sound
      cases Except.ok.inj (located.symm.trans surveyed.located)
      exact reaches_geo labels delivered balanced addressed surveyed
    | region balanced | fallback balanced => exact reaches_balancer labels delivered balanced addressed
  exact reached due

theorem delivered_found : ∃ found, finalValues rs (.str hostname) = .ok found ∧ found.Nodup ∧
    ∀ v, v ∈ found ↔ ∃ a ∈ g.addresses, v = .str a.value ∧
      (a.isIp = true ∨ ∀ r ∈ rs, r.name ≠ .str a.value) := by
  have rooted : ∃ r ∈ rs, r.name = .str hostname := by
    obtain ⟨row, marks, due, named⟩ := due_hostname addressed sound
    obtain ⟨r, member, slot, _⟩ := delivered.record due
    exact ⟨r, member, (congrArg Slot.name slot).trans named⟩
  obtain ⟨found, done, once, facts⟩ := finalValues_connected (delivered.plain labels) ⟨_, rfl⟩ rooted
    (delivered_reached labels delivered addressed sound)
  refine ⟨found, done, once, fun v => (facts v).trans ?_⟩
  constructor
  · intro held
    obtain ⟨r, member, target, unnamed⟩ := held
    obtain ⟨marks, due⟩ := (delivered.rows r.row).mp ⟨r, member, rfl⟩
    cases due_target addressed sound due target with
    | inl address =>
      obtain ⟨a, listed, equal, kind⟩ := address
      refine ⟨a, listed, equal, ?_⟩
      rcases due.type with isAddress | aliased
      · exact .inl (kind.mpr isAddress)
      · exact .inr (equal ▸ unnamed aliased)
    | inr onward =>
      obtain ⟨aliased, row, marks, next, named⟩ := onward
      obtain ⟨s, there, slot, _⟩ := delivered.record next
      -- An alias to a name that is due is no end, for there is a record of the name.
      exact absurd ((congrArg Slot.name slot).trans named) (unnamed aliased s there)
  · intro address
    obtain ⟨a, listed, equal, kind⟩ := address
    obtain ⟨row, marks, due, target, typed⟩ := due_address addressed sound listed
    obtain ⟨r, member, slot, targets⟩ := delivered.record due
    refine ⟨r, member, by rw [targets, equal]; exact target, ?_⟩
    intro aliased
    cases kind with
    | inl ip =>
      have type : RecordType.cname = .a := by
        rw [← aliased, ← typed ip]
        exact congrArg Slot.type slot
      exact absurd type (by decide)
    | inr unnamed => exact equal ▸ unnamed

end Arrival

-- A hostname address that is the name of a published record leads on to what that record holds, and so
-- does not count as an end.
theorem publish_leads {g : Gateway} {hostname : LooseText} {p : Policy} {records : List Record}
    {current ids : List Nat} (labels : TextLabels g.labels) (text : AllText records current)
    (addressed : g.addresses ≠ [])
    (done : (publish g (.str hostname) p records (some current)).published = .ok ids) :
    ∃ rs found, Shows (publish g (.str hostname) p records (some current)).records ids rs ∧
      finalValues rs (.str hostname) = .ok found ∧ found.Nodup ∧
      (∀ v, v ∈ found ↔ ∃ a ∈ g.addresses, v = .str a.value ∧
        (a.isIp = true ∨ ∀ r ∈ rs, r.name ≠ .str a.value)) ∧
      ((∀ a ∈ g.addresses, a.isIp = false → ∀ r ∈ rs, r.name ≠ .str a.value) →
        ∀ v, v ∈ found ↔ ∃ a ∈ g.addresses, v = .str a.value) := by
  obtain ⟨base, left, accepted, sound⟩ := publish_parts done
  obtain ⟨start, ids', rs, _, _, done', delivered⟩ := publish_delivered labels text left accepted sound
  cases Except.ok.inj (done'.symm.trans done)
  obtain ⟨found, ended, once, facts⟩ := delivered_found labels delivered addressed sound
  refine ⟨rs, found, delivered.shows, ended, once, facts, ?_⟩
  intro apart v
  rw [facts v]
  constructor
  · intro address
    obtain ⟨a, listed, equal, _⟩ := address
    exact ⟨a, listed, equal⟩
  · intro address
    obtain ⟨a, listed, equal⟩ := address
    refine ⟨a, listed, equal, ?_⟩
    by_cases ip : a.isIp = true
    · exact .inl ip
    · exact .inr (apart a listed (by simpa using ip))

theorem ireland_leads : TextLabels ireland.labels ∧ AllText misplaced [0] ∧ ireland.addresses ≠ [] ∧
    (publish ireland (.str "*.x") spread misplaced (some [0])).published = .ok [5, 1, 3, 2, 0, 4] ∧
    ∃ rs found, Shows (publish ireland (.str "*.x") spread misplaced (some [0])).records
        [5, 1, 3, 2, 0, 4] rs ∧
      finalValues rs (.str "*.x") = .ok found ∧ found.Nodup ∧
      (∀ v, v ∈ found ↔ ∃ a ∈ ireland.addresses, v = .str a.value ∧
        (a.isIp = true ∨ ∀ r ∈ rs, r.name ≠ .str a.value)) ∧
      ((∀ a ∈ ireland.addresses, a.isIp = false → ∀ r ∈ rs, r.name ≠ .str a.value) →
        ∀ v, v ∈ found ↔ ∃ a ∈ ireland.addresses, v = .str a.value) := by
  have addressed : ireland.addresses ≠ [] := List.cons_ne_nil _ _
  exact ⟨ireland_labels, misplaced_text, addressed, ireland_published,
    publish_leads ireland_labels misplaced_text addressed ireland_published⟩

end Synthesis
end DnsSteering
