import DnsSteering.Proofs.Synthesis.Plans
import Mathlib.Control.Monad.Basic

namespace DnsSteering

namespace Synthesis

-- A slot is due with a value under a key.
def Advertises (p : Policy) (g : Gateway) (hostname : LooseText) (base : String) (s : Slot)
    (key value : Json) : Prop :=
  ∃ row marks, Due p g hostname base row marks ∧ row.slot = s ∧ (key, value) ∈ marks

-- A record with what is due for its slot, and the rest of its origin.
structure Drawn (p : Policy) (g : Gateway) (hostname : LooseText) (base : String) (start : Ledger) (id : Nat)
    (r : Record) (origin : Record) : Prop where
  source : Plan.Origin start r.slot id origin
  labels : r.labels = origin.labels
  due : ∃ marks, Due p g hostname base r.row marks
  advertised : ∀ key value, Advertises p g hostname base r.slot key value →
    Entries.value? key r.attributes = some value
  inherited : ∀ key, (∀ value, ¬ Advertises p g hostname base r.slot key value) →
    Entries.value? key r.attributes = Entries.value? key origin.attributes

-- One record for every slot that is due. Of what was published before, only labels and attributes that
-- are not due come back.
structure Delivered (p : Policy) (g : Gateway) (hostname : LooseText) (base : String) (start : Ledger)
    (records : List Record) (ids : List Nat) (rs : List Record) : Prop where
  shows : Shows records ids rs
  ordered : rs.Pairwise fun r s => r.rank < s.rank
  once : ids.Nodup
  rows : ∀ row, (∃ r ∈ rs, r.row = row) ↔ ∃ marks, Due p g hostname base row marks
  drawn : ∀ id ∈ ids, ∃ r, records[id]? = some r ∧
    ∃ origin, Drawn p g hostname base start id r origin
  kept : ∀ n < start.records.length, n ∉ ids → records[n]? = start.records[n]?

section Delivery

variable {p : Policy} {g : Gateway} {hostname : LooseText} {base : String} {start : Ledger}
  {records rs : List Record} {current ids : List Nat} {es : List Emission}

theorem marks_iff (emits : EmitsDue p g hostname base es) {s : Slot} {key value : Json} :
    Emission.Marks es s key value ↔ Advertises p g hostname base s key value := by
  constructor
  · intro marked
    obtain ⟨e, member, slot, mark⟩ := marked
    obtain ⟨row, marks, due, rfl⟩ := (emits e).mp member
    exact ⟨row, marks, due, slot, mark⟩
  · intro advertised
    obtain ⟨row, marks, due, slot, mark⟩ := advertised
    exact ⟨row.emission marks, (emits _).mpr ⟨row, marks, due, rfl⟩, slot, mark⟩

theorem advertises_unique {s : Slot} {key value value' : Json}
    (one : Advertises p g hostname base s key value)
    (two : Advertises p g hostname base s key value') : value = value' := by
  obtain ⟨row, marks, due, slot, mark⟩ := one
  obtain ⟨row', marks', due', slot', mark'⟩ := two
  exact due.mark_unique due' (slot.trans slot'.symm) mark mark'

theorem imprinted_drawn (labels : TextLabels g.labels) (emits : EmitsDue p g hostname base es)
    {s : Slot} {id : Nat} {origin : Record} (requested : ∃ e ∈ es, e.slot = s)
    (source : Plan.Origin start s id origin) :
    (Emission.imprintAll s es origin).slot = s ∧
      Drawn p g hostname base start id (Emission.imprintAll s es origin) origin := by
  have fit : ∀ e ∈ es, e.Fit := by
    intro e member
    obtain ⟨row, marks, due, rfl⟩ := (emits e).mp member
    exact due.fit labels
  have printed := Emission.imprintAll_imprinted s es origin
  obtain ⟨e, member, here, type, targets, ttl⟩ := printed.renewed requested
  obtain ⟨row, marks, due, rfl⟩ := (emits e).mp member
  have alike := source.alike
  have slot : (Emission.imprintAll s es origin).slot = s :=
    Slot.Alike.eq_of_type ⟨printed.name.trans alike.1, printed.identifier.trans alike.2⟩ type
  have shown : (Emission.imprintAll s es origin).row = row := by
    rw [Record.row, slot, targets, ttl, ← here]
    rfl
  refine ⟨slot, by rw [slot]; exact source, printed.labels, ⟨marks, by rw [shown]; exact due⟩, ?_, ?_⟩
  · intro key value advertised
    rw [slot] at advertised
    rcases Emission.value?_imprintAll fit s key origin with ⟨v, mark, got⟩ | ⟨none, _⟩
    · rw [got, advertises_unique ((marks_iff emits).mp mark) advertised]
    · exact absurd ((marks_iff emits).mpr advertised) (none value)
  · intro key silent
    rw [slot] at silent
    rcases Emission.value?_imprintAll fit s key origin with ⟨v, mark, _⟩ | ⟨_, got⟩
    · exact absurd ((marks_iff emits).mp mark) (silent v)
    · exact got

theorem completed_delivered (labels : TextLabels g.labels)
    (left : listenerBase (.str hostname) = .ok base) (emits : EmitsDue p g hostname base es)
    (completed : Completed start es records ids rs) :
    Delivered p g hostname base start records ids rs := by
  have drawn : ∀ id ∈ ids, ∃ r, records[id]? = some r ∧
      ∃ origin, Drawn p g hostname base start id r origin := by
    intro id member
    obtain ⟨s, origin, requested, source, there⟩ := completed.drawn id member
    exact ⟨_, there, origin, (imprinted_drawn labels emits requested source).2⟩
  have dueRow : ∀ r ∈ rs, ∃ marks, Due p g hostname base r.row marks := by
    intro r member
    obtain ⟨id, _, _, origin, facts⟩ := completed.shows.forall_record drawn r member
    exact facts.due
  have text : ∀ r ∈ rs, r.IsText := by
    intro r member
    obtain ⟨marks, due⟩ := dueRow r member
    exact due.slot_text labels
  have type : ∀ r ∈ rs, r.slot.type = .a ∨ r.slot.type = .cname := by
    intro r member
    obtain ⟨marks, due⟩ := dueRow r member
    exact due.type
  refine ⟨completed.shows, ?_, completed.once, ?_, drawn, completed.kept⟩
  · have apart := List.pairwise_map.mp completed.apart
    refine (completed.ordered.and apart).imp_of_mem ?_
    intro r s one two both
    obtain ⟨ordered, distinct⟩ := both
    -- Records of one rank would have one slot.
    refine lt_of_le_of_ne ordered fun same => distinct ?_
    exact Slot.rank_injective (text r one) (text s two) (type r one) (type s two) same
  · intro row
    constructor
    · intro published
      obtain ⟨r, member, rfl⟩ := published
      exact dueRow r member
    · intro wanted
      obtain ⟨marks, due⟩ := wanted
      have emitted : row.emission marks ∈ es := (emits _).mpr ⟨row, marks, due, rfl⟩
      obtain ⟨r, member, slot⟩ := List.mem_map.mp
        ((completed.slots row.slot).mpr ⟨_, emitted, rfl⟩)
      -- A slot is due with one row only.
      obtain ⟨marks', due'⟩ := dueRow r member
      exact ⟨r, member, due'.unique labels left due slot⟩

theorem publish_delivered (labels : TextLabels g.labels) (text : AllText records current)
    (left : listenerBase (.str hostname) = .ok base) (accepted : p.refusal? = none)
    (sound : (plan p g (.str hostname) base).fault = none) :
    ∃ start ids rs, start.records = records ∧ (∀ h ∈ start.pending, h.2 ∈ current) ∧
      (publish g (.str hostname) p records (some current)).published = .ok ids ∧
      Delivered p g hostname base start
        (publish g (.str hostname) p records (some current)).records ids rs := by
  obtain ⟨start, ids, rs, _, same, waiting, done, completed⟩ :=
    publish_completed text left accepted sound (plan_fit labels sound)
  exact ⟨start, ids, rs, same, waiting, done,
    completed_delivered labels left (plan_emissions labels sound) completed⟩

-- The numbers of a publication stand for what is due, whatever was current.
theorem published_delivered (labels : TextLabels g.labels) (text : AllText records current)
    (done : (publish g (.str hostname) p records (some current)).published = .ok ids) :
    ∃ base start rs, listenerBase (.str hostname) = .ok base ∧ start.records = records ∧
      (∀ h ∈ start.pending, h.2 ∈ current) ∧ Delivered p g hostname base start
        (publish g (.str hostname) p records (some current)).records ids rs := by
  obtain ⟨base, left, accepted, sound⟩ := publish_parts done
  obtain ⟨start, ids', rs, same, waiting, done', delivered⟩ :=
    publish_delivered labels text left accepted sound
  have equal : ids' = ids := Except.ok.inj (done'.symm.trans done)
  rw [equal] at delivered
  exact ⟨base, start, rs, left, same, waiting, delivered⟩

-- The records of a publication, said in full. The rows are those that are due and no others, and the
-- addresses in them are in order and complete.
structure Exact (p : Policy) (g : Gateway) (hostname : LooseText) (base : String) (rs : List Record) :
    Prop where
  ordered : rs.Pairwise fun r s => r.rank < s.rank
  rows : ∀ row, (∃ r ∈ rs, r.row = row) ↔ ∃ marks, Due p g hostname base row marks
  marks : ∀ r ∈ rs, ∀ marks, Due p g hostname base r.row marks → ∀ key value, (key, value) ∈ marks →
    Entries.value? key r.attributes = some value
  ips : g.ips.Pairwise (· < ·) ∧ ∀ s, s ∈ g.ips ↔ ∃ a ∈ g.addresses, a.isIp = true ∧ a.value = s
  hostnames : g.hostnames.Pairwise (· < ·) ∧
    ∀ s, s ∈ g.hostnames ↔ ∃ a ∈ g.addresses, a.isIp = false ∧ a.value = s

theorem publish_exact (labels : TextLabels g.labels) (text : AllText records current)
    (done : (publish g (.str hostname) p records (some current)).published = .ok ids) :
    ∃ base rs, listenerBase (.str hostname) = .ok base ∧
      Shows (publish g (.str hostname) p records (some current)).records ids rs ∧
      Exact p g hostname base rs := by
  obtain ⟨base, start, rs, left, _, _, delivered⟩ := published_delivered labels text done
  refine ⟨base, rs, left, delivered.shows, delivered.ordered, delivered.rows, ?_,
    ⟨g.ips_ascending, fun _ => Gateway.mem_ips⟩,
    ⟨g.hostnames_ascending, fun _ => Gateway.mem_hostnames⟩⟩
  intro r member marks due key value mark
  obtain ⟨id, _, _, origin, drawn⟩ := delivered.shows.forall_record delivered.drawn r member
  exact drawn.advertised key value ⟨_, marks, due, rfl, mark⟩

end Delivery

-- A gateway in Ireland with an address of each kind, a policy that falls back to Ireland, and a record
-- of another type where the balancer is to send its Irish traffic.
def edge : Address := ⟨.hostname, "edge.x", by decide⟩

def first : Address := ⟨.ip, "192.0.2.1", by decide +kernel⟩

def ireland : Gateway :=
  ⟨.str "gw", .str "ns", .obj [(geoLabel, .str "IE")], [edge, first]⟩

def spread : Policy :=
  { strategy := .str Policy.balancedStrategy, defaultGeo := .str "IE", defaultWeight := .int 120
    clusterId := .str "c1" }

-- Half of a pair, for texts in which it stands alone.
def lone : Surrogate := ⟨0, by decide⟩

def misplaced : List Record :=
  [⟨.str "klb.x", .a, [.str "192.0.2.9"], .int 60, .str "IE", [(.str "id", .str "hc")], []⟩]

theorem ireland_labels : TextLabels ireland.labels := ⟨_, rfl, by simp⟩

theorem misplaced_text : AllText misplaced [0] := by
  apply allText_of
  simp [misplaced, Record.slot, Slot.isText_iff]

theorem ireland_published :
    (publish ireland (.str "*.x") spread misplaced (some [0])).published = .ok [5, 1, 3, 2, 0, 4] := by
  decide +kernel

theorem ireland_exact : TextLabels ireland.labels ∧ AllText misplaced [0] ∧
    (publish ireland (.str "*.x") spread misplaced (some [0])).published = .ok [5, 1, 3, 2, 0, 4] ∧
    ∃ base rs, listenerBase (.str "*.x") = .ok base ∧
      Shows (publish ireland (.str "*.x") spread misplaced (some [0])).records [5, 1, 3, 2, 0, 4] rs ∧
      Exact spread ireland "*.x" base rs :=
  ⟨ireland_labels, misplaced_text, ireland_published,
    publish_exact ireland_labels misplaced_text ireland_published⟩

end Synthesis
end DnsSteering
