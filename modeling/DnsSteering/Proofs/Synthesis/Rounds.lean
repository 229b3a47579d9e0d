import DnsSteering.Proofs.Synthesis.Delivery
import Mathlib.Data.List.Sort

namespace DnsSteering

-- Records that are exchanged as the same. Attributes and labels are mappings, so order is nothing.
structure Record.Agrees (r s : Record) : Prop where
  row : r.row = s.row
  attributes : ∀ key, Entries.value? key r.attributes = Entries.value? key s.attributes
  labels : ∀ key, Entries.value? key r.labels = Entries.value? key s.labels

namespace Synthesis

structure Round where
  gateway : Gateway
  hostname : LooseText
  policy : Policy

namespace Round

def run (r : Round) (records : List Record) (current : List Nat) : Outcome :=
  publish r.gateway (.str r.hostname) r.policy records (some current)

-- What the round advertises for a slot.
def Sets (r : Round) (s : Slot) (key : Json) : Prop :=
  ∃ base value, listenerBase (.str r.hostname) = .ok base ∧
    Advertises r.policy r.gateway r.hostname base s key value

-- All that a record carried before the round is set again by the round.
def Replaces (r : Round) (records : List Record) (current : List Nat) (id : Nat) : Prop :=
  ∀ old new, records[id]? = some old → (r.run records current).records[id]? = some new →
    ∀ key, Entries.value? key old.attributes ≠ none → r.Sets new.slot key

end Round

-- All records there are, and the numbers of those that the last round has published.
inductive Regenerated : List Record → List Nat → Prop where
  | nothing : Regenerated [] []
  | round {records : List Record} {current ids : List Nat} (before : Regenerated records current)
      (r : Round) (labels : TextLabels r.gateway.labels)
      (done : (r.run records current).published = .ok ids) :
      Regenerated (r.run records current).records ids

-- Records that rounds have published have texts for names and identifiers, and no labels.
structure Unlabelled (records : List Record) (ids : List Nat) : Prop where
  text : AllText records ids
  labels : ∀ id ∈ ids, ∀ r, records[id]? = some r → r.labels = []

section Drawn

variable {p : Policy} {g : Gateway} {hostname : LooseText} {base : String} {start : Ledger} {id : Nat}
  {r origin : Record}

-- A record is as new if nothing is left of its origin under a key that is not advertised.
def Clean (p : Policy) (g : Gateway) (hostname : LooseText) (base : String) (r : Record) : Prop :=
  ∀ key, (∀ value, ¬ Advertises p g hostname base r.slot key value) →
    Entries.value? key r.attributes = none

theorem clean_agree {s origin' : Record} {other : Ledger} {id' : Nat}
    (one : Drawn p g hostname base start id r origin)
    (two : Drawn p g hostname base other id' s origin') (same : r.row = s.row)
    (fresh : Clean p g hostname base s) :
    (∀ key, Entries.value? key r.attributes = Entries.value? key s.attributes) ↔
      Clean p g hostname base r := by
  have slots : r.slot = s.slot := congrArg Row.slot same
  constructor
  · intro equal key silent
    rw [equal key]
    exact fresh key (slots ▸ silent)
  · intro clean key
    by_cases advertised : ∃ value, Advertises p g hostname base r.slot key value
    · obtain ⟨value, here⟩ := advertised
      rw [one.advertised key value here, two.advertised key value (slots ▸ here)]
    · have silent : ∀ value, ¬ Advertises p g hostname base r.slot key value :=
        fun value here => advertised ⟨value, here⟩
      rw [clean key silent, fresh key (slots ▸ silent)]

-- With nothing current every record is made anew.
theorem drawn_fresh (none : ∀ h ∈ start.pending, h.2 ∈ ([] : List Nat))
    (drawn : Drawn p g hostname base start id r origin) :
    r.labels = [] ∧ Clean p g hostname base r := by
  have blank : origin = r.slot.blank := by
    cases drawn.source with
    | waiting t held => cases none _ held
    | blank _ empty => exact empty
  refine ⟨by rw [drawn.labels, blank]; rfl, ?_⟩
  intro key silent
  rw [drawn.inherited key silent, blank]
  rfl

end Drawn

theorem delivered_unlabelled {p : Policy} {g : Gateway} {hostname : LooseText} {base : String} {start : Ledger}
    {records rs : List Record} {current ids : List Nat} (labels : TextLabels g.labels)
    (before : Unlabelled start.records current) (waiting : ∀ h ∈ start.pending, h.2 ∈ current)
    (delivered : Delivered p g hostname base start records ids rs) : Unlabelled records ids := by
  have facts : ∀ id ∈ ids, ∀ r, records[id]? = some r → r.IsText ∧ r.labels = [] := by
    intro id member r there
    obtain ⟨r', there', origin, drawn⟩ := delivered.drawn id member
    cases Option.some.inj (there'.symm.trans there)
    obtain ⟨marks, due⟩ := drawn.due
    refine ⟨due.slot_text labels, ?_⟩
    rw [drawn.labels]
    cases drawn.source with
    | waiting t held old => exact before.labels id (waiting _ held) origin old
    | blank _ empty => rw [empty]; rfl
  exact ⟨fun id member r there => (facts id member r there).1,
    fun id member r there => (facts id member r there).2⟩

theorem regenerated_unlabelled {records : List Record} {ids : List Nat}
    (history : Regenerated records ids) : Unlabelled records ids := by
  induction history with
  | nothing =>
    refine ⟨?_, ?_⟩
    · intro id member
      cases member
    · intro id member
      cases member
  | round before r labels done ih =>
    obtain ⟨base, start, rs, _, same, waiting, delivered⟩ := published_delivered labels ih.text done
    exact delivered_unlabelled labels (same ▸ ih) waiting delivered

-- Records in order are in the only order of their rows.
theorem ordered_rows {rs ss : List Record} (one : rs.Pairwise fun r s => r.rank < s.rank)
    (two : ss.Pairwise fun r s => r.rank < s.rank)
    (same : ∀ row, (∃ r ∈ rs, r.row = row) ↔ ∃ s ∈ ss, s.row = row) :
    rs.map Record.row = ss.map Record.row := by
  let before : Row → Row → Prop := fun a b => a.slot.rank < b.slot.rank
  have irreflexive : Std.Irrefl before := ⟨fun a => lt_irrefl a.slot.rank⟩
  have antisymmetric : Std.Antisymm before := ⟨fun a b less more => absurd more (lt_asymm less)⟩
  have first : (rs.map Record.row).Pairwise before := List.pairwise_map.mpr one
  have second : (ss.map Record.row).Pairwise before := List.pairwise_map.mpr two
  refine first.eq_of_mem_iff second fun row => ?_
  rw [List.mem_map, List.mem_map]
  exact same row

theorem delivered_rows {p : Policy} {g : Gateway} {hostname : LooseText} {base : String} {start other : Ledger}
    {records records' rs ss : List Record} {ids ids' : List Nat}
    (one : Delivered p g hostname base start records ids rs)
    (two : Delivered p g hostname base other records' ids' ss) :
    rs.map Record.row = ss.map Record.row :=
  ordered_rows one.ordered two.ordered fun row => (one.rows row).trans (two.rows row).symm

section Last

variable {r : Round} {base : String} {records : List Record} {current ids : List Nat}

theorem sets_iff (left : listenerBase (.str r.hostname) = .ok base) {s : Slot} {key : Json} :
    r.Sets s key ↔ ∃ value, Advertises r.policy r.gateway r.hostname base s key value := by
  constructor
  · intro sets
    obtain ⟨other, value, left', here⟩ := sets
    cases Except.ok.inj (left.symm.trans left')
    exact ⟨value, here⟩
  · intro advertised
    obtain ⟨value, here⟩ := advertised
    exact ⟨base, value, left, here⟩

theorem replaces_iff {start : Ledger} {id : Nat} {new origin : Record}
    (left : listenerBase (.str r.hostname) = .ok base) (same : start.records = records)
    (there : (r.run records current).records[id]? = some new)
    (drawn : Drawn r.policy r.gateway r.hostname base start id new origin) :
    r.Replaces records current id ↔ Clean r.policy r.gateway r.hostname base new := by
  constructor
  · intro replaces key silent
    rw [drawn.inherited key silent]
    cases drawn.source with
    | waiting t held old =>
      rw [same] at old
      apply Classical.byContradiction
      intro carried
      obtain ⟨value, here⟩ := (sets_iff left).mp (replaces origin new old there key carried)
      exact silent value here
    | blank _ empty => rw [empty]; rfl
  · intro clean old new' was is key carried
    cases Option.some.inj (there.symm.trans is)
    apply Classical.byContradiction
    intro unset
    have silent : ∀ value, ¬ Advertises r.policy r.gateway r.hostname base new.slot key value :=
      fun value here => unset ((sets_iff left).mpr ⟨value, here⟩)
    have nothing := clean key silent
    rw [drawn.inherited key silent] at nothing
    cases drawn.source with
    | waiting t held old' =>
      rw [same] at old'
      cases Option.some.inj (old'.symm.trans was)
      exact carried nothing
    | blank fresh _ =>
      have bound : id < records.length := (List.getElem?_eq_some_iff.mp was).1
      rw [same] at fresh
      omega

-- Records of one row are compared through what they were drawn from.
theorem delivered_pair {start empty : Ledger} {after scratch rs ss : List Record} {fresh : List Nat}
    (later : Unlabelled after ids) (unheld : ∀ h ∈ empty.pending, h.2 ∈ ([] : List Nat))
    (one : Delivered r.policy r.gateway r.hostname base start after ids rs)
    (two : Delivered r.policy r.gateway r.hostname base empty scratch fresh ss) :
    ∀ a ∈ rs, ∀ b ∈ ss, a.row = b.row → a.labels = b.labels ∧
      (a.Agrees b ↔ Clean r.policy r.gateway r.hostname base a) := by
  intro a member b other row
  obtain ⟨id, listed, there, origin, drawn⟩ := one.shows.forall_record one.drawn a member
  obtain ⟨_, _, _, origin', drawn'⟩ := two.shows.forall_record two.drawn b other
  obtain ⟨unlabelled, clean⟩ := drawn_fresh unheld drawn'
  have equal : a.labels = b.labels := (later.labels id listed a there).trans unlabelled.symm
  have attributes := clean_agree drawn drawn' row clean
  refine ⟨equal, ?_, ?_⟩
  · intro agrees
    exact attributes.mp agrees.attributes
  · intro renewed
    exact ⟨row, attributes.mpr renewed, fun key => by rw [equal]⟩

-- Against a publication with nothing before it, a regeneration can differ in attributes only, and does
-- so exactly if a record it publishes again carried one that the round does not set.
theorem regenerate_agrees (history : Regenerated records current)
    (labels : TextLabels r.gateway.labels) (done : (r.run records current).published = .ok ids) :
    ∃ rs fresh ss, Shows (r.run records current).records ids rs ∧
      (r.run [] []).published = .ok fresh ∧ Shows (r.run [] []).records fresh ss ∧
      List.Forall₂ (fun a b => a.row = b.row ∧ a.labels = b.labels) rs ss ∧
      (List.Forall₂ Record.Agrees rs ss ↔ ∀ id ∈ ids, r.Replaces records current id) := by
  have before := regenerated_unlabelled history
  obtain ⟨base, left, accepted, sound⟩ := publish_parts done
  obtain ⟨start, ids', rs, same, waiting, done', one⟩ :=
    publish_delivered labels before.text left accepted sound
  cases Except.ok.inj (done'.symm.trans done)
  have nothing := regenerated_unlabelled .nothing
  obtain ⟨empty, fresh, ss, _, unheld, ended, two⟩ :=
    publish_delivered labels nothing.text left accepted sound
  have later := delivered_unlabelled labels (same ▸ before) waiting one
  have pair := delivered_pair later unheld one two
  have paired : List.Forall₂ (fun a b => a.row = b.row) rs ss := by
    have rows := delivered_rows one two
    rw [← List.forall₂_eq_eq_eq] at rows
    exact List.forall₂_map_right_iff.mp (List.forall₂_map_left_iff.mp rows)
  refine ⟨rs, fresh, ss, one.shows, ended, two.shows, ?_, ?_⟩
  · apply List.forall₂_iff_zip.mpr
    refine ⟨paired.length_eq, fun {a b} member => ?_⟩
    obtain ⟨left, right⟩ := List.of_mem_zip member
    have row := List.forall₂_zip paired member
    exact ⟨row, (pair a left b right row).1⟩
  · constructor
    · intro agree id listed
      obtain ⟨a, member, there⟩ := one.shows.mem_record listed
      obtain ⟨a', is, origin, drawn⟩ := one.drawn id listed
      cases Option.some.inj (is.symm.trans there)
      obtain ⟨i, bound, rfl⟩ := List.mem_iff_getElem.mp member
      have agrees := (List.forall₂_iff_get.mp agree).2 i bound (agree.length_eq ▸ bound)
      have clean := (pair _ member _ (List.getElem_mem _) agrees.row).2.mp agrees
      exact (replaces_iff left same there drawn).mpr clean
    · intro replaced
      apply List.forall₂_iff_zip.mpr
      refine ⟨paired.length_eq, fun {a b} member => ?_⟩
      obtain ⟨held, other⟩ := List.of_mem_zip member
      obtain ⟨id, listed, there, origin, drawn⟩ := one.shows.forall_record one.drawn a held
      have clean := (replaces_iff left same there drawn).mp (replaced id listed)
      exact (pair a held b other (List.forall₂_zip paired member)).2.mpr clean

end Last

-- The gateway loses its geography between two rounds.
def located : Round :=
  ⟨⟨.str "gw", .str "ns", .obj [(geoLabel, .str "IE")], [edge]⟩, "app.x", spread⟩

def unlocated : Round := ⟨⟨.str "gw", .str "ns", .obj [], [edge]⟩, "app.x", spread⟩

theorem located_regenerated : Regenerated (located.run [] []).records [3, 0, 1, 2] :=
  .round .nothing located ⟨_, rfl, by simp⟩ (by decide +kernel)

theorem unlocated_labels : TextLabels unlocated.gateway.labels := ⟨_, rfl, by simp⟩

theorem unlocated_published :
    (unlocated.run (located.run [] []).records [3, 0, 1, 2]).published = .ok [3, 4, 2] := by
  decide +kernel

theorem unlocated_agrees : Regenerated (located.run [] []).records [3, 0, 1, 2] ∧
    TextLabels unlocated.gateway.labels ∧
    (unlocated.run (located.run [] []).records [3, 0, 1, 2]).published = .ok [3, 4, 2] ∧
    ∃ rs fresh ss, Shows (unlocated.run (located.run [] []).records [3, 0, 1, 2]).records [3, 4, 2] rs ∧
      (unlocated.run [] []).published = .ok fresh ∧ Shows (unlocated.run [] []).records fresh ss ∧
      List.Forall₂ (fun a b => a.row = b.row ∧ a.labels = b.labels) rs ss ∧
      (List.Forall₂ Record.Agrees rs ss ↔
        ∀ id ∈ [3, 4, 2], unlocated.Replaces (located.run [] []).records [3, 0, 1, 2] id) :=
  ⟨located_regenerated, unlocated_labels, unlocated_published,
    regenerate_agrees located_regenerated unlocated_labels unlocated_published⟩

-- The fallback to the default geography becomes the gateway's only region, and still says that it
-- serves every geography. Published for the first time it would say nothing.
theorem unlocated_differs : Regenerated (located.run [] []).records [3, 0, 1, 2] ∧
    TextLabels unlocated.gateway.labels ∧
    (unlocated.run (located.run [] []).records [3, 0, 1, 2]).published = .ok [3, 4, 2] ∧
    (unlocated.run [] []).published = .ok [2, 0, 1] ∧
    ¬ ∃ rs ss, Shows (unlocated.run (located.run [] []).records [3, 0, 1, 2]).records [3, 4, 2] rs ∧
      Shows (unlocated.run [] []).records [2, 0, 1] ss ∧ List.Forall₂ Record.Agrees rs ss := by
  refine ⟨located_regenerated, unlocated_labels, unlocated_published, by decide +kernel, ?_⟩
  intro agreement
  obtain ⟨rs, ss, shows, shows', agree⟩ := agreement
  have carried : ((unlocated.run (located.run [] []).records [3, 0, 1, 2]).records[2]?).map
      (fun r => Entries.value? (.str "geo-code") r.attributes) = some (some (.str "*")) := by
    decide +kernel
  have absent : ∀ id ∈ [2, 0, 1], ((unlocated.run [] []).records[id]?).map
      (fun r => Entries.value? (.str "geo-code") r.attributes) ≠ some (some (.str "*")) := by
    decide +kernel
  obtain ⟨r, member, there⟩ := shows.mem_record (show 2 ∈ [3, 4, 2] by decide)
  obtain ⟨i, bound, rfl⟩ := List.mem_iff_getElem.mp member
  have agrees := (List.forall₂_iff_get.mp agree).2 i bound (agree.length_eq ▸ bound)
  obtain ⟨id, listed, there'⟩ := shows'.mem_id (List.getElem_mem (agree.length_eq ▸ bound))
  apply absent id listed
  rw [there] at carried
  rw [there', ← carried]
  exact congrArg some (agrees.attributes _).symm

end Synthesis
end DnsSteering
