import DnsSteering.Proofs.Resolution
import Mathlib.Logic.Relation

namespace DnsSteering.Resolution

-- One step of a path: an alias of the one name has the other as a target.
def Leads (records : List Record) (n t : Json) : Prop :=
  ∃ r ∈ records, r.name = n ∧ r.type = .cname ∧ t ∈ r.targets

-- Where a path may end that has come to a name.
def Stops (records : List Record) (n v : Json) : Prop :=
  ((∀ r ∈ records, r.name ≠ n) ∧ v = n) ∨
    ∃ r ∈ records, r.name = n ∧ r.type ≠ .cname ∧ v ∈ r.targets

def Terminal (records : List Record) (host v : Json) : Prop :=
  ∃ n, Relation.ReflTransGen (Leads records) host n ∧ Stops records n v

-- A walk from a hostname that came to its end, and what it found.
structure Resolved (records : List Record) (host : Json) (found : List Json) : Prop where
  ended : ∃ visited, Loop records ⟨[], [host], []⟩ ⟨visited, [], found⟩
  answered : finalValues records host = .ok found
  once : found.Nodup
  terminal : ∀ v, v ∈ found ↔ Terminal records host v

section Membership

variable {records others : List Record} (same : ∀ r, r ∈ others ↔ r ∈ records)

include same

theorem leads_members : Leads others = Leads records := by
  funext n t
  simp only [Leads, same]

theorem stops_members {n v : Json} : Stops others n v ↔ Stops records n v := by
  simp only [Stops, same]

theorem terminal_members {host v : Json} : Terminal others host v ↔ Terminal records host v := by
  simp only [Terminal, leads_members same, stops_members same]

end Membership

section Plain

variable {records : List Record} {host : Json}

theorem aliases_leads {n t : Json} (text : n.IsText) :
    t ∈ aliases (ofName records n) ↔ Leads records n t := by
  rw [mem_aliases]
  simp only [mem_ofName text, Leads, and_assoc]

theorem endsIn_stops {n v : Json} (text : n.IsText) : EndsIn records n v ↔ Stops records n v := by
  rw [EndsIn, ofName_nil text, mem_ends]
  simp only [mem_ofName text, Stops, and_assoc]

variable (plain : ∀ r ∈ records, r.Plain) (text : host.IsText)

include plain text

theorem path_text {n : Json} (path : Relation.ReflTransGen (Leads records) host n) : n.IsText := by
  cases path with
  | refl => exact text
  | tail _ leads =>
    obtain ⟨r, member, _, _, target⟩ := leads
    exact (plain r member).targets _ target

-- All that a path comes to is a text, so its steps are those of the walk.
theorem reaches_path {n : Json} :
    Reaches records host n ↔ Relation.ReflTransGen (Leads records) host n := by
  constructor
  · intro reached
    induction reached with
    | host => exact .refl
    | step _ aliased path =>
      exact path.tail ((aliases_leads (path_text plain text path)).mp aliased)
  · intro path
    induction path with
    | refl => exact .host
    | tail path leads reached =>
      exact .step reached ((aliases_leads (path_text plain text path)).mpr leads)

theorem finalValues_resolved : ∃ found, Resolved records host found := by
  obtain ⟨visited, found, loop, done, walk⟩ := finalValues_loop plain text
  refine ⟨found, ⟨visited, loop⟩, done, walk.once, ?_⟩
  intro v
  rw [walk.finished v]
  constructor
  · intro known
    obtain ⟨n, reached, ended⟩ := known
    have path := (reaches_path plain text).mp reached
    exact ⟨n, path, (endsIn_stops (path_text plain text path)).mp ended⟩
  · intro known
    obtain ⟨n, path, stops⟩ := known
    exact ⟨n, (reaches_path plain text).mpr path, (endsIn_stops (path_text plain text path)).mpr stops⟩

theorem terminal_text {v : Json} (terminal : Terminal records host v) : v.IsText := by
  obtain ⟨n, path, ⟨_, rfl⟩ | ⟨r, member, _, _, target⟩⟩ := terminal
  · exact path_text plain text path
  · exact (plain r member).targets v target

end Plain

theorem sameSet_iff {xs ys : List Json} (text : ∀ x ∈ xs, x.IsText) :
    sameSet xs ys = true ↔ ∀ v, v ∈ ys ↔ v ∈ xs := by
  have held : ∀ v, holds xs v = true ↔ v ∈ xs := by
    intro v
    simp only [holds, List.any_eq_true]
    constructor
    · intro found
      obtain ⟨x, member, same⟩ := found
      obtain ⟨s, rfl⟩ := text x member
      exact Json.str_same.mp same ▸ member
    · intro member
      exact ⟨v, member, (Json.same_iff (text v member)).mpr rfl⟩
  simp only [sameSet, Bool.and_eq_true, List.all_eq_true, held]
  constructor
  · intro both v
    exact ⟨both.2 v, fun member => (holds_iff (text v member)).mp (both.1 v member)⟩
  · intro same
    exact ⟨fun v member => (holds_iff (text v member)).mpr ((same v).mpr member), fun v => (same v).mp⟩

-- Expected values that can be looked up are compared as a set.
theorem Resolved.leadsTo {records : List Record} {host : Json} {found expected : List Json}
    (resolved : Resolved records host found) (text : ∀ v ∈ found, v.IsText)
    (plain : ∀ v ∈ expected, v.canIdentify = true) :
    ∃ answer, leadsTo records host expected = .ok answer ∧
      (answer = true ↔ ∀ v, v ∈ expected ↔ Terminal records host v) := by
  refine ⟨sameSet found expected, ?_, ?_⟩
  · simp [Resolution.leadsTo, resolved.answered, List.all_eq_true.mpr plain]
  · rw [sameSet_iff text]
    simp only [resolved.terminal]

-- Names and targets are texts. Cycles, records of mixed types under one name and records that stand
-- more than once are all allowed.
theorem finalValues_terminals {records : List Record} {host : Json} (plain : ∀ r ∈ records, r.Plain)
    (text : host.IsText) :
    ∃ found, Resolved records host found ∧
      (∀ others, (∀ r, r ∈ others ↔ r ∈ records) →
        ∃ again, Resolved others host again ∧ again.Perm found) ∧
      ∀ expected, (∀ v ∈ expected, v.canIdentify = true) →
        ∃ answer, leadsTo records host expected = .ok answer ∧
          (answer = true ↔ ∀ v, v ∈ expected ↔ Terminal records host v) := by
  obtain ⟨found, resolved⟩ := finalValues_resolved plain text
  refine ⟨found, resolved, ?_, ?_⟩
  · intro others same
    obtain ⟨again, other⟩ := finalValues_resolved (fun r member => plain r ((same r).mp member)) text
    refine ⟨again, other, (List.perm_ext_iff_of_nodup other.once resolved.once).mpr ?_⟩
    intro v
    rw [other.terminal, resolved.terminal, terminal_members same]
  · intro expected known
    refine resolved.leadsTo ?_ known
    exact fun v member => terminal_text plain text ((resolved.terminal v).mp member)

-- Two names that lead to each other, and one of them to an address and out of the records as well.
def winding : List Record := [
  ⟨.str "a.x", .cname, [.str "b.x", .str "edge.x"], .int 60, .str "", [], []⟩,
  ⟨.str "b.x", .cname, [.str "a.x", .str "b.x"], .int 60, .str "", [], []⟩,
  ⟨.str "a.x", .a, [.str "192.0.2.1"], .int 60, .str "", [], []⟩,
  ⟨.str "b.x", .cname, [.str "a.x", .str "b.x"], .int 60, .str "", [], []⟩]

theorem winding_terminals : (∀ r ∈ winding, r.Plain) ∧ (Json.str "a.x").IsText ∧
    Resolved winding (.str "a.x") [.str "192.0.2.1", .str "edge.x"] := by
  have plain : ∀ r ∈ winding, r.Plain := by
    intro r member
    have listed : r ∈ winding → r.name.IsText ∧ ∀ t ∈ r.targets, t.IsText := by
      simp only [winding, List.mem_cons, List.not_mem_nil, or_false]
      rintro (rfl | rfl | rfl | rfl) <;> simp
    exact ⟨(listed member).1, (listed member).2⟩
  obtain ⟨found, resolved, _⟩ := finalValues_terminals plain (Json.isText_str "a.x")
  have done : finalValues winding (.str "a.x") = .ok [.str "192.0.2.1", .str "edge.x"] := rfl
  cases Except.ok.inj (resolved.answered.symm.trans done)
  exact ⟨plain, Json.isText_str _, resolved⟩

end DnsSteering.Resolution
