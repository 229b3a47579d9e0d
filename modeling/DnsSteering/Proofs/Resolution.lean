import DnsSteering.Proofs.Texts
import DnsSteering.Resolution

namespace DnsSteering

-- Name and targets are texts, as in every record that is published.
structure Record.Plain (r : Record) : Prop where
  name : r.name.IsText
  targets : ∀ t ∈ r.targets, t.IsText

namespace Resolution

-- A name to which aliases lead from the host.
inductive Reaches (records : List Record) (host : Json) : Json → Prop where
  | host : Reaches records host host
  | step {n t : Json} (reached : Reaches records host n) (aliased : t ∈ aliases (ofName records n)) :
      Reaches records host t

def EndsIn (records : List Record) (n v : Json) : Prop :=
  (ofName records n = [] ∧ v = n) ∨ v ∈ ends (ofName records n)

theorem mem_ofName {records : List Record} {n : Json} {r : Record} (text : n.IsText) :
    r ∈ ofName records n ↔ r ∈ records ∧ r.name = n := by
  simp [ofName, Json.same_iff text]

theorem ofName_nil {records : List Record} {n : Json} (text : n.IsText) :
    ofName records n = [] ↔ ∀ r ∈ records, r.name ≠ n := by
  simp [ofName, List.filter_eq_nil_iff, Json.same_iff text]

theorem mem_aliases {rs : List Record} {t : Json} :
    t ∈ aliases rs ↔ ∃ r ∈ rs, r.type = .cname ∧ t ∈ r.targets := by
  simp [aliases, List.mem_flatMap, and_assoc]

theorem mem_ends {rs : List Record} {v : Json} :
    v ∈ ends rs ↔ ∃ r ∈ rs, r.type ≠ .cname ∧ v ∈ r.targets := by
  simp [ends, List.mem_flatMap, and_assoc]

theorem holds_iff {seen : List Json} {v : Json} (text : v.IsText) :
    holds seen v = true ↔ v ∈ seen := by
  simp [holds, Json.same_iff text]

theorem mem_adjoin {v w : Json} {seen : List Json} (text : v.IsText) :
    w ∈ adjoin v seen ↔ w = v ∨ w ∈ seen := by
  unfold adjoin
  split
  · rename_i held
    constructor
    · exact .inr
    · intro either
      cases either with
      | inl here => exact here ▸ (holds_iff text).mp held
      | inr old => exact old
  · simp [or_comm]

theorem adjoin_once {v : Json} {seen : List Json} (text : v.IsText) (once : seen.Nodup) :
    (adjoin v seen).Nodup := by
  unfold adjoin
  split
  · exact once
  · rename_i new
    have fresh : v ∉ seen := fun old => new ((holds_iff text).mpr old)
    refine List.nodup_append.mpr ⟨once, List.pairwise_singleton .., ?_⟩
    intro w old u here
    rw [List.mem_singleton.mp here]
    intro same
    exact fresh (same ▸ old)

theorem mem_adjoinAll {vs seen : List Json} {w : Json} (text : ∀ v ∈ vs, v.IsText) :
    w ∈ adjoinAll vs seen ↔ w ∈ vs ∨ w ∈ seen := by
  induction vs generalizing seen with
  | nil => simp [adjoinAll]
  | cons v vs ih =>
    have later : ∀ u ∈ vs, u.IsText := fun u member => text u (List.mem_cons_of_mem _ member)
    rw [show adjoinAll (v :: vs) seen = adjoinAll vs (adjoin v seen) from rfl, ih later,
      mem_adjoin (text v (List.mem_cons_self ..)), List.mem_cons]
    constructor
    · intro found
      rcases found with later | here | old
      · exact .inl (.inr later)
      · exact .inl (.inl here)
      · exact .inr old
    · intro found
      rcases found with (here | later) | old
      · exact .inr (.inl here)
      · exact .inl later
      · exact .inr (.inr old)

theorem adjoinAll_once {vs seen : List Json} (text : ∀ v ∈ vs, v.IsText) (once : seen.Nodup) :
    (adjoinAll vs seen).Nodup := by
  induction vs generalizing seen with
  | nil => exact once
  | cons v vs ih =>
    exact ih (fun u member => text u (List.mem_cons_of_mem _ member))
      (adjoin_once (text v (List.mem_cons_self ..)) once)

-- What the walk keeps from one visit to the next.
structure Walk (records : List Record) (host : Json) (s : State) : Prop where
  text : ∀ n ∈ s.pending, n.IsText
  reached : ∀ n, n ∈ s.visited ∨ n ∈ s.pending → Reaches records host n
  rooted : host ∈ s.visited ∨ host ∈ s.pending
  closed : ∀ n ∈ s.visited, ∀ t ∈ aliases (ofName records n), t ∈ s.visited ∨ t ∈ s.pending
  final : ∀ v, v ∈ s.final ↔ ∃ n ∈ s.visited, EndsIn records n v
  once : s.final.Nodup

section Walk

variable {records : List Record} {host : Json}

-- A name that is left out of the names that wait has been visited, or is not waited for any more.
theorem Walk.skip {visited pending final : List Json} {n : Json}
    (walk : Walk records host ⟨visited, n :: pending, final⟩) (seen : n ∈ visited) :
    Walk records host ⟨visited, pending, final⟩ := by
  have dropped : ∀ t, t ∈ visited ∨ t ∈ n :: pending → t ∈ visited ∨ t ∈ pending := by
    intro t known
    cases known with
    | inl old => exact .inl old
    | inr waiting =>
      cases List.mem_cons.mp waiting with
      | inl here => exact .inl (here ▸ seen)
      | inr later => exact .inr later
  refine ⟨?_, ?_, dropped _ walk.rooted, ?_, walk.final, walk.once⟩
  · exact fun t later => walk.text t (List.mem_cons_of_mem _ later)
  · exact fun t known => walk.reached t (known.imp_right (List.mem_cons_of_mem _))
  · exact fun t old u aliased => dropped u (walk.closed t old u aliased)

theorem Walk.visit {visited pending final more found : List Json} {n : Json}
    (walk : Walk records host ⟨visited, n :: pending, final⟩)
    (text : ∀ t ∈ more, t.IsText) (next : ∀ t, t ∈ more ↔ t ∈ aliases (ofName records n))
    (ended : ∀ v, v ∈ found ↔ EndsIn records n v ∨ v ∈ final) (once : found.Nodup) :
    Walk records host ⟨visited ++ [n], more ++ pending, found⟩ := by
  have here : Reaches records host n := walk.reached n (.inr (List.mem_cons_self ..))
  -- No name gets lost: the one that is visited now has been visited then.
  have moved : ∀ t, t ∈ visited ∨ t ∈ n :: pending → t ∈ visited ++ [n] ∨ t ∈ more ++ pending := by
    intro t known
    cases known with
    | inl old => exact .inl (List.mem_append_left _ old)
    | inr waiting =>
      cases List.mem_cons.mp waiting with
      | inl here => exact .inl (List.mem_append_right _ (List.mem_singleton.mpr here))
      | inr later => exact .inr (List.mem_append_right _ later)
  refine ⟨?_, ?_, moved _ walk.rooted, ?_, ?_, once⟩
  · intro t waiting
    cases List.mem_append.mp waiting with
    | inl new => exact text t new
    | inr old => exact walk.text t (List.mem_cons_of_mem _ old)
  · intro t known
    cases known with
    | inl seen =>
      cases List.mem_append.mp seen with
      | inl old => exact walk.reached t (.inl old)
      | inr new =>
        rw [List.mem_singleton.mp new]
        exact here
    | inr waiting =>
      cases List.mem_append.mp waiting with
      | inl new => exact .step here ((next t).mp new)
      | inr old => exact walk.reached t (.inr (List.mem_cons_of_mem _ old))
  · -- The aliases of the name wait from now on.
    intro t seen u aliased
    cases List.mem_append.mp seen with
    | inl old => exact moved u (walk.closed t old u aliased)
    | inr new =>
      rw [List.mem_singleton.mp new] at aliased
      exact .inr (List.mem_append_left _ ((next u).mpr aliased))
  · intro v
    rw [ended v, walk.final v]
    constructor
    · intro known
      rcases known with new | ⟨t, old, ends⟩
      · exact ⟨n, List.mem_append_right _ (List.mem_singleton.mpr rfl), new⟩
      · exact ⟨t, List.mem_append_left _ old, ends⟩
    · intro known
      obtain ⟨t, seen, ends⟩ := known
      cases List.mem_append.mp seen with
      | inl old => exact .inr ⟨t, old, ends⟩
      | inr new =>
        rw [List.mem_singleton.mp new] at ends
        exact .inl ends

-- With nothing waiting, the names visited are those that are reached.
theorem Walk.finished {visited final : List Json} (walk : Walk records host ⟨visited, [], final⟩)
    (v : Json) : v ∈ final ↔ ∃ n, Reaches records host n ∧ EndsIn records n v := by
  have all : ∀ n, Reaches records host n → n ∈ visited := by
    intro n reached
    induction reached with
    | host => exact walk.rooted.resolve_right (by simp)
    | step _ aliased ih => exact (walk.closed _ ih _ aliased).resolve_right (by simp)
  rw [walk.final v]
  constructor
  · intro known
    obtain ⟨n, seen, ends⟩ := known
    exact ⟨n, walk.reached n (.inl seen), ends⟩
  · intro known
    obtain ⟨n, reached, ends⟩ := known
    exact ⟨n, all n reached, ends⟩

end Walk

-- The walk without a bound: as long as a name waits, the first that does is visited.
inductive Loop (records : List Record) : State → State → Prop where
  | ended {visited final : List Json} : Loop records ⟨visited, [], final⟩ ⟨visited, [], final⟩
  | visit {visited pending final : List Json} {name : Json} {next last : State}
      (done : visit records name ⟨visited, pending, final⟩ = .ok next)
      (more : Loop records next last) : Loop records ⟨visited, name :: pending, final⟩ last

-- How many targets stand in records whose names are still to be visited.
def left (visited : List Json) : List Record → Nat
  | [] => 0
  | r :: rs => (if r.name ∈ visited then 0 else r.targets.length) + left visited rs

theorem left_nil (records : List Record) :
    left [] records = targetCount records := by
  induction records with
  | nil => rfl
  | cons r rs ih => simp [left, targetCount, ih]

theorem length_aliases (rs : List Record) : (aliases rs).length ≤ targetCount rs := by
  induction rs with
  | nil => exact Nat.le_refl 0
  | cons r rs ih =>
    unfold aliases at ih ⊢
    unfold targetCount
    by_cases aliased : r.type = .cname
    · simp only [List.filter_cons, aliased, decide_true, if_true, List.flatMap_cons,
        List.length_append] at ih ⊢
      omega
    · simp only [List.filter_cons, aliased, decide_false, Bool.false_eq_true, if_false] at ih ⊢
      omega

theorem left_visit {visited : List Json} {n : Json} (text : n.IsText) (new : n ∉ visited)
    (records : List Record) :
    left (visited ++ [n]) records + targetCount (ofName records n) = left visited records := by
  induction records with
  | nil => rfl
  | cons r rs ih =>
    unfold left
    by_cases here : r.name = n
    · have seen : r.name ∈ visited ++ [n] := by simp [here]
      have unseen : r.name ∉ visited := by rwa [here]
      have named : ofName (r :: rs) n = r :: ofName rs n := by
        simp [ofName, (Json.same_iff text).mpr here]
      rw [if_pos seen, if_neg unseen, named]
      unfold targetCount
      omega
    · have other : ¬ r.name.same n = true := fun same => here ((Json.same_iff text).mp same)
      have unnamed : ofName (r :: rs) n = ofName rs n := by simp [ofName, other]
      rw [unnamed]
      by_cases old : r.name ∈ visited
      · rw [if_pos (List.mem_append_left _ old), if_pos old]
        omega
      · rw [if_neg (by simp [old, here]), if_neg old]
        omega

section Visits

variable {records : List Record} {host : Json} (plain : ∀ r ∈ records, r.Plain)

include plain

theorem visit_walk {visited pending final : List Json} {n : Json}
    (walk : Walk records host ⟨visited, n :: pending, final⟩) :
    ∃ s, visit records n ⟨visited, pending, final⟩ = .ok s ∧ Walk records host s ∧
      s.pending.length + left s.visited records < (n :: pending).length + left visited records := by
  have text : n.IsText := walk.text n (List.mem_cons_self ..)
  have targets : ∀ r ∈ ofName records n, ∀ t ∈ r.targets, t.IsText := by
    intro r member
    exact (plain r ((mem_ofName text).mp member).1).targets
  unfold visit
  rw [if_neg (by simp [text.canIdentify])]
  by_cases seen : n ∈ visited
  · rw [if_pos ((holds_iff text).mpr seen)]
    exact ⟨_, rfl, walk.skip seen, by simp⟩
  · rw [if_neg fun held => seen ((holds_iff text).mp held)]
    have fewer := left_visit text seen records
    -- A name without records is an end, and otherwise its aliases wait and its other targets are ends.
    by_cases none : ofName records n = []
    · refine ⟨⟨visited ++ [n], pending, adjoin n final⟩, by simp [none], ?_, ?_⟩
      · show Walk records host ⟨visited ++ [n], [] ++ pending, adjoin n final⟩
        refine walk.visit (by simp) (by simp [none, aliases]) ?_
          (adjoin_once text walk.once)
        intro v
        rw [mem_adjoin text]
        simp [EndsIn, none, ends]
      · simp only [List.length_cons]
        omega
    · have ended : ∀ v ∈ ends (ofName records n), v.IsText := by
        intro v member
        obtain ⟨r, named, _, target⟩ := mem_ends.mp member
        exact targets r named v target
      have accepted : (ends (ofName records n)).all Json.canIdentify = true :=
        List.all_eq_true.mpr fun v member => (ended v member).canIdentify
      refine ⟨⟨visited ++ [n], (aliases (ofName records n)).reverse ++ pending,
        adjoinAll (ends (ofName records n)) final⟩, by simp [none, accepted], ?_, ?_⟩
      · refine walk.visit ?_ (by simp) ?_ (adjoinAll_once ended walk.once)
        · intro t waiting
          obtain ⟨r, named, _, target⟩ := mem_aliases.mp (List.mem_reverse.mp waiting)
          exact targets r named t target
        · intro v
          rw [mem_adjoinAll ended]
          simp [EndsIn, none]
      · have more := length_aliases (ofName records n)
        simp only [List.length_append, List.length_reverse, List.length_cons]
        omega

-- The induction is on the fuel, and what is waiting or still to be expanded always fits into it.
theorem visits_loop (fuel : Nat) {s : State} (walk : Walk records host s)
    (fits : s.pending.length + left s.visited records ≤ fuel) :
    ∃ visited found, Loop records s ⟨visited, [], found⟩ ∧ visits fuel records s = .ok found ∧
      Walk records host ⟨visited, [], found⟩ := by
  induction fuel generalizing s with
  | zero =>
    obtain ⟨visited, pending, final⟩ := s
    obtain rfl : pending = [] := by
      apply List.eq_nil_of_length_eq_zero
      simp only at fits
      omega
    exact ⟨visited, final, .ended, rfl, walk⟩
  | succ fuel ih =>
    obtain ⟨visited, pending, final⟩ := s
    cases pending with
    | nil => exact ⟨visited, final, .ended, rfl, walk⟩
    | cons n pending =>
      obtain ⟨next, done, kept, smaller⟩ := visit_walk plain walk
      obtain ⟨seen, found, loop, ended, last⟩ := ih kept (by simp only at fits; omega)
      refine ⟨seen, found, .visit done loop, ?_, last⟩
      unfold visits
      simp only [done]
      exact ended

theorem finalValues_loop (text : host.IsText) :
    ∃ visited found, Loop records ⟨[], [host], []⟩ ⟨visited, [], found⟩ ∧
      finalValues records host = .ok found ∧ Walk records host ⟨visited, [], found⟩ := by
  have names : (records.all fun r => r.name.canIdentify) = true :=
    List.all_eq_true.mpr fun r member => (plain r member).name.canIdentify
  have start : Walk records host ⟨[], [host], []⟩ := by
    refine ⟨by simpa using text, ?_, .inr (List.mem_singleton.mpr rfl), by simp, by simp,
      List.nodup_nil⟩
    intro n known
    have equal : n = host := by simpa using known
    rw [equal]
    exact .host
  unfold finalValues
  simp only [names, Bool.not_true, Bool.false_eq_true, if_false]
  refine visits_loop plain _ start ?_
  simp only [left_nil, bound, List.length_singleton]
  omega

theorem finalValues_walk (text : host.IsText) :
    ∃ found, finalValues records host = .ok found ∧ found.Nodup ∧
      ∀ v, v ∈ found ↔ ∃ n, Reaches records host n ∧ EndsIn records n v := by
  obtain ⟨visited, found, _, done, walk⟩ := finalValues_loop plain text
  exact ⟨found, done, walk.once, walk.finished⟩

-- Where all names are reached, what is found stands in the records: targets that are no aliases, and
-- aliases to names without records.
theorem finalValues_connected (text : host.IsText) (rooted : ∃ r ∈ records, r.name = host)
    (connected : ∀ r ∈ records, Reaches records host r.name) :
    ∃ found, finalValues records host = .ok found ∧ found.Nodup ∧
      ∀ v, v ∈ found ↔ ∃ r ∈ records, v ∈ r.targets ∧
        (r.type = .cname → ∀ other ∈ records, other.name ≠ v) := by
  obtain ⟨found, done, once, facts⟩ := finalValues_walk plain text
  refine ⟨found, done, once, fun v => (facts v).trans ?_⟩
  constructor
  · intro known
    obtain ⟨n, reached, ⟨none, rfl⟩ | ended⟩ := known
    · cases reached with
      | host =>
        obtain ⟨r, member, named⟩ := rooted
        exact absurd named ((ofName_nil text).mp none r member)
      | step _ aliased =>
        obtain ⟨r, named, _, target⟩ := mem_aliases.mp aliased
        have member : r ∈ records := (List.mem_filter.mp named).1
        have targetText := (plain r member).targets v target
        exact ⟨r, member, target, fun _ => (ofName_nil targetText).mp none⟩
    · obtain ⟨r, named, other, target⟩ := mem_ends.mp ended
      exact ⟨r, (List.mem_filter.mp named).1, target, fun aliased => absurd aliased other⟩
  · intro known
    obtain ⟨r, member, target, unnamed⟩ := known
    have named : r ∈ ofName records r.name :=
      (mem_ofName (plain r member).name).mpr ⟨member, rfl⟩
    by_cases aliased : r.type = .cname
    · refine ⟨v, .step (connected r member) (mem_aliases.mpr ⟨r, named, aliased, target⟩), .inl ⟨?_, rfl⟩⟩
      exact (ofName_nil ((plain r member).targets v target)).mpr (unnamed aliased)
    · exact ⟨r.name, connected r member, .inr (mem_ends.mpr ⟨r, named, aliased, target⟩)⟩

end Visits

end Resolution
end DnsSteering
