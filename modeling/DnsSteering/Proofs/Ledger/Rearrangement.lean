import DnsSteering.Proofs.Ledger.Calls
import DnsSteering.Proofs.Ledger.Openings
import Mathlib.Data.List.Pairwise

namespace DnsSteering

namespace Holdings

-- The same holdings in another order, no two of them alike.
structure Reordered (hs ks : Holdings) : Prop where
  perm : hs.Perm ks
  apart : ∀ h ∈ hs, ∀ k ∈ hs, h.1.Alike k.1 → h = k

-- The answers of two searches: neither finds anything, or both find the same and leave the same.
inductive Agree : Option (Nat × Holdings) → Option (Nat × Holdings) → Prop where
  | none : Agree none none
  | some {id : Nat} {rest rest' : Holdings} (left : Reordered rest rest') :
      Agree (some (id, rest)) (some (id, rest'))

section Reordered

variable {hs ks : Holdings} {s : Slot} {wanted : Slot → Bool}

theorem take_reordered (reordered : Reordered hs ks)
    (single : ∀ h ∈ hs, ∀ k ∈ hs, wanted h.1 = true → wanted k.1 = true → h = k) :
    Agree (take? wanted hs) (take? wanted ks) := by
  cases one : take? wanted hs with
  | none =>
    cases two : take? wanted ks with
    | none => exact .none
    | some result =>
      obtain ⟨id, rest⟩ := result
      obtain ⟨before, t, after, split, _, want⟩ := take_parts two
      have held : (t, id) ∈ hs := reordered.perm.mem_iff.mpr (by rw [split]; simp)
      have unwanted := take_none one _ held
      rw [want] at unwanted
      cases unwanted
  | some result =>
    obtain ⟨id, rest⟩ := result
    obtain ⟨before, t, after, split, rfl, want⟩ := take_parts one
    have held : (t, id) ∈ hs := by rw [split]; simp
    cases two : take? wanted ks with
    | none =>
      have unwanted := take_none two _ (reordered.perm.mem_iff.mp held)
      rw [want] at unwanted
      cases unwanted
    | some result' =>
      obtain ⟨id', rest'⟩ := result'
      obtain ⟨before', t', after', split', rfl, want'⟩ := take_parts two
      have held' : (t', id') ∈ hs := reordered.perm.mem_iff.mpr (by rw [split']; simp)
      -- There is one such holding, so it is the same in both.
      cases single _ held _ held' want want'
      refine .some ⟨?_, ?_⟩
      · have perm := reordered.perm
        rw [split, split'] at perm
        have front := (List.perm_middle.symm.trans perm).trans List.perm_middle
        exact front.cons_inv
      · have inside : ∀ h ∈ before ++ after, h ∈ hs := by
          intro h member
          rw [split]
          rcases List.mem_append.mp member with left | right
          · exact List.mem_append_left _ left
          · exact List.mem_append_right _ (List.mem_cons_of_mem _ right)
        exact fun h one k two => reordered.apart h (inside h one) k (inside k two)

theorem claim_reordered (reordered : Reordered hs ks) (text : s.IsText) :
    Agree (claim? s hs) (claim? s ks) := by
  have own : Agree (take? (fun t => t.same s) hs) (take? (fun t => t.same s) ks) := by
    apply take_reordered reordered
    intro h one k two same same'
    have equal := (Slot.same_iff text).mp same
    have equal' := (Slot.same_iff text).mp same'
    exact reordered.apart h one k two (by rw [equal, equal']; exact ⟨rfl, rfl⟩)
  have other : Agree (take? (fun t => t.sameKey s) hs) (take? (fun t => t.sameKey s) ks) := by
    apply take_reordered reordered
    intro h one k two same same'
    have alike := (Slot.sameKey_iff text).mp same
    have alike' := (Slot.sameKey_iff text).mp same'
    exact reordered.apart h one k two ⟨alike.1.trans alike'.1.symm, alike.2.trans alike'.2.symm⟩
  unfold claim?
  generalize take? (fun t => t.same s) hs = found at own ⊢
  generalize take? (fun t => t.same s) ks = found' at own ⊢
  cases own with
  | none => exact other
  | some left => exact .some left

end Reordered
end Holdings

namespace Ledger

open Holdings (Reordered)

-- A step of two ledgers that differ in the order of what is pending: the same answer, and again they
-- differ in that only.
def Keeps {α : Type} (step : Ledger → Ledger × α) : Prop :=
  ∀ l ks, Reordered l.pending ks →
    ∃ ks', step (l.awaiting ks) = ((step l).1.awaiting ks', (step l).2) ∧
      Reordered (step l).1.pending ks'

theorem put_keeps {q : Request} (plain : q.slot.isText = true ∨ q.slot.canIdentify = false) :
    Keeps fun l => l.put q := by
  intro l ks reordered
  simp only
  unfold put
  split
  · exact ⟨ks, rfl, reordered⟩
  · rename_i identified
    have text : q.slot.IsText := Slot.isText_true.mp (plain.resolve_right (by simpa using identified))
    cases given : l.emitted.find? q.slot with
    | some id =>
      have same : (l.awaiting ks).emitted.find? q.slot = some id := given
      simp only [same]
      exact ⟨ks, reuse_awaiting l ks id q, by rw [reuse_pending]; exact reordered⟩
    | none =>
      have same : (l.awaiting ks).emitted.find? q.slot = none := given
      simp only [same]
      have agree : Holdings.Agree (l.pending.claim? q.slot) ((l.awaiting ks).pending.claim? q.slot) :=
        Holdings.claim_reordered reordered text
      generalize l.pending.claim? q.slot = found at agree ⊢
      generalize (l.awaiting ks).pending.claim? q.slot = found' at agree ⊢
      cases agree with
      | none => exact ⟨ks, create_awaiting l ks q, by rw [create_pending]; exact reordered⟩
      | @some id rest rest' left =>
        refine ⟨rest', reuse_awaiting (l.awaiting rest) rest' id q, ?_⟩
        have kept : ((l.awaiting rest).reuse id q).1.pending = rest := reuse_pending _ id q
        change Reordered ((l.awaiting rest).reuse id q).1.pending rest'
        rw [kept]
        exact left

theorem setAttributes_keeps (id : Nat) (marks : List (Json × Json)) :
    Keeps fun l => l.setAttributes id marks := by
  intro l ks reordered
  exact ⟨ks, setAttributes_awaiting l ks id marks, by rw [setAttributes_pending]; exact reordered⟩

section Openings

variable {records : List Record} {current current' : List Nat}

-- No two of the current records have one name and identifier.
def Apart (records : List Record) (current : List Nat) : Prop :=
  current.Pairwise fun i j => ∀ r s, records[i]? = some r → records[j]? = some s →
    r.sameKey s = false

def Unlike (records : List Record) (i j : Nat) : Prop :=
  ∀ r s, records[i]? = some r → records[j]? = some s → ¬ r.slot.Alike s.slot

instance : Std.Symm (Unlike records) where
  symm _ _ unlike r s there there' alike := unlike s r there' there ⟨alike.1.symm, alike.2.symm⟩

theorem Apart.unlike (text : AllText records current) (apart : Apart records current) :
    current.Pairwise (Unlike records) := by
  refine List.Pairwise.imp_of_mem ?_ apart
  intro i j _ listed other r s there there' alike
  have same : r.sameKey s = true := (Slot.sameKey_iff (text j listed s there')).mpr alike
  rw [other r s there there'] at same
  cases same

theorem latest?_unlike (unlike : current.Pairwise (Unlike records)) {s : Slot} {n : Nat} :
    latest? records current s = some n ↔ n ∈ current ∧ ∃ r, records[n]? = some r ∧ r.slot = s := by
  constructor
  · exact latest?_some
  · intro held
    obtain ⟨listed, r, there, slot⟩ := held
    obtain ⟨m, found⟩ := latest?_isSome.mpr (mem_currentSlots.mpr ⟨n, listed, r, there, slot⟩)
    obtain ⟨listed', r', there', slot'⟩ := latest?_some found
    by_cases same : m = n
    · rw [← same]
      exact found
    · have alike : r'.slot.Alike r.slot := by
        rw [slot, slot']
        exact ⟨rfl, rfl⟩
      exact absurd alike (unlike.forall listed' listed same r' r there' there)

theorem opening_unlike {start : Ledger} (text : AllText records current)
    (opened : opening records current = .ok start) (unlike : current.Pairwise (Unlike records))
    {s : Slot} {n : Nat} :
    (s, n) ∈ start.pending ↔ n ∈ current ∧ ∃ r, records[n]? = some r ∧ r.slot = s :=
  (opening_latest text opened).trans (latest?_unlike unlike)

theorem opening_reordered (text : AllText records current) (apart : Apart records current)
    (perm : current.Perm current') : ∃ start ks, opening records current = .ok start ∧
      opening records current' = .ok (start.awaiting ks) ∧ Reordered start.pending ks := by
  have text' : AllText records current' := fun id listed => text id (perm.mem_iff.mpr listed)
  have unlike := apart.unlike text
  have unlike' : current'.Pairwise (Unlike records) := unlike.perm perm fun other => symm other
  obtain ⟨start, opened, sound, none, same, _⟩ := opening_sound text
  obtain ⟨start', opened', sound', none', same', _⟩ := opening_sound text'
  have changed : start' = start.awaiting start'.pending := by
    obtain ⟨records', pending', emitted'⟩ := start'
    obtain rfl : records' = records := same'
    obtain rfl : emitted' = [] := none'
    rw [awaiting, same, none]
  refine ⟨start, start'.pending, opened, changed ▸ opened', ?_, ?_⟩
  · apply (List.perm_ext_iff_of_nodup (sound.pending_once.of_map _) (sound'.pending_once.of_map _)).mpr
    intro h
    obtain ⟨s, n⟩ := h
    rw [opening_unlike text opened unlike, opening_unlike text' opened' unlike', perm.mem_iff]
  · intro h one k two alike
    obtain ⟨s, n⟩ := h
    obtain ⟨t, m⟩ := k
    obtain ⟨listed, r, there, slot⟩ := (opening_unlike text opened unlike).mp one
    obtain ⟨listed', r', there', slot'⟩ := (opening_unlike text opened unlike).mp two
    by_cases same : n = m
    · subst same
      cases Option.some.inj (there.symm.trans there')
      rw [← slot, ← slot']
    · rw [← slot, ← slot'] at alike
      exact absurd alike (unlike.forall listed listed' same r r' there there')

end Openings
end Ledger

end DnsSteering
