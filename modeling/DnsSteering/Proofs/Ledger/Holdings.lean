import DnsSteering.Proofs.Texts
import Mathlib.Data.List.Nodup

namespace DnsSteering

namespace Holdings

def slots (hs : Holdings) : List Slot := hs.map (·.1)

@[simp] theorem slots_nil : slots [] = [] := rfl

@[simp] theorem slots_cons (h : Slot × Nat) (hs : Holdings) : slots (h :: hs) = h.1 :: slots hs := rfl

@[simp] theorem slots_append (hs ks : Holdings) : slots (hs ++ ks) = slots hs ++ slots ks := by
  simp [slots]

theorem mem_slots {s : Slot} {hs : Holdings} : s ∈ slots hs ↔ ∃ id, (s, id) ∈ hs := by
  simp [slots]

theorem slots_mem {h : Slot × Nat} {hs : Holdings} (held : h ∈ hs) : h.1 ∈ slots hs :=
  List.mem_map_of_mem held

-- No slot stands twice, so a holding is known by its slot.
theorem holding_unique {hs : Holdings} (once : (slots hs).Nodup) {s : Slot} {id other : Nat}
    (one : (s, id) ∈ hs) (two : (s, other) ∈ hs) : id = other :=
  congrArg Prod.snd (List.inj_on_of_nodup_map once one two rfl)

variable {s : Slot} {id : Nat} {hs : Holdings}

theorem put_new (text : s.IsText) (new : s ∉ slots hs) : put s id hs = hs ++ [(s, id)] := by
  induction hs with
  | nil => rfl
  | cons h hs ih =>
    obtain ⟨t, old⟩ := h
    simp only [slots_cons, List.mem_cons, not_or] at new
    have other : ¬ t.same s = true := fun same => new.1 ((Slot.same_iff text).mp same).symm
    simp [put, other, ih new.2]

theorem put_held (text : s.IsText) (once : (slots hs).Nodup) (held : (s, id) ∈ hs) :
    put s id hs = hs := by
  induction hs with
  | nil => cases held
  | cons h hs ih =>
    obtain ⟨t, old⟩ := h
    unfold put
    split
    · rename_i same
      obtain rfl := (Slot.same_iff text).mp same
      rw [holding_unique once (List.mem_cons_self ..) held]
    · rename_i other
      cases List.mem_cons.mp held with
      | inl equal =>
        cases equal
        exact absurd ((Slot.same_iff text).mpr rfl) other
      | inr later => rw [ih (List.nodup_cons.mp once).2 later]

theorem slots_put_held (text : s.IsText) (held : s ∈ slots hs) : slots (put s id hs) = slots hs := by
  induction hs with
  | nil => cases held
  | cons h hs ih =>
    obtain ⟨t, old⟩ := h
    unfold put
    split
    · rfl
    · rename_i other
      cases List.mem_cons.mp held with
      | inl equal => exact absurd ((Slot.same_iff text).mpr equal.symm) other
      | inr later => simp [ih later]

theorem nodup_put (text : s.IsText) (once : (slots hs).Nodup) : (slots (put s id hs)).Nodup := by
  by_cases held : s ∈ slots hs
  · rwa [slots_put_held text held]
  · rw [put_new text held, slots_append]
    exact List.Nodup.append once (List.nodup_singleton _) (by simpa using held)

theorem mem_put_iff {t : Slot} {n : Nat} (text : s.IsText) (once : (slots hs).Nodup) :
    (t, n) ∈ put s id hs ↔ (t = s ∧ n = id) ∨ (t ≠ s ∧ (t, n) ∈ hs) := by
  induction hs with
  | nil => simp [put]
  | cons h hs ih =>
    obtain ⟨u, old⟩ := h
    obtain ⟨new, rest⟩ := List.nodup_cons.mp once
    unfold put
    split
    · rename_i same
      obtain rfl : u = s := (Slot.same_iff text).mp same
      have other : (t, n) ∈ hs → t ≠ u := by
        rintro held rfl
        exact new (mem_slots.mpr ⟨n, held⟩)
      simp only [List.mem_cons, Prod.mk.injEq]
      grind
    · rename_i apart
      have apart : u ≠ s := fun equal => apart ((Slot.same_iff text).mpr equal)
      simp only [List.mem_cons, ih rest, Prod.mk.injEq]
      grind

-- The first slot of a kind is not moved by putting a slot that is there, nor by one behind it.
theorem find?_put (text : s.IsText) (wanted : Slot → Bool) :
    (slots (put s id hs)).find? wanted = (slots hs ++ [s]).find? wanted := by
  by_cases held : s ∈ slots hs
  · rw [slots_put_held text held, List.find?_append]
    cases found : (slots hs).find? wanted with
    | some t => rfl
    | none =>
      have unwanted := List.find?_eq_none.mp found s held
      simp [unwanted]
  · rw [put_new text held, slots_append]
    rfl

theorem mem_of_find (text : s.IsText) (found : find? s hs = some id) : (s, id) ∈ hs := by
  unfold find? at found
  cases got : List.find? (fun h => h.1.same s) hs with
  | none => simp [got] at found
  | some h =>
    obtain ⟨t, n⟩ := h
    have number : n = id := by simpa [got] using found
    have same : t = s := (Slot.same_iff text).mp (by simpa using List.find?_some got)
    rw [← number, ← same]
    exact List.mem_of_find?_eq_some got

theorem notMem_of_find (text : s.IsText) (missing : find? s hs = none) : s ∉ slots hs := by
  intro held
  obtain ⟨id, member⟩ := mem_slots.mp held
  have none : List.find? (fun h => h.1.same s) hs = none := by simpa [find?] using missing
  have other := List.find?_eq_none.mp none (s, id) member
  exact other ((Slot.same_iff text).mpr rfl)

theorem take_none {wanted : Slot → Bool} (missing : take? wanted hs = none) :
    ∀ h ∈ hs, wanted h.1 = false := by
  induction hs with
  | nil => intro h member; cases member
  | cons h hs ih =>
    obtain ⟨t, n⟩ := h
    unfold take? at missing
    split at missing
    · cases missing
    · rename_i unwanted
      have rest : take? wanted hs = none := by simpa using missing
      intro k member
      rcases List.mem_cons.mp member with rfl | later
      · simpa using unwanted
      · exact ih rest k later

theorem take_parts {wanted : Slot → Bool} {rest : Holdings} (taken : take? wanted hs = some (id, rest)) :
    ∃ before t after, hs = before ++ (t, id) :: after ∧ rest = before ++ after ∧ wanted t = true := by
  induction hs generalizing rest with
  | nil => cases taken
  | cons h hs ih =>
    obtain ⟨t, n⟩ := h
    unfold take? at taken
    split at taken
    · rename_i want
      cases Option.some.inj taken
      exact ⟨[], t, hs, rfl, rfl, want⟩
    · cases got : take? wanted hs with
      | none => simp [got] at taken
      | some result =>
        obtain ⟨m, left⟩ := result
        simp only [got, Option.map_some, Option.some.injEq, Prod.mk.injEq] at taken
        obtain ⟨rfl, rfl⟩ := taken
        obtain ⟨before, u, after, split, joined, want⟩ := ih got
        exact ⟨(t, n) :: before, u, after, by rw [split]; rfl, by rw [joined]; rfl, want⟩

-- What is taken out is held for the first slot of the kind.
theorem take_first {wanted : Slot → Bool} {rest : Holdings} (taken : take? wanted hs = some (id, rest)) :
    ∃ t, (slots hs).find? wanted = some t ∧ (t, id) ∈ hs := by
  induction hs generalizing rest with
  | nil => cases taken
  | cons h hs ih =>
    obtain ⟨t, n⟩ := h
    unfold take? at taken
    split at taken
    · rename_i want
      cases Option.some.inj taken
      exact ⟨t, List.find?_cons_of_pos want, List.mem_cons_self ..⟩
    · rename_i unwanted
      obtain ⟨result, got, equal⟩ := Option.map_eq_some_iff.mp taken
      cases equal
      obtain ⟨u, found, held⟩ := ih got
      exact ⟨u, (List.find?_cons_of_neg unwanted).trans found, List.mem_cons_of_mem _ held⟩

-- The holding of the slot itself goes before any other of its name and identifier.
theorem claim_parts {rest : Holdings} (text : s.IsText) (claimed : claim? s hs = some (id, rest)) :
    ∃ before t after, hs = before ++ (t, id) :: after ∧ rest = before ++ after ∧ t.Alike s ∧
      (s ∈ slots hs → t = s) := by
  unfold claim? at claimed
  cases own : take? (fun t => t.same s) hs with
  | some result =>
    simp only [own] at claimed
    cases Option.some.inj claimed
    obtain ⟨before, t, after, split, joined, same⟩ := take_parts own
    obtain rfl := (Slot.same_iff text).mp same
    exact ⟨before, t, after, split, joined, ⟨rfl, rfl⟩, fun _ => rfl⟩
  | none =>
    simp only [own] at claimed
    obtain ⟨before, t, after, split, joined, key⟩ := take_parts claimed
    refine ⟨before, t, after, split, joined, (Slot.sameKey_iff text).mp key, ?_⟩
    intro held
    obtain ⟨n, member⟩ := mem_slots.mp held
    have other := take_none own (s, n) member
    exact absurd ((Slot.same_iff text).mpr rfl) (by simpa using other)

theorem claim_none (text : s.IsText) (missing : claim? s hs = none) : ∀ t ∈ slots hs, ¬ t.Alike s := by
  unfold claim? at missing
  cases own : take? (fun t => t.same s) hs with
  | some result => simp [own] at missing
  | none =>
    simp only [own] at missing
    intro t held alike
    obtain ⟨n, member⟩ := mem_slots.mp held
    have other := take_none missing (t, n) member
    exact absurd ((Slot.sameKey_iff text).mpr alike) (by simpa using other)

theorem claim_first {rest : Holdings} (text : s.IsText) (missing : s ∉ slots hs)
    (claimed : claim? s hs = some (id, rest)) :
    ∃ t, (slots hs).find? (fun t => t.sameKey s) = some t ∧ (t, id) ∈ hs := by
  unfold claim? at claimed
  cases own : take? (fun t => t.same s) hs with
  | some result =>
    obtain ⟨t, found, held⟩ := take_first own
    have same : t = s := (Slot.same_iff text).mp (by simpa using List.find?_some found)
    exact absurd (same ▸ slots_mem held) missing
  | none =>
    simp only [own] at claimed
    exact take_first claimed

end Holdings

-- Each holding is the slot of the record it numbers.
def Holds (records : List Record) (hs : Holdings) : Prop :=
  ∀ h ∈ hs, ∃ r, records[h.2]? = some r ∧ r.slot = h.1

-- The records numbered by `ids` have texts for names and identifiers.
def AllText (records : List Record) (ids : List Nat) : Prop :=
  ∀ id ∈ ids, ∀ r, records[id]? = some r → r.IsText

theorem allText_of {records : List Record} (text : ∀ r ∈ records, r.IsText) (ids : List Nat) :
    AllText records ids :=
  fun _ _ r there => text r (List.mem_of_getElem? there)

theorem pendingOf_holds {records : List Record} (ids : List Nat) (hs : Holdings)
    (text : AllText records ids) (once : hs.slots.Nodup) (holds : Holds records hs) :
    ∃ pending, Ledger.pendingOf records ids hs = .ok pending ∧ pending.slots.Nodup ∧
      Holds records pending ∧ ∀ h ∈ pending, h ∈ hs ∨ h.2 ∈ ids := by
  induction ids generalizing hs with
  | nil => exact ⟨hs, rfl, once, holds, fun _ held => .inl held⟩
  | cons id ids ih =>
    have later : AllText records ids := fun n member => text n (List.mem_cons_of_mem _ member)
    unfold Ledger.pendingOf
    cases there : records[id]? with
    | none =>
      obtain ⟨pending, done, facts, held, drawn⟩ := ih hs later once holds
      exact ⟨pending, done, facts, held, fun h member =>
        (drawn h member).imp_right (List.mem_cons_of_mem _)⟩
    | some r =>
      have slotText : r.slot.IsText := text id (List.mem_cons_self ..) r there
      have accepted : r.canIdentify = true := slotText.canIdentify
      have onceMore : (hs.put r.slot id).slots.Nodup := Holdings.nodup_put slotText once
      -- The later record takes the place of an earlier one of its slot.
      have holdsMore : Holds records (hs.put r.slot id) := by
        rintro ⟨s, n⟩ member
        rcases (Holdings.mem_put_iff slotText once).mp member with ⟨rfl, rfl⟩ | ⟨_, old⟩
        · exact ⟨r, there, rfl⟩
        · exact holds _ old
      obtain ⟨pending, done, facts, held, drawn⟩ := ih _ later onceMore holdsMore
      refine ⟨pending, by simpa [accepted] using done, facts, held, ?_⟩
      rintro ⟨s, n⟩ member
      cases drawn _ member with
      | inl put =>
        rcases (Holdings.mem_put_iff slotText once).mp put with ⟨rfl, rfl⟩ | ⟨_, old⟩
        · exact .inr (List.mem_cons_self ..)
        · exact .inl old
      | inr listed => exact .inr (List.mem_cons_of_mem _ listed)

end DnsSteering
