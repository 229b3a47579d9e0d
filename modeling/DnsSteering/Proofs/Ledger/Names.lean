import DnsSteering.Proofs.Ledger.Answers
import DnsSteering.Proofs.Records.Exchange

namespace DnsSteering

-- If one is a text, the other is that text.
def Json.Namesake (v w : Json) : Prop := ∀ s, v = .str s ↔ w = .str s

theorem Json.same_namesake {v w : Json} (same : v.same w = true) : v.Namesake w := by
  intro s
  constructor
  · rintro rfl
    exact Json.str_same.mp same
  · rintro rfl
    exact Json.same_str.mp same

theorem Json.Namesake.symm {v w : Json} (namesake : v.Namesake w) : w.Namesake v :=
  fun s => (namesake s).symm

theorem Json.Namesake.trans {u v w : Json} (one : u.Namesake v) (two : v.Namesake w) : u.Namesake w :=
  fun s => (one s).trans (two s)

theorem Json.Namesake.eq {v w : Json} (namesake : v.Namesake w) (text : w.IsText) : v = w := by
  obtain ⟨s, rfl⟩ := text
  exact (namesake s).mpr rfl

theorem Slot.sameKey_name {s t : Slot} (same : t.sameKey s = true) : t.name.Namesake s.name := by
  simp only [sameKey, Bool.and_eq_true] at same
  exact Json.same_namesake same.1

theorem Slot.same_type {s t : Slot} (same : t.same s = true) : t.name.Namesake s.name ∧ t.type = s.type := by
  simp only [Slot.same, Bool.and_eq_true, decide_eq_true_eq] at same
  exact ⟨sameKey_name same.1, same.2⟩

namespace Holdings

variable {s : Slot} {id : Nat} {hs : Holdings}

def ids (hs : Holdings) : List Nat := hs.map (·.2)

theorem find?_cons (s t : Slot) (old : Nat) (hs : Holdings) :
    find? s ((t, old) :: hs) = if t.same s then some old else find? s hs := by
  unfold find?
  by_cases same : t.same s = true
  · rw [if_pos same, List.find?_cons_of_pos (p := fun h : Slot × Nat => h.1.same s) same]
    rfl
  · rw [if_neg same, List.find?_cons_of_neg (p := fun h : Slot × Nat => h.1.same s) same]

theorem put_found (found : find? s hs = some id) :
    put s id hs = hs ∧ ∃ t, (t, id) ∈ hs ∧ t.same s = true := by
  induction hs with
  | nil => cases found
  | cons h hs ih =>
    obtain ⟨t, old⟩ := h
    rw [find?_cons] at found
    unfold put
    split at found
    · rename_i same
      cases Option.some.inj found
      exact ⟨by rw [if_pos same], t, List.mem_cons_self .., same⟩
    · rename_i other
      obtain ⟨kept, u, held, same⟩ := ih found
      exact ⟨by rw [if_neg other, kept], u, List.mem_cons_of_mem _ held, same⟩

theorem put_unfound (missing : find? s hs = none) : put s id hs = hs ++ [(s, id)] := by
  induction hs with
  | nil => rfl
  | cons h hs ih =>
    obtain ⟨t, old⟩ := h
    rw [find?_cons] at missing
    unfold put
    split at missing
    · cases missing
    · rename_i other
      rw [if_neg other, ih missing, List.cons_append]

theorem claim_taken {rest : Holdings} (claimed : claim? s hs = some (id, rest)) :
    ∃ before t after, hs = before ++ (t, id) :: after ∧ rest = before ++ after ∧ t.sameKey s = true := by
  unfold claim? at claimed
  split at claimed
  · rename_i own
    cases Option.some.inj claimed
    obtain ⟨before, t, after, split, joined, same⟩ := take_parts own
    simp only [Slot.same, Bool.and_eq_true] at same
    exact ⟨before, t, after, split, joined, same.1⟩
  · exact take_parts claimed

-- What is put is held for the slot itself or for one that is the same.
theorem mem_put {h : Slot × Nat} (held : h ∈ put s id hs) :
    h ∈ hs ∨ (h.2 = id ∧ h.1.name.Namesake s.name ∧ h.1.type = s.type) := by
  induction hs with
  | nil =>
    rw [put, List.mem_singleton] at held
    rw [held]
    exact .inr ⟨rfl, fun _ => Iff.rfl, rfl⟩
  | cons k hs ih =>
    obtain ⟨t, old⟩ := k
    unfold put at held
    split at held
    · rename_i same
      rcases List.mem_cons.mp held with rfl | later
      · exact .inr ⟨rfl, Slot.same_type same⟩
      · exact .inl (List.mem_cons_of_mem _ later)
    · rcases List.mem_cons.mp held with rfl | later
      · exact .inl (List.mem_cons_self ..)
      · exact (ih later).imp_left (List.mem_cons_of_mem _)

theorem nodup_ids_put (once : hs.ids.Nodup) (new : id ∉ hs.ids) : (put s id hs).ids.Nodup := by
  have drawn : ∀ {ks : Holdings} {n : Nat}, n ∈ (put s id ks).ids → n = id ∨ n ∈ ks.ids := by
    intro ks n listed
    obtain ⟨h, held, rfl⟩ := List.mem_map.mp listed
    exact (mem_put held).elim (fun old => .inr (List.mem_map_of_mem old)) fun put => .inl put.1
  induction hs with
  | nil => exact List.nodup_singleton _
  | cons k hs ih =>
    obtain ⟨t, old⟩ := k
    obtain ⟨first, rest⟩ := List.nodup_cons.mp once
    simp only [ids, List.map_cons, List.mem_cons, not_or] at new
    unfold put
    split
    · exact List.nodup_cons.mpr ⟨new.2, rest⟩
    · refine List.nodup_cons.mpr ⟨fun listed => ?_, ih rest new.2⟩
      exact (drawn listed).elim (fun same => new.1 same.symm) first

end Holdings

namespace Ledger

def held (l : Ledger) : Holdings := l.emitted ++ l.pending

-- No record is held twice, and each is held under its name and with its type.
structure Named (l : Ledger) : Prop where
  once : l.held.ids.Nodup
  there : ∀ h ∈ l.held, ∃ r, l.records[h.2]? = some r ∧ r.name.Namesake h.1.name ∧ r.type = h.1.type

-- How a request is answered where something is the same as its slot.
inductive Served (l : Ledger) (q : Request) : Ledger → Nat → Prop where
  | again {t : Slot} {id : Nat} {r : Record} (given : (t, id) ∈ l.emitted)
      (same : t.same q.slot = true) (there : l.records[id]? = some r) :
      Served l q { l with records := l.records.set id (q.renew r) } id
  | claimed {t : Slot} {id : Nat} {r : Record} {before rest : Holdings}
      (split : l.pending = before ++ (t, id) :: rest) (same : t.sameKey q.slot = true)
      (there : l.records[id]? = some r) :
      Served l q ⟨l.records.set id (q.renew r), before ++ rest, l.emitted ++ [(q.slot, id)]⟩ id
  | made {r : Record} (name : r.name = q.name) (type : r.type = q.type) :
      Served l q ⟨l.records ++ [r], l.pending, l.emitted ++ [(q.slot, l.records.length)]⟩
        l.records.length

section Served

variable {l after : Ledger} {q : Request} {id : Nat}

theorem reuse_served {r : Record} {n : Nat} (there : l.records[id]? = some r)
    (done : l.reuse id q = (after, .ok n)) :
    n = id ∧ after = ({ l with records := l.records.set id (q.renew r) } : Ledger).emit q.slot id := by
  unfold reuse renew Record.update Json.itemList at done
  rw [there] at done
  cases listed : q.targets.items? with
  | none => simp [listed] at done
  | some items =>
    simp only [listed, Prod.mk.injEq, Except.ok.injEq] at done
    obtain ⟨rfl, rfl⟩ := done
    simp [Request.renew, Request.items, listed]

theorem put_served (named : l.Named) (done : l.put q = (after, .ok id)) : l.Served q after id := by
  unfold put at done
  split at done
  · cases done
  · split at done
    · rename_i n found
      obtain ⟨kept, t, given, same⟩ := Holdings.put_found found
      obtain ⟨r, there, _⟩ := named.there _ (List.mem_append_left _ given)
      obtain ⟨rfl, rfl⟩ := reuse_served there done
      unfold emit
      rw [kept]
      exact .again given same there
    · rename_i missing
      split at done
      · rename_i n rest claim
        obtain ⟨before, t, behind, split, joined, same⟩ := Holdings.claim_taken claim
        have waiting : (t, n) ∈ l.held := by
          rw [held, split]
          simp
        obtain ⟨r, there, _⟩ := named.there _ waiting
        obtain ⟨rfl, rfl⟩ := reuse_served (l := { l with pending := rest }) there done
        unfold emit
        rw [Holdings.put_unfound missing, joined]
        exact .claimed split same there
      · unfold create at done
        split at done
        · cases done
        · rename_i r made
          cases done
          obtain ⟨listed, marks, labelled, _, _, _, rfl⟩ := Record.make_ok made
          unfold emit
          rw [Holdings.put_unfound missing]
          exact .made rfl rfl

section Requested

variable (served : l.Served q after id)

include served

theorem Served.once (named : l.Named) : after.held.ids.Nodup := by
  have once := named.once
  cases served with
  | again given same there => exact once
  | @claimed t _ r before rest split same there =>
    unfold held Holdings.ids at once ⊢
    simp only [split, List.map_append, List.map_cons, List.map_nil] at once ⊢
    rw [List.append_assoc, List.singleton_append]
    refine (List.perm_middle.symm.append_left _).nodup_iff.mpr ?_
    exact once
  | made name type =>
    unfold held Holdings.ids at once ⊢
    simp only [List.map_append, List.map_cons, List.map_nil] at once ⊢
    rw [List.append_assoc, List.singleton_append]
    refine List.nodup_middle.mpr (List.nodup_cons.mpr ⟨?_, once⟩)
    intro listed
    rw [← List.map_append] at listed
    obtain ⟨h, member, number⟩ := List.mem_map.mp listed
    obtain ⟨r, there, _⟩ := named.there h member
    have bound := (List.getElem?_eq_some_iff.mp there).1
    omega

theorem Served.holding (text : q.name.IsText) :
    ∃ t, (t, id) ∈ after.emitted ∧ t.name = q.name ∧ t.type = q.type := by
  cases served with
  | again given same there =>
    obtain ⟨name, type⟩ := Slot.same_type same
    exact ⟨_, given, name.eq text, type⟩
  | claimed split same there => exact ⟨q.slot, by simp, rfl, rfl⟩
  | made name type => exact ⟨q.slot, by simp, rfl, rfl⟩

-- The record of the answer is the one that was requested.
theorem Served.record (named : l.Named) (text : q.name.IsText) :
    ∃ r, after.records[id]? = some r ∧ r.name = q.name ∧ r.type = q.type := by
  cases served with
  | @again t _ r given same there =>
    obtain ⟨r', there', name, _⟩ := named.there _ (List.mem_append_left _ given)
    cases Option.some.inj (there'.symm.trans there)
    have bound := (List.getElem?_eq_some_iff.mp there).1
    exact ⟨q.renew r, by simp [bound], (name.trans (Slot.same_type same).1).eq text, rfl⟩
  | @claimed t _ r before rest split same there =>
    have waiting : (t, id) ∈ l.held := by
      rw [held, split]
      simp
    obtain ⟨r', there', name, _⟩ := named.there _ waiting
    cases Option.some.inj (there'.symm.trans there)
    have bound := (List.getElem?_eq_some_iff.mp there).1
    exact ⟨q.renew r, by simp [bound], (name.trans (Slot.sameKey_name same)).eq text, rfl⟩
  | @made r name type => exact ⟨r, by simp, name, type⟩

-- All others are held as before, and stay as they are.
theorem Served.others (named : l.Named) {h : Slot × Nat} (member : h ∈ after.held) (other : h.2 ≠ id) :
    h ∈ l.held ∧ (h ∈ after.emitted → h ∈ l.emitted) ∧ after.records[h.2]? = l.records[h.2]? := by
  have emitted : ∀ {k : Slot × Nat} {n : Nat}, k ∈ l.emitted ++ [(q.slot, n)] → k.2 ≠ n → k ∈ l.emitted := by
    intro k n listed apart
    rcases List.mem_append.mp listed with old | new
    · exact old
    · exact absurd (congrArg Prod.snd (List.mem_singleton.mp new)) apart
  cases served with
  | again given same there => exact ⟨member, fun given => given, List.getElem?_set_ne (Ne.symm other)⟩
  | claimed split same there =>
    refine ⟨?_, fun given => emitted given other, List.getElem?_set_ne (Ne.symm other)⟩
    rcases List.mem_append.mp member with given | waiting
    · exact List.mem_append_left _ (emitted given other)
    · refine List.mem_append_right _ ?_
      rw [split]
      rcases List.mem_append.mp waiting with front | back
      · exact List.mem_append_left _ front
      · exact List.mem_append_right _ (List.mem_cons_of_mem _ back)
  | made name type =>
    have old : h ∈ l.held := by
      rcases List.mem_append.mp member with given | waiting
      · exact List.mem_append_left _ (emitted given other)
      · exact List.mem_append_right _ waiting
    obtain ⟨r, there, _⟩ := named.there h old
    refine ⟨old, fun given => emitted given other, ?_⟩
    exact List.getElem?_append_left (List.getElem?_eq_some_iff.mp there).1

theorem Served.named (named : l.Named) (text : q.name.IsText) : after.Named := by
  have once := served.once named
  refine ⟨once, fun h member => ?_⟩
  by_cases here : h.2 = id
  · obtain ⟨t, given, name, type⟩ := served.holding text
    obtain ⟨r, there, called, typed⟩ := served.record named text
    have same : h = (t, id) :=
      List.inj_on_of_nodup_map once member (List.mem_append_left _ given) here
    rw [same]
    exact ⟨r, there, by rw [called, name]; exact fun _ => Iff.rfl, typed.trans type.symm⟩
  · obtain ⟨old, _, kept⟩ := served.others named member here
    rw [kept]
    exact named.there h old

end Requested

-- What is given out under a name and with a type has a value under a key.
def Carries (l : Ledger) (name : Json) (type : RecordType) (key value : Json) : Prop :=
  ∀ h ∈ l.emitted, h.1.name = name → h.1.type = type →
    ∃ r, l.records[h.2]? = some r ∧ Entries.value? key r.attributes = some value

theorem Named.replace {r r' : Record} (named : l.Named) (there : l.records[id]? = some r)
    (name : r'.name = r.name) (type : r'.type = r.type) :
    Named { l with records := l.records.set id r' } := by
  have bound := (List.getElem?_eq_some_iff.mp there).1
  refine ⟨named.once, fun h member => ?_⟩
  obtain ⟨was, found, called, typed⟩ := named.there h member
  by_cases here : h.2 = id
  · rw [here] at found ⊢
    cases Option.some.inj (found.symm.trans there)
    exact ⟨r', by simp [bound], by rw [name]; exact called, type.trans typed⟩
  · exact ⟨was, (List.getElem?_set_ne (Ne.symm here)).trans found, called, typed⟩

-- A request of the name and the type leaves the value, any other leaves those records alone.
theorem Served.carries {name key value : Json} {type : RecordType} {r' : Record} (named : l.Named)
    (text : q.name.IsText) (served : l.Served q after id) (carries : l.Carries name type key value)
    (marked : q.name = name → q.type = type → Entries.value? key r'.attributes = some value) :
    Carries { after with records := after.records.set id r' } name type key value := by
  obtain ⟨t, given, called, typed⟩ := served.holding text
  obtain ⟨r, there, _⟩ := served.record named text
  have bound := (List.getElem?_eq_some_iff.mp there).1
  intro h member name' type'
  by_cases here : h.2 = id
  · have same : h = (t, id) := List.inj_on_of_nodup_map (served.once named)
      (List.mem_append_left _ member) (List.mem_append_left _ given) here
    rw [same] at name' type'
    exact ⟨r', by rw [here]; simp [bound], marked (called ▸ name') (typed ▸ type')⟩
  · obtain ⟨_, emitted, kept⟩ := served.others named (List.mem_append_left _ member) here
    obtain ⟨was, found, stands⟩ := carries h (emitted member) name' type'
    exact ⟨was, (List.getElem?_set_ne (Ne.symm here)).trans (kept.trans found), stands⟩

end Served

theorem pendingOf_named {records : List Record} {ids : List Nat} {hs pending : Holdings}
    (once : (hs.ids ++ ids).Nodup)
    (there : ∀ h ∈ hs, ∃ r, records[h.2]? = some r ∧ r.name.Namesake h.1.name ∧ r.type = h.1.type)
    (done : pendingOf records ids hs = .ok pending) : Named ⟨records, pending, []⟩ := by
  induction ids generalizing hs with
  | nil =>
    cases Except.ok.inj done
    exact ⟨by simpa [held] using once, there⟩
  | cons id ids ih =>
    unfold pendingOf at done
    have less : (hs.ids ++ ids).Nodup := (List.nodup_middle.mp once).of_cons
    split at done
    · exact ih less there done
    · rename_i r found
      split at done
      · refine ih ?_ ?_ done
        · -- A number that is put was not there before, so no record is held twice.
          obtain ⟨new, _⟩ := List.nodup_cons.mp (List.nodup_middle.mp once)
          rw [List.mem_append, not_or] at new
          refine (Holdings.nodup_ids_put less.of_append_left new.1).append less.of_append_right ?_
          intro n put listed
          obtain ⟨h, held, rfl⟩ := List.mem_map.mp put
          rcases Holdings.mem_put held with old | ⟨same, _⟩
          · exact List.disjoint_of_nodup_append less (List.mem_map_of_mem old) listed
          · exact new.2 (same ▸ listed)
        · intro h held
          rcases Holdings.mem_put held with old | ⟨same, name, type⟩
          · exact there h old
          · exact ⟨r, same ▸ found, name.symm, type.symm⟩
      · cases done

theorem opening_named {records : List Record} {current : List Nat} {start : Ledger}
    (once : current.Nodup) (opened : opening records current = .ok start) :
    start.Named ∧ start.emitted = [] := by
  obtain ⟨pending, done, rfl⟩ := ok_of_map opened
  have none : (Holdings.ids [] ++ current).Nodup := once
  exact ⟨pendingOf_named none (by simp) done, rfl⟩

end Ledger
end DnsSteering
