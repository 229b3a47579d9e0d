import DnsSteering.Proofs.Ledger.Openings
import DnsSteering.Proofs.Synthesis.Bystanders
import DnsSteering.Proofs.Synthesis.Faults
import DnsSteering.Proofs.Synthesis.Refusals

namespace DnsSteering

theorem First.listed {α : Type} {reasons : List (Prop × α)} {a : α} (first : First reasons a) :
    ∃ condition : Prop, (condition, a) ∈ reasons := by
  induction first with
  | here _ => exact ⟨_, List.mem_cons_self ..⟩
  | later _ _ ih =>
    obtain ⟨condition, listed⟩ := ih
    exact ⟨condition, List.mem_cons_of_mem _ listed⟩

namespace Synthesis

section Foreign

variable {g : Gateway} {hostname : Option LooseText} {p : Policy} {records : List Record}
  {current : Option (List Nat)}

theorem laterReasons_refusal {f : Fault} (first : First (laterReasons current p) f) :
    f.isRefusal = true := by
  obtain ⟨condition, listed⟩ := first.listed
  rcases List.mem_cons.mp listed with missing | listed
  · cases missing
    rfl
  · rcases List.mem_append.mp listed with flawed | unknown
    · obtain ⟨flaw, _, made⟩ := List.mem_map.mp flawed
      cases made
      rfl
    · cases List.mem_singleton.mp unknown
      rfl

-- What fails on the way: the hostname, or a record among those that are read once all else is in order, or
-- behind all that a text cannot be hashed.
inductive Foreign (g : Gateway) (hostname : Option LooseText) (p : Policy) (records : List Record)
    (current : Option (List Nat)) : Fault → Prop where
  | unread {h : LooseText} {e : NameFault} (given : hostname = some h)
      (unread : Name.read h.mended = .error e) : Foreign g hostname p records current (.name e)
  | unidentified {base : String} {ids : List Nat} {id : Nat} {r : Record}
      (left : listenerBase (listener hostname) = .ok base) (clear : p.refusal? = none)
      (given : current = some ids) (listed : id ∈ ids) (there : records[id]? = some r)
      (strange : r.canIdentify = false) : Foreign g hostname p records current .wrongKind
  | uncoded {base : String} {ids : List Nat} {f : Fault}
      (left : listenerBase (listener hostname) = .ok base) (clear : p.refusal? = none)
      (given : current = some ids)
      (identified : ∀ id ∈ ids, ∀ r, records[id]? = some r → r.canIdentify = true)
      (first : First (codeReasons p g) f) : Foreign g hostname p records current f

theorem codeReasons_balanced {f : Fault} (first : First (codeReasons p g) f) :
    p.strategy = .str "loadbalanced" := by
  by_contra other
  exact first.notClear (codeReasons_clear fun holds => other holds.1)

theorem codeReasons_encoding {f : Fault} (first : First (codeReasons p g) f) : f.IsEncoding := by
  obtain ⟨condition, listed⟩ := first.listed
  obtain ⟨t, _, made⟩ := List.mem_filterMap.mp listed
  split at made
  · cases made
  · cases made
    exact ⟨_, rfl⟩

theorem Foreign.not_refusal {f : Fault} (foreign : Foreign g hostname p records current f) :
    f.isRefusal = false := by
  cases foreign with
  | unread | unidentified => rfl
  | uncoded _ _ _ _ first =>
    obtain ⟨e, rfl⟩ := codeReasons_encoding first
    rfl

theorem listenerBase_unread {h : LooseText} {e : NameFault} (unread : Name.read h.mended = .error e) :
    listenerBase (listener (some h)) = .error (.name e) := by
  have some : h ≠ "" := by
    intro empty
    have root : Name.read "" = .ok Name.root := by decide +kernel
    rw [empty, LooseText.mended_plain, root] at unread
    cases unread
  simp [listener, listenerBase, Json.truthy, some, Hostname.base, Name.ofJson, unread]

-- A hostname leaves nothing only if it is missing or if it cannot be read.
theorem listenerBase_failed {f : Fault} (failed : listenerBase (listener hostname) = .error f) :
    f = .hostnameMissing ∨ ∃ h e, hostname = some h ∧ Name.read h.mended = .error e ∧ f = .name e := by
  by_cases readable : ∀ h, hostname = some h → ∃ name, Name.read h.mended = .ok name
  · rcases listenerBase_hostless readable with ⟨_, missing⟩ | ⟨_, base, left⟩
    · exact .inl (Except.error.inj (failed.symm.trans missing))
    · cases failed.symm.trans left
  · obtain ⟨h, unreadable⟩ := not_forall.mp readable
    obtain ⟨given, unnamed⟩ := Classical.not_imp.mp unreadable
    cases read : Name.read h.mended with
    | ok name => exact absurd ⟨name, read⟩ unnamed
    | error e =>
      rw [given, listenerBase_unread read] at failed
      exact .inr ⟨h, e, given, read, (Except.error.inj failed).symm⟩

-- Records that can all be identified leave nothing to fail but what is asked of the input.
theorem identified_reported {base : String} {ids : List Nat} (labels : TextLabels g.labels)
    (typed : p.Typed) (left : listenerBase (listener hostname) = .ok base)
    (identified : ∀ id ∈ ids, ∀ r, records[id]? = some r → r.canIdentify = true) : ∃ texts found,
    Decides (laterReasons (some texts) p ++ codeReasons p g) found ∧
      Reported records (publish g (listener hostname) p records (some ids)) found := by
  obtain ⟨start, opened⟩ := Ledger.opening_identified identified
  rw [publish_textual labels opened]
  have text : ∀ ids', some (ids.filter (Ledger.standsText records)) = some ids' →
      AllText records ids' := by
    intro ids' given
    cases given
    exact filter_allText records ids
  exact ⟨_, publish_reported labels typed text left⟩

theorem unidentified_refused {base : String} {ids : List Nat} {id : Nat} {r : Record}
    (left : listenerBase (listener hostname) = .ok base) (clear : p.refusal? = none) (listed : id ∈ ids)
    (there : records[id]? = some r) (strange : r.canIdentify = false) :
    (publish g (listener hostname) p records (some ids)).published = .error .wrongKind := by
  have unopened : Ledger.opening records ids = .error .wrongKind := by
    refine Ledger.opening_refused fun identified => ?_
    rw [identified id listed r there] at strange
    cases strange
  simp [publish, left, clear, unopened]

-- Once a policy is accepted, only current records and what is hashed are left to fail.
theorem accepted_foreign {base : String} {ids : List Nat} {f : Fault} (labels : TextLabels g.labels)
    (typed : p.Typed) (left : listenerBase (listener hostname) = .ok base) (clear : p.refusal? = none)
    (failed : (publish g (listener hostname) p records (some ids)).published = .error f)
    (other : f.isRefusal = false) : Foreign g hostname p records (some ids) f := by
  by_cases identified : ∀ id ∈ ids, ∀ r, records[id]? = some r → r.canIdentify = true
  · obtain ⟨texts, found, decides, reported⟩ := identified_reported labels typed left identified
    rw [reported.error_iff.mp failed] at decides
    rcases decides.of_append with refusal | ⟨_, uncoded⟩
    · rw [laterReasons_refusal refusal] at other
      cases other
    · exact .uncoded left clear rfl identified uncoded
  · simp only [not_forall] at identified
    obtain ⟨id, listed, r, there, strange⟩ := identified
    have strange : r.canIdentify = false := by simpa using strange
    have kind := unidentified_refused (g := g) left clear listed there strange
    cases Except.error.inj (failed.symm.trans kind)
    exact .unidentified left clear rfl listed there strange

theorem Foreign.fails {f : Fault} (labels : TextLabels g.labels) (typed : p.Typed)
    (foreign : Foreign g hostname p records current f) :
    (publish g (listener hostname) p records current).published = .error f := by
  cases foreign with
  | unread given unread => simp [publish, given, listenerBase_unread unread]
  | unidentified left clear given listed there strange =>
    rw [given]
    exact unidentified_refused left clear listed there strange
  | uncoded left clear given identified first =>
    rw [given]
    obtain ⟨texts, found, decides, reported⟩ := identified_reported labels typed left identified
    have asked : Clear (laterReasons (some texts) p) :=
      laterReasons_clear typed clear (.inr (codeReasons_balanced first))
    exact reported.error_iff.mpr (decides.some_iff.mpr (First.behind asked first))

-- A publication fails with something else than a refusal exactly where the hostname is no domain name, or
-- where all that is asked of the input is in order and a current record cannot be identified or a text
-- cannot be hashed.
theorem publish_foreign (labels : TextLabels g.labels) (typed : p.Typed) (f : Fault) :
    ((publish g (listener hostname) p records current).published = .error f ∧ f.isRefusal = false) ↔
      Foreign g hostname p records current f := by
  constructor
  · intro given
    obtain ⟨failed, other⟩ := given
    have refused : ∀ f', (publish g (listener hostname) p records current).published = .error f' →
        f'.isRefusal = false := by
      intro f' failed'
      cases failed.symm.trans failed'
      exact other
    cases left : listenerBase (listener hostname) with
    | error f' =>
      have same : f' = f := by simpa [publish, left] using failed
      rcases listenerBase_failed left with missing | ⟨h, e, some, unread, named⟩
      · rw [← same, missing] at other
        cases other
      · rw [← same, named]
        exact .unread some unread
    | ok base =>
      cases current with
      | none => cases refused .currentMissing (by simp [publish, left])
      | some ids =>
        cases clear : p.refusal? with
        | some flaw => cases refused (.policy flaw) (by simp [publish, left, clear])
        | none => exact accepted_foreign labels typed left clear failed other
  · intro foreign
    exact ⟨foreign.fails labels typed, foreign.not_refusal⟩

theorem unread_foreign : TextLabels ireland.labels ∧ weightless.Typed ∧
    (publish ireland (listener (some "a..b")) weightless misplaced (some [0])).published =
      .error (.name .emptyLabel) := by
  have unread : Name.read "a..b" = .error .emptyLabel := by decide +kernel
  have foreign : Foreign ireland (some "a..b") weightless misplaced (some [0]) (.name .emptyLabel) :=
    .unread rfl unread
  exact ⟨ireland_labels, weightless_typed,
    ((publish_foreign ireland_labels weightless_typed _).mpr foreign).1⟩

-- An empty label is a fault of the hostname, and it is reported as none of the refusals.
theorem unread_unrefused :
    (publish ireland (listener (some "a..b")) spread [] (some [])).published = .error (.name .emptyLabel) ∧
    ¬ ∀ g hostname p records current f, TextLabels g.labels → Policy.Typed p →
      (publish g (listener hostname) p records current).published = .error f → f.isRefusal = true := by
  have failed : (publish ireland (listener (some "a..b")) spread [] (some [])).published =
      .error (.name .emptyLabel) := by decide +kernel
  refine ⟨failed, fun refused => ?_⟩
  have refusal := refused ireland (some "a..b") spread [] (some []) _ ireland_labels spread_typed failed
  cases refusal

end Foreign

end Synthesis
end DnsSteering
