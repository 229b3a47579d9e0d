import DnsSteering.Proofs.Texts
import DnsSteering.Config

namespace DnsSteering.Config

section Faults

variable {α β : Type} {isReason : Fault → Bool}

-- Every fault is a reason to refuse.
def Contained (isReason : Fault → Bool) (x : Except Fault α) : Prop :=
  ∀ f, x = .error f → isReason f = true

def BreaksOff (isReason : Fault → Bool) (x : Except Fault α) (f : Fault) : Prop :=
  x = .error f ∧ isReason f = false

theorem contained_ok {x : Except Fault α} {a : α} (done : x = .ok a) : Contained isReason x := by
  intro f failed
  cases done.symm.trans failed

theorem contained_error {e : Fault} (reason : isReason e = true) :
    Contained isReason (.error e : Except Fault α) := by
  intro f failed
  cases failed
  exact reason

theorem Contained.whole {x : Except Fault α} (contained : Contained isReason x) {f : Fault} :
    ¬ BreaksOff isReason x f := by
  intro broken
  have reason := contained f broken.1
  rw [broken.2] at reason
  cases reason

theorem Contained.map {x : Except Fault α} (contained : Contained isReason x) (g : α → β) :
    Contained isReason (x.map g) := by
  cases x with
  | ok a => exact contained_ok rfl
  | error e => exact contained_error (contained e rfl)

theorem Contained.bind {x : Except Fault α} {g : α → Except Fault β} (first : Contained isReason x)
    (rest : ∀ a, x = .ok a → Contained isReason (g a)) : Contained isReason (x >>= g) := by
  cases x with
  | ok a => exact rest a rfl
  | error e => exact contained_error (first e rfl)

theorem breaksOff_bind {x : Except Fault α} {g : α → Except Fault β} {f : Fault} :
    BreaksOff isReason (x >>= g) f ↔
      BreaksOff isReason x f ∨ ∃ a, x = .ok a ∧ BreaksOff isReason (g a) f := by
  cases x <;> simp [BreaksOff, Bind.bind, Except.bind]

-- A value of a kind, with everything before it readable.
def Foremost (read : Json → Except Fault α) (kind : Json → Prop) (vs : List Json) : Prop :=
  ∃ before v after, vs = before ++ v :: after ∧ (∀ u ∈ before, ∃ a, read u = .ok a) ∧ kind v

theorem foremost_and {read : Json → Except Fault α} {p : Prop} {kind : Json → Prop} {vs : List Json} :
    Foremost read (fun v => p ∧ kind v) vs ↔ p ∧ Foremost read kind vs := by
  constructor
  · rintro ⟨before, v, after, split, readable, holds, stray⟩
    exact ⟨holds, before, v, after, split, readable, stray⟩
  · rintro ⟨holds, before, v, after, split, readable, stray⟩
    exact ⟨before, v, after, split, readable, holds, stray⟩

theorem foremost_or {read : Json → Except Fault α} {one two : Json → Prop} {vs : List Json} :
    Foremost read (fun v => one v ∨ two v) vs ↔ Foremost read one vs ∨ Foremost read two vs := by
  constructor
  · rintro ⟨before, v, after, split, readable, first | second⟩
    · exact .inl ⟨before, v, after, split, readable, first⟩
    · exact .inr ⟨before, v, after, split, readable, second⟩
  · rintro (⟨before, v, after, split, readable, first⟩ | ⟨before, v, after, split, readable, second⟩)
    · exact ⟨before, v, after, split, readable, .inl first⟩
    · exact ⟨before, v, after, split, readable, .inr second⟩

-- The first value that cannot be read decides.
theorem readAll_breaksOff {read : Json → Except Fault α} {vs : List Json} {f : Fault} :
    BreaksOff isReason (readAll read vs) f ↔
      Foremost read (fun v => BreaksOff isReason (read v) f) vs := by
  induction vs with
  | nil => simp [Foremost, readAll, BreaksOff]
  | cons w vs ih =>
    unfold Foremost at ih ⊢
    rw [stops_cons, ← ih]
    cases here : read w with
    | error e => simp [BreaksOff, readAll, here]
    | ok a => cases rest : readAll read vs <;> simp [BreaksOff, readAll, here, rest, Except.map]

end Faults

section Values

theorem member_ok {key : LooseText} {v w : Json} :
    member key v = .ok w ↔ ∃ fields, v = .obj fields ∧ Json.field? key fields = some w := by
  cases v with
  | obj fields => cases found : Json.field? key fields <;> simp [member, found]
  | _ => simp [member]

theorem member_contained {isReason : Fault → Bool} (missing : ∀ s, isReason (.keyMissing s) = true)
    (kind : isReason .wrongKind = true) (key : LooseText) (v : Json) :
    Contained isReason (member key v) := by
  unfold member
  split
  · split
    · exact contained_ok rfl
    · exact contained_error (missing _)
  · exact contained_error kind

-- What is no whole number is of the wrong kind or value, or infinite.
theorem wholeNumber_breaksOff {isReason : Fault → Bool} (value : ∀ v, isReason (.value v) = true)
    (kind : isReason .wrongKind = true) (infinite : isReason .integerInfinite = false) {v : Json}
    {f : Fault} : BreaksOff isReason v.wholeNumber f ↔
      f = .integerInfinite ∧ ∃ negative, v = .float (.infinite negative) := by
  constructor
  · intro broken
    obtain ⟨failed, stray⟩ := broken
    unfold Json.wholeNumber at failed
    split at failed
    · cases failed
    · cases failed
    · split at failed
      · cases failed
        rw [value] at stray
        cases stray
      · cases failed
        exact ⟨rfl, _, rfl⟩
      · cases failed
    · split at failed
      · cases failed
      · cases failed
        rw [value] at stray
        cases stray
    · cases failed
      rw [kind] at stray
      cases stray
  · intro endless
    obtain ⟨rfl, negative, rfl⟩ := endless
    exact ⟨rfl, infinite⟩

-- A hostname that is there and is no text.
def StrayAddress (v : Json) : Prop :=
  ∃ fields value, v = .obj fields ∧ Json.field? "type" fields = some (.str "Hostname") ∧
    Json.field? "value" fields = some value ∧ value.truthy = true ∧ ¬ value.IsText

theorem kind_hostname {kind : Json} :
    AddressKind.ofJson? kind = some .hostname ↔ kind = .str "Hostname" := by
  constructor
  · intro known
    unfold AddressKind.ofJson? at known
    split at known
    · split at known
      · cases known
      · split at known
        · rename_i named
          rw [named]
        · cases known
    · cases known
  · rintro rfl
    decide

theorem hostname_check {value : Json} (other : ¬ value.IsText) :
    Hostname.check false value =
      if value.truthy then .error .noMember else .ok (some "It cannot be empty") := by
  cases value with
  | str s => exact absurd ⟨s, rfl⟩ other
  | _ => rfl

theorem ofText_contained (kind : AddressKind) (t : LooseText) :
    Contained isAddressReason (Address.ofText kind t) := by
  unfold Address.ofText
  split
  · exact contained_ok rfl
  · cases kind with
    | ip => exact contained_error rfl
    | hostname => exact contained_error rfl

theorem ofJson_breaksOff {kind value : Json} {f : Fault} :
    BreaksOff isAddressReason (Address.ofJson kind value) f ↔
      f = .noMember ∧ kind = .str "Hostname" ∧ value.truthy = true ∧ ¬ value.IsText := by
  constructor
  · intro broken
    have failed := broken.1
    have stray := broken.2
    unfold Address.ofJson at failed
    cases known : AddressKind.ofJson? kind with
    | none =>
      simp only [known] at failed
      cases failed
      cases stray
    | some k =>
      simp only [known] at failed
      split at failed
      · exact absurd ⟨failed, stray⟩ (ofText_contained k _).whole
      · rename_i w noText
        have other : ¬ value.IsText := fun text => by
          obtain ⟨s, rfl⟩ := text
          exact noText s rfl
        cases k with
        | ip =>
          cases failed
          cases stray
        | hostname =>
          simp only [hostname_check other] at failed
          by_cases truthy : value.truthy = true
          · rw [if_pos truthy] at failed
            cases failed
            exact ⟨rfl, kind_hostname.mp known, truthy, other⟩
          · rw [if_neg truthy] at failed
            cases failed
            cases stray
  · intro broken
    obtain ⟨rfl, rfl, truthy, other⟩ := broken
    have known : AddressKind.ofJson? (.str "Hostname") = some .hostname := kind_hostname.mpr rfl
    refine ⟨?_, rfl⟩
    unfold Address.ofJson
    simp only [known]
    split
    · exact absurd ⟨_, rfl⟩ other
    · rw [hostname_check other, if_pos truthy]

theorem address_breaksOff {v : Json} {f : Fault} :
    BreaksOff isAddressReason (address v) f ↔ f = .noMember ∧ StrayAddress v := by
  have named : ∀ key, Contained isAddressReason (member key v) := fun key =>
    member_contained (fun _ => rfl) rfl key v
  unfold address
  simp only [breaksOff_bind, (named "type").whole, (named "value").whole, false_or, ofJson_breaksOff,
    member_ok]
  constructor
  · intro broken
    obtain ⟨kind, ⟨fields, rfl, kinded⟩, value, ⟨fields', same, valued⟩, rfl, rfl, facts⟩ := broken
    cases same
    exact ⟨rfl, fields, value, rfl, kinded, valued, facts⟩
  · intro broken
    obtain ⟨rfl, fields, value, rfl, kinded, valued, facts⟩ := broken
    exact ⟨_, ⟨fields, rfl, kinded⟩, value, ⟨fields, rfl, valued⟩, rfl, rfl, facts⟩

-- A weight that no whole number is near to.
def EndlessWeight (v : Json) : Prop :=
  ∃ fields negative, v = .obj fields ∧
    Json.field? "weight" fields = some (.float (.infinite negative))

theorem itemList_contained {isReason : Fault → Bool} (kind : isReason .wrongKind = true) (v : Json) :
    Contained isReason v.itemList := by
  unfold Json.itemList
  split
  · exact contained_ok rfl
  · exact contained_error kind

theorem readAll_contained {α : Type} {isReason : Fault → Bool} {read : Json → Except Fault α}
    (each : ∀ v, Contained isReason (read v)) (vs : List Json) : Contained isReason (readAll read vs) := by
  intro f failed
  cases reason : isReason f with
  | true => rfl
  | false =>
    obtain ⟨_, v, _, _, _, broken⟩ := readAll_breaksOff.mp ⟨failed, reason⟩
    exact absurd broken (each v).whole

theorem expression_contained (v : Json) : Contained isWeightReason (expression v) := by
  have named : ∀ key, Contained isWeightReason (member key v) := fun key =>
    member_contained (fun _ => rfl) rfl key v
  refine (named "key").bind fun key _ => (named "operator").bind fun operator _ => ?_
  split
  · refine Contained.bind ?_ fun values _ => contained_ok rfl
    unfold valueList
    split
    · exact (itemList_contained rfl _).map _
    · exact contained_ok rfl
  · exact contained_error rfl

theorem selector_contained (v : Json) : Contained isWeightReason (selector v) := by
  unfold selector
  split
  · refine Contained.map ?_ _
    unfold expressions
    split
    · exact contained_ok rfl
    · split
      · rename_i f failed
        exact contained_error (itemList_contained rfl _ f failed)
      · exact (readAll_contained expression_contained _).map _
  · exact contained_error rfl

theorem weightRule_breaksOff {v : Json} {f : Fault} :
    BreaksOff isWeightReason (weightRule v) f ↔ f = .integerInfinite ∧ EndlessWeight v := by
  have named : Contained isWeightReason (member "weight" v) :=
    member_contained (fun _ => rfl) rfl _ v
  have whole : ∀ {w : Json} {e : Fault}, BreaksOff isWeightReason w.wholeNumber e ↔
      e = .integerInfinite ∧ ∃ negative, w = .float (.infinite negative) :=
    wholeNumber_breaksOff (fun _ => rfl) rfl rfl
  have first : BreaksOff isWeightReason (weightRule v) f ↔
      BreaksOff isWeightReason (member "weight" v >>= Json.wholeNumber) f := by
    refine breaksOff_bind.trans (or_iff_left ?_)
    rintro ⟨weight, _, broken⟩
    split at broken
    · exact ((selector_contained _).bind fun _ _ => contained_ok rfl).whole broken
    · exact (contained_error rfl).whole broken
  rw [first, breaksOff_bind, or_iff_right named.whole]
  simp only [whole, member_ok]
  constructor
  · intro broken
    obtain ⟨_, ⟨fields, rfl, weighed⟩, rfl, negative, rfl⟩ := broken
    exact ⟨rfl, fields, negative, rfl, weighed⟩
  · intro broken
    obtain ⟨rfl, fields, negative, rfl, weighed⟩ := broken
    exact ⟨_, ⟨fields, rfl, weighed⟩, rfl, negative, rfl⟩

-- A record whose type is there and is no text.
def UntypedRecord (v : Json) : Prop :=
  ∃ fields name type, v = .obj fields ∧ Json.field? "name" fields = some name ∧
    Json.field? "type" fields = some type ∧ ¬ type.IsText

-- A record that lives forever, with all that is read before that.
def EndlessRecord (v : Json) : Prop :=
  ∃ fields name type targets negative, v = .obj fields ∧ Json.field? "name" fields = some name ∧
    Json.field? "type" fields = some type ∧ (∃ t, Record.typeOfJson type = .ok t) ∧
    Json.field? "targets" fields = some targets ∧
    Json.field? "ttl" fields = some (.float (.infinite negative))

theorem required_ok {key : LooseText} {fields : List (LooseText × Json)} {v : Json} :
    Record.required key fields = .ok v ↔ Json.field? key fields = some v := by
  cases found : Json.field? key fields <;> simp [Record.required, found]

theorem required_contained (key : LooseText) (fields : List (LooseText × Json)) :
    Contained isRecordReason (Record.required key fields) := by
  unfold Record.required
  split
  · exact contained_ok rfl
  · exact contained_error rfl

theorem recordType_failed {s : String} {f : Fault} (failed : RecordType.read s = .error f) :
    f = .unknownRecordType ∨ f = .value .recordTypeTooLarge := by
  have coded : ∀ {n : Nat}, RecordType.ofCode n = .error f → f = .value .recordTypeTooLarge := by
    intro n failed
    unfold RecordType.ofCode at failed
    split at failed
    · cases failed
    · cases failed
      rfl
  unfold RecordType.read at failed
  simp only at failed
  split at failed
  · exact .inr (coded failed)
  · split at failed
    · unfold RecordType.ofDigits at failed
      split at failed
      · cases failed
        exact .inl rfl
      · exact .inr (coded failed)
    · cases failed
      exact .inl rfl

theorem typeOfJson_breaksOff {v : Json} {f : Fault} :
    BreaksOff isRecordReason (Record.typeOfJson v) f ↔ f = .noMember ∧ ¬ v.IsText := by
  cases v with
  | str t =>
    have text : (Json.str t).IsText := ⟨t, rfl⟩
    have contained : Contained isRecordReason (Record.typeOfJson (.str t)) := by
      simp only [Record.typeOfJson]
      cases read : RecordType.read t.mended with
      | ok t => exact contained_ok rfl
      | error g =>
        rcases recordType_failed read with rfl | rfl
        · exact contained_error rfl
        · exact contained_error rfl
    simp [contained.whole, text]
  | _ =>
    simp only [BreaksOff, Record.typeOfJson, Except.error.injEq]
    constructor
    · intro broken
      obtain ⟨rfl, _⟩ := broken
      refine ⟨rfl, ?_⟩
      rintro ⟨s, text⟩
      cases text
    · intro untyped
      obtain ⟨rfl, _⟩ := untyped
      exact ⟨rfl, rfl⟩

theorem addPairs_contained (vs : List Json) (es : Entries) (index : Nat) :
    Contained isRecordReason (Entries.addPairs es index vs) := by
  induction vs generalizing es index with
  | nil => exact contained_ok rfl
  | cons v vs ih =>
    unfold Entries.addPairs
    split
    · exact contained_error rfl
    · split
      · exact ih _ _
      · exact contained_error rfl
    · exact contained_error rfl

theorem entries_contained (v : Json) : Contained isRecordReason (Entries.ofJson v) := by
  unfold Entries.ofJson
  split
  · exact contained_ok rfl
  · split
    · exact contained_ok rfl
    · split
      · exact contained_error rfl
      · exact addPairs_contained _ _ _

theorem make_contained (name : Json) (type : RecordType) (targets ttl identifier attributes labels : Json) :
    Contained isRecordReason (Record.make name type targets ttl identifier attributes labels) := by
  unfold Record.make
  split
  · rename_i e listed
    exact contained_error (itemList_contained rfl _ e listed)
  · split
    · rename_i e attributed
      exact contained_error (entries_contained _ e attributed)
    · split
      · rename_i e labelled
        exact contained_error (entries_contained _ e labelled)
      · exact contained_ok rfl

theorem ofFields_breaksOff {fields : List (LooseText × Json)} {f : Fault} :
    BreaksOff isRecordReason (Record.ofFields fields) f ↔
      (f = .noMember ∧ UntypedRecord (.obj fields)) ∨
        (f = .integerInfinite ∧ EndlessRecord (.obj fields)) := by
  have whole : ∀ {w : Json} {e : Fault}, BreaksOff isRecordReason w.wholeNumber e ↔
      e = .integerInfinite ∧ ∃ negative, w = .float (.infinite negative) :=
    wholeNumber_breaksOff (fun _ => rfl) rfl rfl
  have typed : BreaksOff isRecordReason ((Record.required "type" fields).bind Record.typeOfJson) f ↔
      ∃ type, Json.field? "type" fields = some type ∧ f = .noMember ∧ ¬ type.IsText := by
    apply breaksOff_bind.trans
    simp only [(required_contained _ _).whole, false_or, typeOfJson_breaksOff, required_ok]
  have lasting : BreaksOff isRecordReason ((Record.required "ttl" fields).bind Json.wholeNumber) f ↔
      ∃ ttl, Json.field? "ttl" fields = some ttl ∧ f = .integerInfinite ∧
        ∃ negative, ttl = .float (.infinite negative) := by
    apply breaksOff_bind.trans
    simp only [(required_contained _ _).whole, false_or, whole, required_ok]
  unfold Record.ofFields
  simp only [breaksOff_bind, (required_contained _ _).whole, (make_contained _ _ _ _ _ _ _).whole,
    false_or, or_false, and_false, exists_false, required_ok, typed, lasting]
  constructor
  · intro broken
    obtain ⟨name, named, untyped | endless⟩ := broken
    · obtain ⟨type, given, rfl, other⟩ := untyped
      exact .inl ⟨rfl, fields, name, type, rfl, named, given, other⟩
    · obtain ⟨t, read, targets, targeted, ttl, timed, rfl, negative, rfl⟩ := endless
      obtain ⟨type, given, read⟩ := ok_of_bind read
      exact .inr ⟨rfl, fields, name, type, targets, negative, rfl, named, required_ok.mp given,
        ⟨t, read⟩, targeted, timed⟩
  · intro stray
    rcases stray with ⟨rfl, untyped⟩ | ⟨rfl, endless⟩
    · obtain ⟨_, name, type, same, named, given, other⟩ := untyped
      cases same
      exact ⟨name, named, .inl ⟨type, given, rfl, other⟩⟩
    · obtain ⟨_, name, type, targets, negative, same, named, given, ⟨t, read⟩, targeted, timed⟩ := endless
      cases same
      have typed : (Record.required "type" fields).bind Record.typeOfJson = .ok t := by
        rw [required_ok.mpr given]
        exact read
      exact ⟨name, named, .inr ⟨t, typed, targets, targeted, _, timed, rfl, negative, rfl⟩⟩

theorem record_breaksOff {v : Json} {f : Fault} :
    BreaksOff isRecordReason (Record.ofJson v) f ↔
      (f = .noMember ∧ UntypedRecord v) ∨ (f = .integerInfinite ∧ EndlessRecord v) := by
  cases v with
  | obj fields => exact ofFields_breaksOff
  | _ =>
    simp only [BreaksOff, Record.ofJson, UntypedRecord, EndlessRecord, reduceCtorEq, false_and,
      exists_false, and_false, or_false, iff_false]
    rintro ⟨failed, stray⟩
    cases failed
    cases stray

theorem ofJsonAll_readAll (vs : List Json) : Record.ofJsonAll vs = readAll Record.ofJson vs := by
  induction vs with
  | nil => rfl
  | cons v vs ih =>
    rw [Record.ofJsonAll, readAll, ih]
    cases Record.ofJson v <;> rfl

end Values

end DnsSteering.Config
