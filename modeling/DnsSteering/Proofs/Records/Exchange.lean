import DnsSteering.Proofs.Json.Documents
import DnsSteering.Proofs.Texts
import Mathlib.Data.List.Nodup

namespace DnsSteering

-- A text that is the same after it was written and read.
def Json.IsSteady (v : Json) : Prop := ∃ t : LooseText, v = .str t ∧ t.Unpaired

theorem Json.IsSteady.isText {v : Json} (steady : v.IsSteady) : v.IsText := by
  obtain ⟨t, rfl, _⟩ := steady
  exact ⟨t, rfl⟩

theorem Json.Keyed.isSteady {double : Binary64 → Prop} {v : Json} (keyed : Json.Keyed double v)
    (text : v.IsText) : v.IsSteady := by
  obtain ⟨t, rfl⟩ := text
  cases keyed with
  | str unpaired => exact ⟨t, rfl, unpaired⟩

theorem Json.Keyed.field {double : Binary64 → Prop} {fields : List (LooseText × Json)} {key : LooseText}
    {v : Json} (keyed : Json.Keyed double (.obj fields)) (found : Json.field? key fields = some v) :
    Json.Keyed double v := by
  cases keyed with
  | obj _ _ each => exact each _ (field?_mem found)

theorem Json.isSteady_plain (s : String) : (Json.str s).IsSteady := ⟨_, rfl, LooseText.unpaired_plain s⟩

theorem Json.Keyed.display_steady {double : Binary64 → Prop} {v : Json} (keyed : Json.Keyed double v) :
    (Json.str v.display).IsSteady := by
  cases keyed with
  | str unpaired => exact ⟨_, rfl, unpaired⟩
  | null | bool | int | float | arr | obj => exact Json.isSteady_plain _

-- Texts as names, and no name twice.
structure Entries.Named (es : Entries) : Prop where
  texts : ∀ e ∈ es, e.1.IsText
  once : (keys es).Nodup

-- Texts under texts, and no key twice.
structure Entries.Textual (es : Entries) : Prop where
  texts : ∀ e ∈ es, e.1.IsText ∧ e.2.IsText
  once : (keys es).Nodup

-- All of them are the same after they were written and read.
structure Entries.Steady (es : Entries) : Prop where
  texts : ∀ e ∈ es, e.1.IsSteady ∧ e.2.IsSteady
  once : (keys es).Nodup

namespace Entries

theorem named_nil : Named [] := ⟨by simp, List.nodup_nil⟩

theorem steady_nil : Steady [] := ⟨by simp, List.nodup_nil⟩

theorem Textual.isNamed {es : Entries} (textual : Textual es) : Named es :=
  ⟨fun e member => (textual.texts e member).1, textual.once⟩

theorem Steady.isNamed {es : Entries} (steady : Steady es) : Named es :=
  ⟨fun e member => (steady.texts e member).1.isText, steady.once⟩

theorem keys_ofFields (fields : List (LooseText × Json)) :
    keys (ofFields fields) = (fields.map (·.1)).map .str := by
  simp [keys, ofFields]

theorem steady_ofFields {fields : List (LooseText × Json)} (named : ∀ f ∈ fields, f.1.Unpaired)
    (text : ∀ f ∈ fields, f.2.IsSteady) (once : (fields.map (·.1)).Nodup) : Steady (ofFields fields) := by
  refine ⟨?_, ?_⟩
  · intro e member
    obtain ⟨f, listed, rfl⟩ := List.mem_map.mp member
    exact ⟨⟨_, rfl, named f listed⟩, text f listed⟩
  · rw [keys_ofFields]
    exact List.Nodup.map (fun _ _ => Json.str.inj) once

theorem mem_set {key value : Json} (name : key.IsText) {es : Entries} {e : Json × Json}
    (member : e ∈ es.set key value) : e = (key, value) ∨ e ∈ es := by
  induction es with
  | nil => exact .inl (List.mem_singleton.mp member)
  | cons old es ih =>
    obtain ⟨k, v⟩ := old
    unfold Entries.set at member
    split at member
    · rename_i same
      obtain rfl : k = key := (Json.same_iff name).mp same
      exact (List.mem_cons.mp member).imp_right (List.mem_cons_of_mem _)
    · rcases List.mem_cons.mp member with rfl | later
      · exact .inr (List.mem_cons_self ..)
      · exact (ih later).imp_right (List.mem_cons_of_mem _)

theorem Named.set {es : Entries} (named : Named es) {key : Json} (name : key.IsText) (value : Json) :
    Named (es.set key value) := by
  refine ⟨?_, ?_⟩
  · intro e member
    rcases mem_set name member with rfl | old
    · exact name
    · exact named.texts e old
  · rw [keys_set name]
    split
    · exact named.once
    · rename_i new
      refine List.Nodup.append named.once (List.nodup_singleton key) ?_
      simpa using new

theorem Steady.set {es : Entries} (steady : Steady es) {key value : Json} (name : key.IsSteady)
    (text : value.IsSteady) : Steady (es.set key value) := by
  refine ⟨?_, (steady.isNamed.set name.isText value).once⟩
  intro e member
  rcases mem_set name.isText member with rfl | old
  · exact ⟨name, text⟩
  · exact steady.texts e old

theorem ofFields_keyText {es : Entries} (keys : ∀ e ∈ es, e.1.IsText) :
    ofFields (es.map fun e => (keyText e.1, e.2)) = es := by
  have spelled : ∀ e ∈ es, (.str (keyText e.1), e.2) = e := by
    intro e member
    obtain ⟨k, v⟩ := e
    obtain ⟨s, rfl⟩ := keys _ member
    rfl
  rw [ofFields, List.map_map]
  exact (List.map_congr_left spelled).trans (List.map_id es)

theorem ofJson_obj (fields : List (LooseText × Json)) : ofJson (.obj fields) = .ok (ofFields fields) := by
  cases fields <;> rfl

theorem ofJson_toJson {es : Entries} (keys : ∀ e ∈ es, e.1.IsText) : ofJson (toJson es) = .ok es := by
  rw [toJson, ofJson_obj, ofFields_keyText keys]

theorem Steady.keyed {es : Entries} (steady : Steady es) {double : Binary64 → Prop} :
    Json.Keyed double (toJson es) := by
  refine .obj ?_ ?_ ?_
  · have once := steady.once
    rw [← ofFields_keyText steady.isNamed.texts, keys_ofFields] at once
    exact once.of_map
  · intro f member
    obtain ⟨e, listed, rfl⟩ := List.mem_map.mp member
    obtain ⟨key, named, unpaired⟩ := (steady.texts e listed).1
    simpa [named, keyText] using unpaired
  · intro f member
    obtain ⟨e, listed, rfl⟩ := List.mem_map.mp member
    obtain ⟨value, given, unpaired⟩ := (steady.texts e listed).2
    simpa [given] using Json.Keyed.str unpaired

end Entries

namespace Record

-- What a record may hold to be the same after an exchange.
structure Portable (r : Record) : Prop where
  name : r.name.IsSteady
  identifier : r.identifier.IsSteady
  type : RecordType.read r.type.text = .ok r.type
  targets : ∀ t ∈ r.targets, t.IsSteady
  ttl : ∃ n, r.ttl = .int n
  attributes : r.attributes.Steady
  labels : r.labels.Steady

theorem Portable.ofJson_toJson {r : Record} (portable : r.Portable) : ofJson r.toJson = .ok r := by
  obtain ⟨n, whole⟩ := portable.ttl
  have type : typeOfJson (.str r.type.text) = .ok r.type := by
    simp [typeOfJson, portable.type]
  have identifier : plainIdentifier r.identifier = r.identifier :=
    plainIdentifier_text portable.identifier.isText
  simp only [toJson, toForm, Form.toJson, ofJson, ofFields, required, Json.field?]
  simp [List.lookup_cons, bind, Except.bind, type, whole, Json.wholeNumber, make, Json.itemList,
    Json.items?, Entries.ofJson_toJson portable.attributes.isNamed.texts,
    Entries.ofJson_toJson portable.labels.isNamed.texts, identifier]
  rw [← whole]

theorem Portable.keyed {r : Record} (portable : r.Portable) {double : Binary64 → Prop} :
    Json.Keyed double r.toJson := by
  have text : ∀ {v : Json}, v.IsSteady → Json.Keyed double v := by
    intro v steady
    obtain ⟨t, rfl, unpaired⟩ := steady
    exact .str unpaired
  obtain ⟨n, whole⟩ := portable.ttl
  refine .obj (by simp) (by simp [LooseText.unpaired_plain]) ?_
  simp only [toForm, List.forall_mem_cons, whole]
  exact ⟨text portable.name, .str (LooseText.unpaired_plain _),
    .arr fun t member => text (portable.targets t member), .int n, text portable.identifier,
    portable.attributes.keyed, portable.labels.keyed, by simp⟩

theorem ofJsonAll_toJson {rs : List Record} (portable : ∀ r ∈ rs, r.Portable) :
    ofJsonAll (rs.map toJson) = .ok rs := by
  induction rs with
  | nil => rfl
  | cons r rs ih =>
    have first := (portable r (List.mem_cons_self ..)).ofJson_toJson
    have rest := ih fun s member => portable s (List.mem_cons_of_mem _ member)
    simp [ofJsonAll, first, rest, Except.map]

-- A document of records, with a line break at its end, as it is printed.
theorem read_records {rs : List Record} (portable : ∀ r ∈ rs, r.Portable) :
    Json.read (Json.text (.arr (rs.map toJson)) ++ "\n") = .ok (.arr (rs.map toJson)) := by
  have blank : ∀ c ∈ "\n".toList, Json.isSpace c = true := by simp [Json.isSpace]
  refine Json.read_text (.arr ?_) blank
  intro v member
  obtain ⟨r, listed, rfl⟩ := List.mem_map.mp member
  exact (portable r listed).keyed

section Given

theorem make_ok {name targets ttl identifier attributes labels : Json} {type : RecordType} {r : Record}
    (made : make name type targets ttl identifier attributes labels = .ok r) :
    ∃ listed marks labelled, targets.itemList = .ok listed ∧ Entries.ofJson attributes = .ok marks ∧
      Entries.ofJson labels = .ok labelled ∧
      r = ⟨name, type, listed, ttl, plainIdentifier identifier, marks, labelled⟩ := by
  unfold make at made
  split at made
  · cases made
  · rename_i listed counted
    split at made
    · cases made
    · rename_i marks first
      split at made
      · cases made
      · rename_i labelled second
        exact ⟨listed, marks, labelled, counted, first, second, (Except.ok.inj made).symm⟩

theorem make_parts {name targets ttl identifier attributes labels : Json} {type : RecordType}
    {r : Record} (made : make name type targets ttl identifier attributes labels = .ok r) :
    Entries.ofJson attributes = .ok r.attributes ∧ Entries.ofJson labels = .ok r.labels := by
  obtain ⟨listed, marks, labelled, _, first, second, rfl⟩ := make_ok made
  exact ⟨first, second⟩

-- A record that was read is made of the parts that were found.
theorem ofFields_made {fields : List (LooseText × Json)} {r : Record} (done : ofFields fields = .ok r) :
    ∃ name type targets ttl, required "name" fields = .ok name ∧
      (required "type" fields).bind typeOfJson = .ok type ∧ required "targets" fields = .ok targets ∧
      (required "ttl" fields).bind Json.wholeNumber = .ok ttl ∧
      make name type targets (.int ttl) ((Json.field? "set_identifier" fields).getD (.str ""))
        ((Json.field? "provider_attributes" fields).getD .null)
        ((Json.field? "labels" fields).getD .null) = .ok r := by
  obtain ⟨name, named, done⟩ := ok_of_bind done
  obtain ⟨type, typed, done⟩ := ok_of_bind done
  obtain ⟨targets, listed, done⟩ := ok_of_bind done
  obtain ⟨ttl, counted, done⟩ := ok_of_bind done
  exact ⟨name, type, targets, ttl, named, typed, listed, counted, done⟩

theorem ofFields_parts {fields : List (LooseText × Json)} {r : Record} (done : ofFields fields = .ok r) :
    Entries.ofJson ((Json.field? "provider_attributes" fields).getD .null) = .ok r.attributes ∧
      Entries.ofJson ((Json.field? "labels" fields).getD .null) = .ok r.labels := by
  obtain ⟨_, _, _, _, _, _, _, _, made⟩ := ofFields_made done
  exact make_parts made

-- An absent object has no entries, and one that was read has no key twice.
theorem ofJson_steady {fields : List (LooseText × Json)} {key : LooseText} {es : Entries}
    (keyed : Json.Keyed (fun _ => True) (.obj fields))
    (text : ∀ v, Json.field? key fields = some v → TextLabels v)
    (read : Entries.ofJson ((Json.field? key fields).getD .null) = .ok es) : es.Steady := by
  cases found : Json.field? key fields with
  | none =>
    rw [found] at read
    cases Except.ok.inj read
    exact Entries.steady_nil
  | some v =>
    obtain ⟨entries, rfl, values⟩ := text v found
    rw [found, Option.getD_some, Entries.ofJson_obj] at read
    cases Except.ok.inj read
    cases keyed with
    | obj once unpaired each =>
      cases each _ (field?_mem found) with
      | obj inside named steady =>
        refine Entries.steady_ofFields named (fun f listed => ?_) inside
        exact (steady f listed).isSteady (values f listed)

-- Attributes and labels of records that were read, where what is given of them are texts.
theorem ofJsonAll_steady {items : List Json} {rs : List Record}
    (keyed : ∀ item ∈ items, Json.Keyed (fun _ => True) item)
    (text : ∀ fields, .obj fields ∈ items → ∀ key, key = "provider_attributes" ∨ key = "labels" →
      ∀ v, Json.field? key fields = some v → TextLabels v)
    (done : ofJsonAll items = .ok rs) : ∀ r ∈ rs, r.attributes.Steady ∧ r.labels.Steady := by
  induction items generalizing rs with
  | nil =>
    cases Except.ok.inj done
    simp
  | cons item items ih =>
    unfold ofJsonAll at done
    cases first : ofJson item with
    | error f => simp [first] at done
    | ok r =>
      cases rest : ofJsonAll items with
      | error f => simp [first, rest, Except.map] at done
      | ok others =>
        simp only [first, rest, Except.map, Except.ok.injEq] at done
        rw [← done]
        have later := ih (fun v member => keyed v (List.mem_cons_of_mem _ member))
          (fun fields member => text fields (List.mem_cons_of_mem _ member)) rest
        refine List.forall_mem_cons.mpr ⟨?_, later⟩
        cases item with
        | obj fields =>
          have here := List.mem_cons_self (a := Json.obj fields) (l := items)
          obtain ⟨attributes, labels⟩ := ofFields_parts first
          exact ⟨ofJson_steady (keyed _ here) (text fields here _ (.inl rfl)) attributes,
            ofJson_steady (keyed _ here) (text fields here _ (.inr rfl)) labels⟩
        | _ => cases first

end Given
end Record
end DnsSteering
