import DnsSteering.Records.Ledger

namespace DnsSteering

def Json.IsText (v : Json) : Prop := ∃ t, v = .str t

@[simp] theorem Json.isText_str (t : LooseText) : (Json.str t).IsText := ⟨t, rfl⟩

theorem Json.str_same {t : LooseText} {v : Json} : (Json.str t).same v = true ↔ v = .str t := by
  cases v with
  | str u => simpa [Json.same] using eq_comm
  | _ => simp [Json.same, Json.sameNumber, Json.number?]

theorem Json.same_str {t : LooseText} {v : Json} : v.same (.str t) = true ↔ v = .str t := by
  cases v <;> simp [Json.same, Json.sameNumber, Json.number?]

theorem Json.same_iff {v w : Json} (text : w.IsText) : v.same w = true ↔ v = w := by
  obtain ⟨t, rfl⟩ := text
  exact Json.same_str

theorem Json.equals_str {t : LooseText} {v : Json} : (Json.str t).equals v = true ↔ v = .str t := by
  simp [Json.equals, Json.isNoNumber, Json.str_same]

theorem Json.IsText.canIdentify {v : Json} (text : v.IsText) : v.canIdentify = true := by
  obtain ⟨t, rfl⟩ := text
  rfl

theorem Json.IsText.isOrderly {v : Json} (text : v.IsText) : v.isOrderly = true := by
  obtain ⟨t, rfl⟩ := text
  simp [Json.isOrderly]

structure Slot.IsText (s : Slot) : Prop where
  name : s.name.IsText
  identifier : s.identifier.IsText

theorem Slot.isText_iff {s : Slot} : s.IsText ↔ s.name.IsText ∧ s.identifier.IsText :=
  ⟨fun text => ⟨text.name, text.identifier⟩, fun text => ⟨text.1, text.2⟩⟩

theorem Slot.IsText.canIdentify {s : Slot} (text : s.IsText) : s.canIdentify = true := by
  simp [Slot.canIdentify, text.name.canIdentify, text.identifier.canIdentify]

-- The same name and identifier, whatever the types.
def Slot.Alike (s t : Slot) : Prop := s.name = t.name ∧ s.identifier = t.identifier

-- A slot without its type.
def Slot.key (s : Slot) : Json × Json := (s.name, s.identifier)

theorem Slot.alike_iff {s t : Slot} : s.Alike t ↔ s.key = t.key := by
  simp [Alike, key]

theorem Slot.sameKey_iff {s t : Slot} (text : t.IsText) : s.sameKey t = true ↔ s.Alike t := by
  simp [Slot.sameKey, Slot.Alike, Json.same_iff text.name, Json.same_iff text.identifier]

theorem Slot.same_iff {s t : Slot} (text : t.IsText) : s.same t = true ↔ s = t := by
  obtain ⟨sn, si, st⟩ := s
  obtain ⟨tn, ti, tt⟩ := t
  simp [Slot.same, Slot.sameKey_iff text, Slot.Alike, and_assoc]

theorem Slot.Alike.eq_of_type {s t : Slot} (alike : s.Alike t) (type : s.type = t.type) : s = t := by
  obtain ⟨sn, si, st⟩ := s
  obtain ⟨tn, ti, tt⟩ := t
  obtain ⟨rfl, rfl⟩ := alike
  cases type
  rfl

theorem Slot.Alike.isText {s t : Slot} (alike : s.Alike t) (text : t.IsText) : s.IsText :=
  ⟨alike.1 ▸ text.name, alike.2 ▸ text.identifier⟩

abbrev Record.IsText (r : Record) : Prop := r.slot.IsText

theorem plainIdentifier_text {v : Json} (text : v.IsText) : Record.plainIdentifier v = v := by
  obtain ⟨t, rfl⟩ := text
  unfold Record.plainIdentifier
  split
  · rfl
  · rename_i empty
    have none : t = "" := by simpa [Json.truthy] using empty
    rw [none]

-- Labels as they are given to a gateway: texts under texts.
def TextLabels (labels : Json) : Prop := ∃ fields, labels = .obj fields ∧ ∀ f ∈ fields, f.2.IsText

theorem field?_mem {fields : List (LooseText × Json)} {key : LooseText} {v : Json}
    (found : Json.field? key fields = some v) : (key, v) ∈ fields := by
  obtain ⟨before, after, split, _⟩ := List.lookup_eq_some_iff.mp found
  rw [split]
  simp

theorem field?_text {fields : List (LooseText × Json)} (text : ∀ f ∈ fields, f.2.IsText) {key : LooseText}
    {v : Json} (found : Json.field? key fields = some v) : v.IsText :=
  text _ (field?_mem found)

namespace Entries

-- What stands under a key.
def value? (key : Json) (es : Entries) : Option Json := es.lookup key

theorem value?_cons (key k v : Json) (es : Entries) :
    value? key ((k, v) :: es) = if key = k then some v else value? key es := by
  by_cases here : key = k
  · simp [value?, here]
  · have other : (key == k) = false := beq_false_of_ne here
    simp [value?, List.lookup_cons, other, here]

theorem value?_set {key k value : Json} (text : k.IsText) (es : Entries) :
    value? key (es.set k value) = if key = k then some value else value? key es := by
  induction es with
  | nil => exact value?_cons key k value []
  | cons e es ih =>
    obtain ⟨old, v⟩ := e
    unfold set
    split
    · rename_i same
      obtain rfl : old = k := (Json.same_iff text).mp same
      by_cases here : key = old <;> simp [value?_cons, here]
    · rename_i other
      have other : old ≠ k := fun equal => other ((Json.same_iff text).mpr equal)
      rw [value?_cons, value?_cons, ih]
      by_cases here : key = old
      · simp [here, other]
      · simp [here]

def keys (es : Entries) : List Json := es.map (·.1)

theorem keys_set {k : Json} (text : k.IsText) (value : Json) (es : Entries) :
    keys (es.set k value) = if k ∈ keys es then keys es else keys es ++ [k] := by
  induction es with
  | nil => rfl
  | cons e es ih =>
    obtain ⟨old, v⟩ := e
    unfold set
    split
    · rename_i same
      obtain rfl : old = k := (Json.same_iff text).mp same
      simp [keys]
    · rename_i other
      have other : k ≠ old := fun equal => other ((Json.same_iff text).mpr equal.symm)
      have rest : keys ((old, v) :: set k value es) = old :: keys (set k value es) := rfl
      rw [rest, ih]
      by_cases held : k ∈ keys es
      · have listed : k ∈ keys ((old, v) :: es) := List.mem_cons_of_mem _ held
        rw [if_pos held, if_pos listed]
        rfl
      · have new : k ∉ keys ((old, v) :: es) := fun listed =>
          (List.mem_cons.mp listed).elim other held
        rw [if_neg held, if_neg new]
        rfl

-- What stands under a key already may be set again.
theorem set_held {k value : Json} (text : k.IsText) {es : Entries} (held : value? k es = some value) :
    es.set k value = es := by
  induction es with
  | nil => cases held
  | cons e es ih =>
    obtain ⟨old, v⟩ := e
    rw [value?_cons] at held
    unfold set
    split
    · rename_i same
      obtain rfl : old = k := (Json.same_iff text).mp same
      rw [if_pos rfl] at held
      rw [Option.some.inj held]
    · rename_i other
      have other : k ≠ old := fun equal => other ((Json.same_iff text).mpr equal.symm)
      rw [if_neg other] at held
      rw [ih held]

end Entries
end DnsSteering
