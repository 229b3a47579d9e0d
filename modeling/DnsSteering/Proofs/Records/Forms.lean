import DnsSteering.Proofs.Dns.RecordType
import DnsSteering.Proofs.Records.Exchange

namespace DnsSteering

-- A whole number as it may be held: `true` and `false` count as one and zero.
inductive Json.IsWhole : Json → Prop where
  | int (n : Int) : IsWhole (.int n)
  | bool (b : Bool) : IsWhole (.bool b)

theorem Json.IsWhole.wholeNumber {v : Json} (whole : v.IsWhole) :
    ∃ n, v.wholeNumber = .ok n ∧ (Json.int n).same v = true := by
  cases whole with
  | int n => exact ⟨n, rfl, by simp [same, sameNumber, number?, Number.same, Number.standing]⟩
  | bool b =>
    refine ⟨if b then 1 else 0, rfl, ?_⟩
    simp [same, sameNumber, number?, Number.same, Number.standing]

theorem Json.IsWhole.zero {v : Json} (whole : v.IsWhole) {n : Int} (number : v.wholeNumber = .ok n) :
    (Json.int n).same (.int 0) = v.same (.int 0) := by
  cases whole with
  | int m =>
    cases number
    rfl
  | bool b =>
    cases number
    rfl

-- Normal values are the same as themselves.
theorem Json.same_self {v : Json} (plain : v.canIdentify = true) : v.same v = true := by
  have number : ∀ x : Number, x.same x = true := by
    intro x
    unfold Number.same
    cases x.standing <;> simp
  cases v with
  | arr _ => cases plain
  | obj _ => cases plain
  | _ => simp [same, sameNumber, number?, number]

namespace Record

-- The ways to come by a record. It is built from its parts or read, and then changed in place; a change
-- that is refused is none.
inductive Made : Record → Prop where
  | built {kind name targets ttl identifier attributes labels : Json} {type : RecordType} {r : Record}
      (typed : kind.recordType = .ok type)
      (built : make name type targets ttl identifier attributes labels = .ok r) : Made r
  | read {document : Json} {r : Record} (done : ofJson document = .ok r) : Made r
  | exchanged {f : Form} {r : Record} (done : ofForm f = .ok r) : Made r
  | updated {r s : Record} {kind targets ttl : Json} {type : RecordType} (earlier : Made r)
      (typed : kind.recordType = .ok type) (done : r.update type targets ttl = (s, none)) : Made s
  | marked {r s : Record} {name value : Json} (earlier : Made r)
      (done : r.setAttribute name value = .ok s) : Made s

theorem plainIdentifier_plain (v : Json) : plainIdentifier (plainIdentifier v) = plainIdentifier v := by
  have cases : plainIdentifier v = v ∨ plainIdentifier v = .str "" := by
    unfold plainIdentifier
    split
    · exact .inl rfl
    · exact .inr rfl
  obtain kept | empty := cases
  · rw [kept, kept]
  · rw [empty]
    exact plainIdentifier_text (Json.isText_str "")

-- An absent identifier is kept as the empty text, and so it is read back as it stands.
def Normal (r : Record) : Prop := plainIdentifier r.identifier = r.identifier

section Steps

variable {r s : Record}

theorem make_normal {name targets ttl identifier attributes labels : Json} {type : RecordType}
    (made : make name type targets ttl identifier attributes labels = .ok r) :
    r.Normal ∧ r.ttl = ttl := by
  obtain ⟨_, _, _, _, _, _, rfl⟩ := make_ok made
  exact ⟨plainIdentifier_plain identifier, rfl⟩

theorem ofJson_normal {document : Json} (done : ofJson document = .ok r) :
    r.Normal ∧ ∃ n, r.ttl = .int n := by
  cases document with
  | obj fields =>
    obtain ⟨_, _, _, ttl, _, _, _, _, made⟩ := ofFields_made done
    obtain ⟨plain, whole⟩ := make_normal made
    exact ⟨plain, ttl, whole⟩
  | _ => cases done

theorem ofForm_normal {f : Form} (done : ofForm f = .ok r) : r.Normal ∧ ∃ n, r.ttl = .int n := by
  unfold ofForm at done
  split at done
  · cases done
  · split at done
    · cases done
    · rename_i ttl _
      cases Except.ok.inj done
      exact ⟨plainIdentifier_plain f.identifier, ttl, rfl⟩

theorem update_normal {type : RecordType} {targets ttl : Json} (plain : r.Normal)
    (done : r.update type targets ttl = (s, none)) : s.Normal := by
  unfold update at done
  split at done
  · cases done
  · cases done
    exact plain

theorem setAttribute_normal {name value : Json} (plain : r.Normal)
    (done : r.setAttribute name value = .ok s) : s.Normal := by
  unfold setAttribute at done
  split at done
  · cases done
    exact plain
  · cases done

theorem Made.normal (made : Made r) : r.Normal := by
  induction made with
  | built _ built => exact (make_normal built).1
  | read done => exact (ofJson_normal done).1
  | exchanged done => exact (ofForm_normal done).1
  | updated _ _ done earlier => exact update_normal earlier done
  | marked _ done earlier => exact setAttribute_normal earlier done

end Steps

theorem typeOfJson_text (t : RecordType) : typeOfJson (.str t.text) = .ok t := by
  simp [typeOfJson, RecordType.read_text]

theorem ofForm_toForm {r : Record} (plain : r.Normal) {n : Int} (whole : r.ttl.wholeNumber = .ok n) :
    ofForm r.toForm = .ok { r with ttl := .int n } := by
  have identifier : plainIdentifier r.identifier = r.identifier := plain
  simp [ofForm, toForm, typeOfJson_text, whole, identifier]

-- What was read is itself again: after one reading nothing changes any more.
theorem ofForm_toForm_read {r : Record} (read : r.Normal ∧ ∃ n, r.ttl = .int n) :
    ofForm r.toForm = .ok r := by
  obtain ⟨plain, n, whole⟩ := read
  have number : r.ttl.wholeNumber = .ok n := by rw [whole]; rfl
  rw [ofForm_toForm plain number, ← whole]

-- As documents have them: attributes and labels under texts.
structure TextKeys (f : Form) : Prop where
  attributes : ∀ e ∈ f.attributes, e.1.IsText
  labels : ∀ e ∈ f.labels, e.1.IsText

-- A form that is written to a document is read from there as it is.
theorem ofJson_form {f : Form} (keys : TextKeys f) : ofJson f.toJson = ofForm f := by
  have attributes := Entries.ofJson_toJson keys.attributes
  have labels := Entries.ofJson_toJson keys.labels
  simp only [Form.toJson, ofJson, ofFields, required, Json.field?, ofForm]
  simp only [List.lookup_cons, bind, Except.bind]
  cases typed : typeOfJson (.str f.type) with
  | error e => simp [typed]
  | ok type =>
    cases counted : f.ttl.wholeNumber with
    | error e => simp [typed, counted]
    | ok ttl => simp [typed, counted, make, Json.itemList, Json.items?, attributes, labels]

-- However a record was made and changed, its form is read as that record, with its time to live as a
-- plain number. A record that was read comes back as it is.
theorem forms_restore :
    (∀ r : Record, Made r → r.ttl.IsWhole → ∃ n : Int, (Json.int n).same r.ttl = true ∧
      ofForm r.toForm = .ok { r with ttl := .int n } ∧
      (r.canIdentify = true → sameKey { r with ttl := .int n } r = true) ∧
      (TextKeys r.toForm → ofJson r.toJson = .ok { r with ttl := .int n })) ∧
    (∀ document r, ofJson document = .ok r → ofForm r.toForm = .ok r) ∧
    ∀ f r, ofForm f = .ok r → ofForm r.toForm = .ok r := by
  refine ⟨?_, ?_, ?_⟩
  · intro r made whole
    obtain ⟨n, number, same⟩ := whole.wholeNumber
    have restored := ofForm_toForm made.normal number
    refine ⟨n, same, restored, ?_, fun keys => (ofJson_form keys).trans restored⟩
    intro plain
    obtain ⟨name, identifier⟩ := Bool.and_eq_true_iff.mp plain
    simp [sameKey, Json.same_self name, Json.same_self identifier]
  · intro document r done
    exact ofForm_toForm_read (ofJson_normal done)
  · intro f r done
    exact ofForm_toForm_read (ofForm_normal done)

-- Built with a type that has no name, then given one with a hyphen, and marked under a number.
def renumbered : Record :=
  ⟨.str "w.x", ⟨⟨23, by decide⟩⟩, [.str "edge.x"], .bool true, .str "", [(.int 1, .str "x")], []⟩

theorem renumbered_made : Made renumbered := by
  have typed : (Json.str "type65280").recordType = .ok ⟨⟨65280, by decide⟩⟩ := by rfl
  have numbered : (Json.int 23).recordType = .ok ⟨⟨23, by decide⟩⟩ := by rfl
  have built : make (.str "w.x") ⟨⟨65280, by decide⟩⟩ (.str "ab") (.int 60) .null .null .null =
      .ok ⟨.str "w.x", ⟨⟨65280, by decide⟩⟩, [.str "a", .str "b"], .int 60, .str "", [], []⟩ := by rfl
  have updated : update ⟨.str "w.x", ⟨⟨65280, by decide⟩⟩, [.str "a", .str "b"], .int 60, .str "", [], []⟩
      ⟨⟨23, by decide⟩⟩ (.arr [.str "edge.x"]) (.bool true) =
      (⟨.str "w.x", ⟨⟨23, by decide⟩⟩, [.str "edge.x"], .bool true, .str "", [], []⟩, none) := rfl
  have marked : setAttribute ⟨.str "w.x", ⟨⟨23, by decide⟩⟩, [.str "edge.x"], .bool true, .str "", [], []⟩
      (.int 1) (.str "x") = .ok renumbered := rfl
  exact .marked (.updated (.built typed built) numbered updated) marked

theorem renumbered_restored : renumbered.toForm.type = "NSAP-PTR" ∧
    ∃ n : Int, (Json.int n).same (.bool true) = true ∧
      ofForm renumbered.toForm = .ok { renumbered with ttl := .int n } := by
  obtain ⟨n, same, restored, _⟩ := forms_restore.1 renumbered renumbered_made (.bool true)
  exact ⟨by decide, n, same, restored⟩

end Record
end DnsSteering
