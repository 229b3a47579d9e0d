import DnsSteering.Config
import DnsSteering.Proofs.Records.Exchange

namespace DnsSteering.Config

section Readings

variable {α β : Type}

theorem Reading.bind_accepted {r : Reading α} {f : α → Reading β} {b : β} :
    (r.bind f).ending = .accepted b ↔ ∃ a, r.ending = .accepted a ∧ (f a).ending = .accepted b := by
  unfold bind
  cases r.ending <;> simp

-- Only a refusal logs.
def Reading.Quiet (r : Reading α) : Prop := r.ending ≠ .refused → r.log = []

theorem Reading.Quiet.bind {r : Reading α} {f : α → Reading β} (first : r.Quiet)
    (rest : ∀ a, (f a).Quiet) : (r.bind f).Quiet := by
  intro whole
  unfold Reading.bind at whole ⊢
  cases ending : r.ending with
  | refused => simp [ending] at whole
  | broken fault =>
    simp only [ending] at whole ⊢
    exact first (by simp [ending])
  | accepted a =>
    simp only [ending] at whole ⊢
    rw [first (by simp [ending]), rest a whole]
    rfl

theorem quiet_quiet (ending : Ending α) : (Reading.quiet ending).Quiet := fun _ => rfl

theorem refuse_quiet (origin : Log.Origin) (message : String) :
    (refuse (α := α) origin message).Quiet :=
  fun whole => absurd rfl whole

theorem orRefuse_quiet (origin : Log.Origin) (what : String) (isReason : Fault → Bool)
    (x : Except Fault α) : (orRefuse origin what isReason x).Quiet := by
  unfold orRefuse
  split
  · exact quiet_quiet _
  · split
    · exact refuse_quiet _ _
    · exact quiet_quiet _

theorem orRefuse_accepted {origin : Log.Origin} {what : String} {isReason : Fault → Bool}
    {x : Except Fault α} {a : α} (done : (orRefuse origin what isReason x).ending = .accepted a) :
    x = .ok a := by
  cases x with
  | error f => cases reason : isReason f <;> simp [orRefuse, reason] at done
  | ok b =>
    cases done
    rfl

theorem build_accepted {d : Draft} {p : Policy} (done : (build d).ending = .accepted p) :
    d.policy = p ∧ p.refusal? = none := by
  have built := orRefuse_accepted done
  unfold Draft.build at built
  split at built
  · cases built
  · rename_i clear
    cases built
    exact ⟨rfl, clear⟩

-- Only a text is read, and never as nothing.
theorem document_accepted {key : LooseText} {what : String} {text : Option Json} {v : Json}
    (done : (document key what text).ending = .accepted v) :
    ∃ t, text = some (.str t) ∧ Json.read t.mended = .ok v := by
  obtain ⟨found, present, parsed⟩ := Reading.bind_accepted.mp done
  cases text with
  | none => cases present
  | some w =>
    cases present
    split at parsed
    · rename_i s
      split at parsed
      · cases parsed
      · cases parsed
      · rename_i read
        cases parsed
        exact ⟨s, rfl, read⟩
    · cases parsed

theorem readAll_listed {read : Json → Except Fault α} {items : List Json} {as : List α}
    (done : readAll read items = .ok as) : ∀ a ∈ as, ∃ v ∈ items, read v = .ok a := by
  induction items generalizing as with
  | nil =>
    cases Except.ok.inj done
    simp
  | cons v items ih =>
    unfold readAll at done
    split at done
    · cases done
    · rename_i b first
      obtain ⟨bs, rest, rfl⟩ := ok_of_map done
      intro a member
      rcases List.mem_cons.mp member with rfl | later
      · exact ⟨v, List.mem_cons_self .., first⟩
      · obtain ⟨w, listed, made⟩ := ih rest a later
        exact ⟨w, List.mem_cons_of_mem _ listed, made⟩

end Readings

theorem document_quiet (key : LooseText) (what : String) (text : Option Json) :
    (document key what text).Quiet := by
  refine Reading.Quiet.bind (by cases text <;> exact quiet_quiet _) fun v => ?_
  split
  · split
    · exact refuse_quiet _ _
    · exact quiet_quiet _
    · exact quiet_quiet _
  · exact quiet_quiet _

theorem readHostname_quiet (v : Option Json) : (readHostname v).Quiet := by
  refine Reading.Quiet.bind (by cases v <;> exact quiet_quiet _) fun v => ?_
  split
  · exact quiet_quiet _
  · exact refuse_quiet _ _
  · split <;> exact quiet_quiet _

theorem readGateway_quiet (text : Option Json) : (readGateway text).Quiet := by
  refine (document_quiet _ _ _).bind fun v => ?_
  cases v with
  | obj fields =>
    unfold gatewayOfFields
    dsimp only
    split
    · split
      · exact (orRefuse_quiet _ _ _ _).bind fun _ => quiet_quiet _
      · exact refuse_quiet _ _
    · exact refuse_quiet _ _
  | _ => exact refuse_quiet _ _

theorem readPolicy_quiet (text : Option Json) : (readPolicy text).Quiet := by
  refine (document_quiet _ _ _).bind fun v => ?_
  cases v with
  | obj fields =>
    unfold policyOfFields
    dsimp only
    split
    · exact orRefuse_quiet _ _ _ _
    · split
      · exact (orRefuse_quiet _ _ _ _).bind fun _ => orRefuse_quiet _ _ _ _
      · exact refuse_quiet _ _
  | _ => exact refuse_quiet _ _

theorem readCurrent_quiet (text : Option Json) : (readCurrent text).Quiet := by
  refine (document_quiet _ _ _).bind fun v => ?_
  cases v with
  | arr items => exact orRefuse_quiet _ _ _ _
  | _ => exact refuse_quiet _ _

theorem read_quiet (s : Source) : (read s).Quiet :=
  (readHostname_quiet _).bind fun _ => (readGateway_quiet _).bind fun _ =>
    (readPolicy_quiet _).bind fun _ => (readCurrent_quiet _).bind fun _ => quiet_quiet _

-- The parts of an accepted input.
structure Parts (s : Source) (c : Config) : Prop where
  hostname : (readHostname s.hostname).ending = .accepted c.hostname
  gateway : (readGateway s.gateway).ending = .accepted c.gateway
  policy : (readPolicy s.routing).ending = .accepted c.policy
  current : (readCurrent s.current).ending = .accepted c.current

theorem read_parts {s : Source} {c : Config} : (read s).ending = .accepted c ↔ Parts s c := by
  constructor
  · intro done
    obtain ⟨hostname, first, done⟩ := Reading.bind_accepted.mp done
    obtain ⟨gateway, second, done⟩ := Reading.bind_accepted.mp done
    obtain ⟨policy, third, done⟩ := Reading.bind_accepted.mp done
    obtain ⟨current, fourth, done⟩ := Reading.bind_accepted.mp done
    cases done
    exact ⟨first, second, third, fourth⟩
  · intro parts
    simp [read, parts.hostname, parts.gateway, parts.policy, parts.current, Reading.bind]

theorem Reading.bind_whole {r : Reading α} {f : α → Reading β} (whole : ∀ e, (r.bind f).ending ≠ .broken e) :
    r.ending = .refused ∨ ∃ a, r.ending = .accepted a ∧ ∀ e, (f a).ending ≠ .broken e := by
  unfold bind at whole
  cases ending : r.ending with
  | refused => exact .inl rfl
  | broken e => simp [ending] at whole
  | accepted a => exact .inr ⟨a, rfl, by simpa [ending] using whole⟩

theorem Reading.bind_refused {r : Reading α} {f : α → Reading β} :
    (r.bind f).ending = .refused ↔
      r.ending = .refused ∨ ∃ a, r.ending = .accepted a ∧ (f a).ending = .refused := by
  unfold bind
  cases r.ending <;> simp

-- An input that did not break off is refused with current records that are refused.
theorem read_unread {s : Source} {text : Option Json} (unread : (readCurrent text).ending = .refused)
    (whole : ∀ f, (read s).ending ≠ .broken f) : (read { s with current := text }).ending = .refused := by
  refine Reading.bind_refused.mpr ((Reading.bind_whole whole).imp_right ?_)
  rintro ⟨hostname, first, whole⟩
  refine ⟨hostname, first, Reading.bind_refused.mpr ((Reading.bind_whole whole).imp_right ?_)⟩
  rintro ⟨gateway, second, whole⟩
  refine ⟨gateway, second, Reading.bind_refused.mpr ((Reading.bind_whole whole).imp_right ?_)⟩
  rintro ⟨policy, third, _⟩
  exact ⟨policy, third, Reading.bind_refused.mpr (.inl unread)⟩

-- Labels are those that are given, or none.
theorem readGateway_labels {text : Option Json} {g : Gateway}
    (done : (readGateway text).ending = .accepted g) :
    ∃ t fields labels, text = some (.str t) ∧ Json.read t.mended = .ok (.obj fields) ∧ g.labels = .obj labels ∧
      (Json.field? "labels" fields).getD (.obj []) = .obj labels := by
  obtain ⟨v, read, done⟩ := Reading.bind_accepted.mp done
  obtain ⟨s, given, parsed⟩ := document_accepted read
  cases v with
  | obj fields =>
    simp only [gatewayOfFields] at done
    split at done
    · rename_i labels labelled
      split at done
      · obtain ⟨addresses, _, done⟩ := Reading.bind_accepted.mp done
        cases done
        exact ⟨s, fields, labels, given, parsed, rfl, labelled⟩
      · cases done
    · cases done
  | _ => cases done

-- Weights of rules are whole numbers.
theorem weightRule_whole {v : Json} {r : WeightRule} (done : weightRule v = .ok r) :
    ∃ n, r.weight = .int n := by
  obtain ⟨n, _, done⟩ := ok_of_bind done
  cases v with
  | obj fields =>
    obtain ⟨s, _, made⟩ := ok_of_bind done
    cases Except.ok.inj made
    exact ⟨n, rfl⟩
  | _ => cases done

-- The simple strategy has no rules and weighs nothing. For the other one both are read.
theorem readPolicy_weights {text : Option Json} {p : Policy}
    (done : (readPolicy text).ending = .accepted p) :
    ∃ t fields, text = some (.str t) ∧ Json.read t.mended = .ok (.obj fields) ∧
      ((p.rules = [] ∧ p.defaultWeight = .int 0) ∨
        (weightRules ((Json.field? "custom_weights" fields).getD (.arr [])) = .ok p.rules ∧
          p.defaultWeight = (Json.field? "default_weight" fields).getD (.int 0))) := by
  obtain ⟨v, read, made⟩ := Reading.bind_accepted.mp done
  obtain ⟨t, given, parsed⟩ := document_accepted read
  cases v with
  | obj fields =>
    refine ⟨t, fields, given, parsed, ?_⟩
    simp only [policyOfFields] at made
    split at made
    · obtain ⟨rfl, _⟩ := build_accepted made
      exact .inl ⟨rfl, rfl⟩
    · split at made
      · obtain ⟨rules, weighed, made⟩ := Reading.bind_accepted.mp made
        obtain ⟨rfl, _⟩ := build_accepted made
        exact .inr ⟨orRefuse_accepted weighed, rfl⟩
      · cases made
  | _ => cases made

theorem readPolicy_whole {text : Option Json} {p : Policy}
    (done : (readPolicy text).ending = .accepted p) :
    ∀ r ∈ p.rules, ∃ n, r.weight = .int n := by
  intro r listed
  obtain ⟨t, fields, _, _, ⟨none, _⟩ | ⟨all, _⟩⟩ := readPolicy_weights done
  · rw [none] at listed
    cases listed
  · unfold weightRules at all
    split at all
    · cases all
    · obtain ⟨_, _, read⟩ := readAll_listed all r listed
      exact weightRule_whole read

theorem readPolicy_keyed {text : Option Json} {p : Policy}
    (done : (readPolicy text).ending = .accepted p) :
    Json.Keyed (fun _ => True) p.defaultWeight := by
  obtain ⟨t, fields, _, parsed, ⟨_, zero⟩ | ⟨_, default⟩⟩ := readPolicy_weights done
  · exact zero ▸ .int 0
  · rw [default]
    cases found : Json.field? "default_weight" fields with
    | none => exact .int 0
    | some v => exact (Json.read_keyed parsed).field found

theorem readCurrent_parts {text : Option Json} {rs : List Record}
    (done : (readCurrent text).ending = .accepted rs) :
    ∃ t items, text = some (.str t) ∧ Json.read t.mended = .ok (.arr items) ∧
      Record.ofJsonAll items = .ok rs := by
  obtain ⟨v, read, done⟩ := Reading.bind_accepted.mp done
  obtain ⟨s, given, parsed⟩ := document_accepted read
  cases v with
  | arr items => exact ⟨s, items, given, parsed, orRefuse_accepted done⟩
  | _ => cases done

-- Portable records are read back from the document they are printed as.
theorem readCurrent_printed {rs : List Record} (portable : ∀ r ∈ rs, r.Portable) :
    (readCurrent (some (.str (Json.text (.arr (rs.map Record.toJson)) ++ "\n")))).ending = .accepted rs := by
  simp [readCurrent, document, given, Record.read_records portable, Record.ofJsonAll_toJson portable,
    orRefuse]

end DnsSteering.Config
