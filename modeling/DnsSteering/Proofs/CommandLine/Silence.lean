import DnsSteering.Proofs.CommandLine.Repetition
import DnsSteering.Proofs.Config.Breaks

namespace DnsSteering.Config

-- The errors that a reading logged.
def Reading.errors {α : Type} (r : Reading α) : List Log.Line :=
  r.log.filter fun l => l.level = .error

-- One error where it is refused, none where it is accepted.
structure Explained {α : Type} (r : Reading α) : Prop where
  refused : r.ending = .refused ↔ r.errors.length = 1
  accepted : (∃ a, r.ending = .accepted a) ↔ r.errors = []

-- What four texts are refused for in silence: a document that is nothing at all, with all that is read
-- before it accepted.
inductive Silent (hostname gateway routing current : String) : Prop where
  | gateway (named : Hostname.refusal? true hostname = none) (empty : Json.read gateway = .ok .null)
  | routing {g : Gateway} (named : Hostname.refusal? true hostname = none)
      (reached : (readGateway (some (.str gateway))).ending = .accepted g)
      (empty : Json.read routing = .ok .null)
  | current {g : Gateway} {p : Policy} (named : Hostname.refusal? true hostname = none)
      (reached : (readGateway (some (.str gateway))).ending = .accepted g)
      (governed : (readPolicy (some (.str routing))).ending = .accepted p)
      (empty : Json.read current = .ok .null)

section Readings

variable {α β : Type} {s : String} {log : List Log.Line}

-- A refusal in one error.
def Told (log : List Log.Line) : Prop := ∃ line, log = [line] ∧ line.level = .error

theorem told_refuse {origin : Log.Origin} {message : String}
    (refused : refuse (α := α) origin message = ⟨.refused, log⟩) : Told log := by
  cases refused
  exact ⟨_, rfl, rfl⟩

theorem not_told_nil : ¬ Told [] := by
  rintro ⟨line, same, _⟩
  cases same

-- Where the first of two readings logs only what it refuses.
theorem Reading.Quiet.bind_refused {r : Reading α} (quiet : r.Quiet) {g : α → Reading β} :
    r.bind g = ⟨.refused, log⟩ ↔
      r = ⟨.refused, log⟩ ∨ ∃ a, r.ending = .accepted a ∧ g a = ⟨.refused, log⟩ := by
  obtain ⟨ending, before⟩ := r
  cases ending with
  | refused => simp [Reading.bind]
  | broken f => simp [Reading.bind]
  | accepted a =>
    obtain rfl : before = [] := quiet (by simp)
    simp [Reading.bind, Reading.ext_iff]

theorem told_orRefuse {origin : Log.Origin} {what : String} {isReason : Fault → Bool}
    {x : Except Fault α} (refused : orRefuse origin what isReason x = ⟨.refused, log⟩) : Told log := by
  cases x with
  | ok a => cases refused
  | error f =>
    cases reason : isReason f <;> simp only [orRefuse, reason] at refused
    · cases refused
    · exact told_refuse refused

-- Where everything else says why, only a document that is nothing at all does not.
theorem document_refused {key : LooseText} {what : String} {g : Json → Reading α}
    (told : ∀ v log, g v = ⟨.refused, log⟩ → Told log)
    (refused : (document key what (some (.str s))).bind g = ⟨.refused, log⟩) :
    Told log ∨ log = [] ∧ Json.read s = .ok .null := by
  rcases (document_quiet _ _ _).bind_refused.mp refused with unread | ⟨v, _, rest⟩
  · simp only [document, given, Reading.bind_accepted_quiet] at unread
    split at unread
    · exact .inl (told_refuse unread)
    · rename_i empty
      cases unread
      exact .inr ⟨rfl, empty⟩
    · cases unread
  · exact .inl (told v log rest)

theorem document_null {key : LooseText} {what : String} {g : Json → Reading α}
    (empty : Json.read s = .ok .null) :
    (document key what (some (.str s))).bind g = ⟨.refused, []⟩ := by
  have unread : document key what (some (.str s)) = .quiet .refused := by
    simp only [document, given, Reading.bind_accepted_quiet, LooseText.mended_plain, empty]
  rw [unread, Reading.bind_refused_quiet]
  rfl

theorem readHostname_refused (refused : readHostname (some (.str s)) = ⟨.refused, log⟩) : Told log := by
  simp only [readHostname, given, Reading.bind_accepted_quiet, Hostname.check] at refused
  split at refused
  · cases refused
  · exact told_refuse refused
  · cases refused

theorem readGateway_refused (refused : readGateway (some (.str s)) = ⟨.refused, log⟩) :
    Told log ∨ log = [] ∧ Json.read s = .ok .null := by
  refine document_refused (fun v log refused => ?_) refused
  cases v with
  | obj fields =>
    simp only [gatewayOfFields] at refused
    split at refused
    · split at refused
      · rcases (orRefuse_quiet _ _ _ _).bind_refused.mp refused with addressed | ⟨_, _, rest⟩
        · exact told_orRefuse addressed
        · cases rest
      · exact told_refuse refused
    · exact told_refuse refused
  | _ => exact told_refuse refused

theorem readPolicy_refused (refused : readPolicy (some (.str s)) = ⟨.refused, log⟩) :
    Told log ∨ log = [] ∧ Json.read s = .ok .null := by
  refine document_refused (fun v log refused => ?_) refused
  cases v with
  | obj fields =>
    simp only [policyOfFields] at refused
    split at refused
    · exact told_orRefuse refused
    · split at refused
      · rcases (orRefuse_quiet _ _ _ _).bind_refused.mp refused with weighed | ⟨_, _, built⟩
        · exact told_orRefuse weighed
        · exact told_orRefuse built
      · exact told_refuse refused
  | _ => exact told_refuse refused

theorem readCurrent_refused (refused : readCurrent (some (.str s)) = ⟨.refused, log⟩) :
    Told log ∨ log = [] ∧ Json.read s = .ok .null := by
  refine document_refused (fun v log refused => ?_) refused
  cases v with
  | arr items => exact told_orRefuse refused
  | _ => exact told_refuse refused

end Readings

section Texts

variable {hostname gateway routing current : String} {log : List Log.Line}

theorem texts_refused (refused : read (texts hostname gateway routing current) = ⟨.refused, log⟩) :
    Told log ∨ log = [] ∧ Silent hostname gateway routing current := by
  rcases (readHostname_quiet _).bind_refused.mp refused with unnamed | ⟨_, first, refused⟩
  · exact .inl (readHostname_refused unnamed)
  obtain ⟨named, rfl⟩ := ((readHostname_text (f := .wrongKind)).2 _).mp first
  rcases (readGateway_quiet _).bind_refused.mp refused with unreached | ⟨g, reached, refused⟩
  · exact (readGateway_refused unreached).imp_right (And.imp_right (.gateway named))
  rcases (readPolicy_quiet _).bind_refused.mp refused with ungoverned | ⟨p, governed, refused⟩
  · exact (readPolicy_refused ungoverned).imp_right (And.imp_right (.routing named reached))
  rcases (readCurrent_quiet _).bind_refused.mp refused with unread | ⟨rs, _, done⟩
  · exact (readCurrent_refused unread).imp_right (And.imp_right (.current named reached governed))
  · cases done

theorem texts_silent : read (texts hostname gateway routing current) = ⟨.refused, []⟩ ↔
    Silent hostname gateway routing current := by
  constructor
  · intro refused
    rcases texts_refused refused with told | ⟨_, silent⟩
    · exact absurd told not_told_nil
    · exact silent
  · intro silent
    have first : ∀ named : Hostname.refusal? true hostname = none,
        (readHostname (some (.str hostname))).ending = .accepted hostname :=
      fun named => ((readHostname_text (f := .wrongKind)).2 hostname).mpr ⟨named, rfl⟩
    cases silent with
    | gateway named empty =>
      exact (readHostname_quiet _).bind_refused.mpr (.inr ⟨_, first named,
        (readGateway_quiet _).bind_refused.mpr (.inl (document_null empty))⟩)
    | routing named reached empty =>
      exact (readHostname_quiet _).bind_refused.mpr (.inr ⟨_, first named,
        (readGateway_quiet _).bind_refused.mpr (.inr ⟨_, reached,
          (readPolicy_quiet _).bind_refused.mpr (.inl (document_null empty))⟩)⟩)
    | current named reached governed empty =>
      exact (readHostname_quiet _).bind_refused.mpr (.inr ⟨_, first named,
        (readGateway_quiet _).bind_refused.mpr (.inr ⟨_, reached,
          (readPolicy_quiet _).bind_refused.mpr (.inr ⟨_, governed,
            (readCurrent_quiet _).bind_refused.mpr (.inl (document_null empty))⟩)⟩)⟩)

-- What was not broken off is explained, unless it was refused without a word.
theorem explained_iff {α : Type} {r : Reading α} (whole : ∀ f, r.ending ≠ .broken f) (quiet : r.Quiet)
    (told : ∀ log, r = ⟨.refused, log⟩ → Told log ∨ log = []) : Explained r ↔ r ≠ ⟨.refused, []⟩ := by
  obtain ⟨ending, log⟩ := r
  cases ending with
  | broken f => exact absurd rfl (whole f)
  | accepted a =>
    obtain rfl : log = [] := quiet (by simp)
    exact ⟨fun _ => by simp, fun _ => ⟨by simp [Reading.errors], by simp [Reading.errors]⟩⟩
  | refused =>
    rcases told log rfl with ⟨line, rfl, error⟩ | rfl
    · exact ⟨fun _ => by simp,
        fun _ => ⟨by simp [Reading.errors, error], by simp [Reading.errors, error]⟩⟩
    · refine ⟨fun explained => ?_, fun spoken => absurd rfl spoken⟩
      have one := explained.refused.mp rfl
      cases one

end Texts

end DnsSteering.Config

namespace DnsSteering.CommandLine

-- Errors are seen at every level but the highest.
theorem visible_told {level : Log.Level} {log : List Log.Line} (told : Config.Told log) :
    Log.visible level log = [] ↔ level = .critical := by
  obtain ⟨line, rfl, error⟩ := told
  cases level <;> simp [Log.visible, error, Log.Level.rank]

theorem Run.ofArguments_refused {a : Arguments} {level : Log.Level} {log : List Log.Line}
    (leveled : a.logLevel = some level) (refused : Config.read (Run.source a) = ⟨.refused, log⟩) :
    Run.ofArguments a = ⟨.printed "", Log.visible level log⟩ := by
  simp [Run.ofArguments, leveled, refused]

-- A document that is `null` is all that keeps a refusal from being explained in one error. A run that
-- refuses its input prints nothing, and has nothing to say for it with such a document, or where errors are
-- not asked for.
theorem refusals_explained (hostname gateway routing current : String)
    (whole : ∀ f, (Config.read (Config.texts hostname gateway routing current)).ending ≠ .broken f) :
    (Config.Explained (Config.read (Config.texts hostname gateway routing current)) ↔
      ¬ Config.Silent hostname gateway routing current) ∧
    (Config.read (Config.texts hostname gateway routing current) = ⟨.refused, []⟩ ↔
      Config.Silent hostname gateway routing current) ∧
    ∀ argv a level, Arguments.read argv = .ok a →
      Run.source a = Config.texts hostname gateway routing current → a.logLevel = some level →
      (Config.read (Run.source a)).ending = .refused → (run argv).ending = .printed "" ∧
        ((run argv).log = [] ↔ Config.Silent hostname gateway routing current ∨ level = .critical) := by
  refine ⟨?_, Config.texts_silent, ?_⟩
  · rw [Config.explained_iff whole (Config.read_quiet _) fun log refused =>
      (Config.texts_refused refused).imp_right And.left]
    exact not_congr Config.texts_silent
  · intro argv a level accepted given leveled ended
    have refused : Config.read (Run.source a) = ⟨.refused, (Config.read (Run.source a)).log⟩ :=
      Config.Reading.ext ended rfl
    rw [run_ending accepted, Run.ofArguments_refused leveled refused]
    refine ⟨rfl, ?_⟩
    rw [given] at refused ⊢
    rcases Config.texts_refused refused with told | ⟨wordless, silent⟩
    · have spoken : ¬ Config.Silent hostname gateway routing current := by
        intro silent
        rw [Config.texts_silent.mpr silent] at told
        exact Config.not_told_nil told
      rw [visible_told told]
      simp [spoken]
    · rw [wordless]
      exact iff_of_true rfl (.inl silent)

def refusedWords (gateway : String) : List String :=
  ["--hostname", "a.x", "--gateway", gateway, "--routing", Config.simpleRouting]

def refusedRun (gateway : String) : Arguments :=
  { hostname := some (.str "a.x"), gateway := some (.str gateway)
    routing := some (.str Config.simpleRouting) }

def listed : Log.Line := ⟨.error, .gateway, "Gateway must be a dictionary, got list"⟩

-- An empty list for the gateway is explained.
theorem listed_explained :
    (∀ f, (Config.read (Config.texts "a.x" "[]" Config.simpleRouting "[]")).ending ≠ .broken f) ∧
    Config.Explained (Config.read (Config.texts "a.x" "[]" Config.simpleRouting "[]")) ∧
    Arguments.read (refusedWords "[]") = .ok (refusedRun "[]") ∧
    (run (refusedWords "[]")).ending = .printed "" ∧ (run (refusedWords "[]")).log ≠ [] := by
  have refused : Config.read (Config.texts "a.x" "[]" Config.simpleRouting "[]") = ⟨.refused, [listed]⟩ := by
    decide +kernel
  have read : Arguments.read (refusedWords "[]") = .ok (refusedRun "[]") := by decide +kernel
  have whole : ∀ f, (Config.read (Config.texts "a.x" "[]" Config.simpleRouting "[]")).ending ≠ .broken f := by
    simp [refused]
  obtain ⟨explained, silent, runs⟩ := refusals_explained "a.x" "[]" Config.simpleRouting "[]" whole
  have spoken : ¬ Config.Silent "a.x" "[]" Config.simpleRouting "[]" := by
    rw [← silent, refused]
    simp
  obtain ⟨ending, quiet⟩ := runs _ _ _ read rfl rfl (congrArg Config.Reading.ending refused)
  exact ⟨whole, explained.mpr spoken, read, ending, by simp [quiet, spoken]⟩

-- A gateway of `null` is not: nothing is printed and nothing is logged.
theorem null_unexplained :
    Config.read (Config.texts "a.x" "null" Config.simpleRouting "[]") = ⟨.refused, []⟩ ∧
    run (refusedWords "null") = ⟨.printed "", []⟩ ∧
    ¬ ∀ hostname gateway routing current,
      (∀ f, (Config.read (Config.texts hostname gateway routing current)).ending ≠ .broken f) →
        Config.Explained (Config.read (Config.texts hostname gateway routing current)) := by
  have refused : Config.read (Config.texts "a.x" "null" Config.simpleRouting "[]") = ⟨.refused, []⟩ := by
    decide +kernel
  refine ⟨refused, by decide +kernel, fun all => ?_⟩
  have explained := all "a.x" "null" Config.simpleRouting "[]" (by simp [refused])
  rw [refused] at explained
  have one := explained.refused.mp rfl
  cases one

end DnsSteering.CommandLine
