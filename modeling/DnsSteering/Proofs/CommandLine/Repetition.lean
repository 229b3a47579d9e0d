import DnsSteering.CommandLine.Run
import DnsSteering.Proofs.CommandLine.Arguments
import DnsSteering.Proofs.Config
import DnsSteering.Proofs.Synthesis.Reprint
import DnsSteering.Proofs.Weight.Decimals

namespace DnsSteering.CommandLine

-- Labels of the gateway are texts, and so are attributes and labels of the current records, wherever
-- they are given.
structure Arguments.Textual (a : Arguments) : Prop where
  gateway : ∀ s fields labels, a.gateway = some (.str s) → Json.read s.mended = .ok (.obj fields) →
    Json.field? "labels" fields = some (.obj labels) → ∀ label ∈ labels, label.2.IsText
  current : ∀ s items fields, a.currentRecords = .str s → Json.read s.mended = .ok (.arr items) →
    .obj fields ∈ items → ∀ key, key = "provider_attributes" ∨ key = "labels" →
    ∀ v, Json.field? key fields = some v → TextLabels v

section Input

variable {a : Arguments} {c : Config}

theorem Arguments.Textual.labels (textual : a.Textual)
    (accepted : (Config.read (Run.source a)).ending = .accepted c) : TextLabels c.gateway.labels := by
  obtain ⟨s, fields, labels, given, read, labelled, found⟩ :=
    Config.readGateway_labels (Config.read_parts.mp accepted).gateway
  refine ⟨labels, labelled, ?_⟩
  cases present : Json.field? "labels" fields with
  | none =>
    rw [present] at found
    cases found
    simp
  | some v =>
    rw [present, Option.getD_some] at found
    exact textual.gateway s fields labels given read (present.trans (congrArg some found))

-- A geography and a weight were read, or else they are texts of the program.
theorem Arguments.Textual.steady (textual : a.Textual)
    (accepted : (Config.read (Run.source a)).ending = .accepted c) :
    Synthesis.Steady c.policy c.gateway := by
  have parts := Config.read_parts.mp accepted
  constructor
  · intro geo located
    have text := Synthesis.geoCode_text (textual.labels accepted) located
    obtain ⟨t, fields, labels, _, read, labelled, found⟩ := Config.readGateway_labels parts.gateway
    have keyed : Json.Keyed (fun _ => True) (.obj labels) := by
      cases present : Json.field? "labels" fields with
      | none =>
        rw [present] at found
        cases found
        exact .obj List.nodup_nil (List.forall_mem_nil _) (List.forall_mem_nil _)
      | some v =>
        rw [present, Option.getD_some] at found
        exact found ▸ (Json.read_keyed read).field present
    rw [labelled, Synthesis.geoCode, Except.ok.injEq] at located
    cases coded : Json.field? Synthesis.geoLabel labels with
    | none =>
      rw [coded] at located
      exact located ▸ Json.isSteady_plain _
    | some v =>
      rw [coded] at located
      cases located
      exact (keyed.field coded).isSteady text
  · intro weight resolved
    rcases Weight.resolve_drawn resolved with default | ⟨r, listed, rfl⟩
    · exact default ▸ (Config.readPolicy_keyed parts.policy).display_steady
    · obtain ⟨n, whole⟩ := Config.readPolicy_whole parts.policy r listed
      rw [whole]
      exact Json.isSteady_plain _

theorem Arguments.Textual.records (textual : a.Textual)
    (accepted : (Config.read (Run.source a)).ending = .accepted c) :
    ∀ r ∈ c.current, r.attributes.Steady ∧ r.labels.Steady := by
  obtain ⟨s, items, given, read, made⟩ :=
    Config.readCurrent_parts (Config.read_parts.mp accepted).current
  have keyed : ∀ item ∈ items, Json.Keyed (fun _ => True) item := by
    cases Json.read_keyed read with
    | arr each => exact each
  exact Record.ofJsonAll_steady keyed (fun fields => textual.current s items fields
    (Option.some.inj given) read) made

end Input

namespace Run

-- A publication of an accepted configuration from all its current records.
def publication (c : Config) : Synthesis.Outcome :=
  Synthesis.publish c.gateway (.str c.hostname) c.policy c.current
    (some (List.range c.current.length))

theorem ofConfig_ending (zone : Bool) (c : Config) : (ofConfig zone c).ending =
    match (publication c).published with
    | .error f => if f.isRefusal then .printed "" else .broken f
    | .ok ids => (print zone c.hostname (ids.filterMap fun id => (publication c).records[id]?)).1 := by
  unfold ofConfig publication
  dsimp only
  generalize Synthesis.publish c.gateway (.str c.hostname) c.policy c.current
    (some (List.range c.current.length)) = outcome
  cases outcome.published with
  | error f =>
    dsimp only
    split <;> rfl
  | ok ids => rfl

theorem ofConfig_failed {c : Config} {f : Fault} (failed : (publication c).published = .error f)
    {text : LooseText} (printed : (ofConfig false c).ending = .printed text) : text = "" := by
  rw [ofConfig_ending, failed] at printed
  dsimp only at printed
  split at printed
  · cases printed
    rfl
  · cases printed

theorem ofConfig_shown (zone : Bool) {c : Config} {ids : List Nat} {rs : List Record}
    (done : (publication c).published = .ok ids)
    (shows : Synthesis.Shows (publication c).records ids rs) :
    (ofConfig zone c).ending = (print zone c.hostname rs).1 := by
  rw [ofConfig_ending, done]
  dsimp only
  rw [shows.filterMap]

-- What a document is printed as is no option.
theorem printed_plain (items : List Json) (blank : String) :
    Word.ofText (Json.text (.arr items) ++ blank) = .ok (.plain (Json.text (.arr items) ++ blank)) := by
  have written : (Json.text (.arr items) ++ blank).toList =
      '[' :: ((Json.print 0 (.arr items)).tail ++ blank.toList) := by
    cases items <;> simp [Json.text, Json.print]
  simp [Word.ofText, written]

theorem unread_empty : (Config.readCurrent (some (.str ""))).ending = .refused := rfl

theorem ofArguments_ending {a : Arguments} {level : Log.Level} (given : a.logLevel = some level) :
    (ofArguments a).ending =
      match (Config.read (source a)).ending with
      | .broken f => .broken f
      | .refused => .printed ""
      | .accepted c => (ofConfig a.zone c).ending := by
  unfold ofArguments
  simp only [given]
  cases (Config.read (source a)).ending <;> rfl

theorem ofArguments_level {a : Arguments} {text : LooseText}
    (printed : (ofArguments a).ending = .printed text) : ∃ level, a.logLevel = some level := by
  cases given : a.logLevel with
  | none =>
    unfold ofArguments at printed
    simp only [given] at printed
    cases printed
  | some level => exact ⟨level, rfl⟩

-- Whatever else is given, an empty text for the current records ends a run that would have printed.
theorem ofArguments_unread {a : Arguments} {text : LooseText}
    (printed : (ofArguments a).ending = .printed text) :
    (ofArguments (a.resumed "")).ending = .printed "" := by
  obtain ⟨level, given⟩ := ofArguments_level printed
  have whole : ∀ f, (Config.read (source a)).ending ≠ .broken f := by
    intro f broken
    rw [ofArguments_ending given, broken] at printed
    cases printed
  have refused : (Config.read (source (a.resumed ""))).ending = .refused :=
    Config.read_unread unread_empty whole
  rw [ofArguments_ending (a := a.resumed "") given, refused]

-- Records that were printed are current records, and printed again.
theorem ofArguments_printed {a : Arguments} {c : Config} {ids : List Nat} {text : String}
    (textual : a.Textual) (json : a.zone = false) (accepted : (Config.read (source a)).ending = .accepted c)
    (done : (publication c).published = .ok ids) (printed : (ofArguments a).ending = .printed text) :
    Word.ofText text = .ok (.plain text) ∧
      (ofArguments (a.resumed text)).ending = .printed text := by
  have stored : Synthesis.AllSteady c.current (List.range c.current.length) :=
    fun _ _ r there => textual.records accepted r (List.mem_of_getElem? there)
  obtain ⟨rs, shows, portable, again, kept⟩ :=
    Synthesis.publish_reprinted (textual.labels accepted) (LooseText.unpaired_plain _)
      (textual.steady accepted) stored done
  obtain ⟨level, given⟩ := ofArguments_level printed
  rw [ofArguments_ending given, accepted, json] at printed
  have shown := (ofConfig_shown false done shows).symm.trans printed
  cases shown
  have parts := Config.read_parts.mp accepted
  have reread : (Config.read (source (a.resumed (Json.text (.arr (rs.map Record.toJson)) ++ "\n")))).ending =
      .accepted { c with current := rs } :=
    Config.read_parts.mpr ⟨parts.hostname, parts.gateway, parts.policy,
      Config.readCurrent_printed portable⟩
  have reshown : Synthesis.Shows (publication { c with current := rs }).records
      (List.range rs.length) rs := by
    rw [show (publication { c with current := rs }).records = rs from kept]
    exact Synthesis.shows_range rs
  refine ⟨printed_plain _ _, ?_⟩
  rw [ofArguments_ending (a := a.resumed _) given, reread]
  show (ofConfig a.zone { c with current := rs }).ending = _
  rw [json]
  exact ofConfig_shown false again reshown

-- Documents are printed in ASCII.
theorem ofArguments_plain {a : Arguments} {text : LooseText} (json : a.zone = false)
    (printed : (ofArguments a).ending = .printed text) : ∃ s : String, text = s := by
  obtain ⟨level, given⟩ := ofArguments_level printed
  rw [ofArguments_ending given] at printed
  cases read : (Config.read (source a)).ending with
  | broken f => simp [read] at printed
  | refused =>
    rw [read] at printed
    cases printed
    exact ⟨"", rfl⟩
  | accepted c =>
    rw [read, json] at printed
    cases done : (publication c).published with
    | error f => exact ⟨"", ofConfig_failed done printed⟩
    | ok ids =>
      simp only [ofConfig_ending, done] at printed
      cases printed
      exact ⟨_, rfl⟩

theorem ofArguments_repeated {a : Arguments} {text : String} (textual : a.Textual)
    (json : a.zone = false) (printed : (ofArguments a).ending = .printed text) :
    Word.ofText text = .ok (.plain text) ∧ (ofArguments (a.resumed text)).ending = .printed text := by
  obtain ⟨level, given⟩ := ofArguments_level printed
  have unread : text = "" → Word.ofText text = .ok (.plain text) ∧
      (ofArguments (a.resumed text)).ending = .printed text := by
    rintro rfl
    exact ⟨rfl, ofArguments_unread printed⟩
  have ending := printed
  rw [ofArguments_ending given] at ending
  cases read : (Config.read (source a)).ending with
  | broken f =>
    rw [read] at ending
    cases ending
  | refused =>
    rw [read] at ending
    cases ending
    exact unread rfl
  | accepted c =>
    cases done : (publication c).published with
    | error f =>
      rw [read, json] at ending
      exact unread (LooseText.plain.inj (ofConfig_failed done ending))
    | ok ids => exact ofArguments_printed textual json read done printed

end Run

theorem run_ending {argv : List String} {a : Arguments} (accepted : Arguments.read argv = .ok a) :
    run argv = Run.ofArguments a := by
  simp [run, accepted]

-- A record is published again in place of one with a label beyond the first plane of characters.
def labelledGateway : String :=
  "\x7b\"addresses\": [\x7b\"type\": \"IPAddress\", \"value\": \"192.0.2.1\"\x7d]\x7d"

def labelledText : String :=
  "[\x7b\"name\": \"x\", \"type\": \"A\", \"targets\": [], \"ttl\": 1, " ++
    "\"labels\": \x7b\"é\": \"😀\"\x7d\x7d]"

def labelledRun : Arguments :=
  { hostname := some (.str "x"), gateway := some (.str labelledGateway)
    routing := some (.str "\x7b\"strategy\": \"simple\"\x7d"), currentRecords := .str labelledText }

def labelledWords : List String := [
  "--hostname", "x", "--gateway", labelledGateway, "--routing", "\x7b\"strategy\": \"simple\"\x7d",
  "--current-records", labelledText]

def printout : String := "[
  \x7b
    \"name\": \"x\",
    \"type\": \"A\",
    \"targets\": [
      \"192.0.2.1\"
    ],
    \"ttl\": 60,
    \"set_identifier\": \"\",
    \"provider_attributes\": \x7b\x7d,
    \"labels\": \x7b
      \"\\u00e9\": \"\\ud83d\\ude00\"
    \x7d
  \x7d
]
"

theorem labelled_read : Arguments.read labelledWords = .ok labelledRun := by decide +kernel

theorem labelled_printed : (run labelledWords).ending = .printed printout := by decide +kernel

theorem labelled_textual : labelledRun.Textual := by
  have gateway : Json.read labelledGateway = .ok (.obj [("addresses", .arr [.obj
      [("type", .str "IPAddress"), ("value", .str "192.0.2.1")]])]) := by
    decide +kernel
  have current : Json.read labelledText = .ok (.arr [.obj [("name", .str "x"), ("type", .str "A"),
      ("targets", .arr []), ("ttl", .int 1), ("labels", .obj [("é", .str "😀")])]]) := by
    decide +kernel
  refine ⟨?_, ?_⟩
  · intro s fields labels given read found
    cases given
    cases gateway.symm.trans read
    simp [Json.field?, List.lookup_cons] at found
  · intro s items fields given read listed key named v found
    cases given
    cases current.symm.trans read
    cases List.mem_singleton.mp listed
    rcases named with rfl | rfl
    · simp [Json.field?, List.lookup_cons] at found
    · simp [Json.field?, List.lookup_cons] at found
      exact ⟨_, found.symm, by simp⟩

end DnsSteering.CommandLine
