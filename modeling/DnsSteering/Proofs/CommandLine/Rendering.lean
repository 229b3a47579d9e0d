import DnsSteering.Proofs.CommandLine.Acceptance
import DnsSteering.Proofs.Synthesis.Bystanders
import DnsSteering.Proofs.Zone.Faults

namespace DnsSteering

namespace Synthesis

variable {p : Policy} {g : Gateway} {hostname : LooseText} {base : String} {row : Row}
  {marks : List (Json × Json)}

-- What is published is due, whatever was published before.
theorem published_due {records : List Record} {current ids : List Nat} (labels : TextLabels g.labels)
    (done : (publish g (.str hostname) p records (some current)).published = .ok ids) :
    ∃ base rs, Shows (publish g (.str hostname) p records (some current)).records ids rs ∧
      ∀ r ∈ rs, ∃ marks, Due p g hostname base r.row marks := by
  obtain ⟨start, opened⟩ := publish_opened done
  rw [publish_textual labels opened] at done ⊢
  obtain ⟨base, _, rs, _, _, _, delivered⟩ :=
    published_delivered labels (filter_allText records current) done
  exact ⟨base, rs, delivered.shows, fun r member => (delivered.rows r.row).mp ⟨r, member, rfl⟩⟩

theorem Due.simple_name (due : Due p g hostname base row marks) (simple : p.isSimple = true) :
    row.slot.name = .str hostname := by
  have unbalanced := not_balanced simple
  cases due with
  | addresses | aliases => rfl
  | cluster balanced | leaf balanced | region balanced | fallback balanced | entry balanced =>
    simp [unbalanced] at balanced

end Synthesis

namespace CommandLine

namespace Run

-- How a run ends that prints records as zone text. What is broken off prints nothing.
inductive ZoneEnding (rs : List Record) : Ending → Prop where
  | lines {ls : List LooseText} (done : Zone.lines rs = .ok ls) : ZoneEnding rs (.printed (linesText ls))
  | reported {f : Fault} (failed : Zone.lines rs = .error f) (syntactic : f.isSyntactic = true) :
      ZoneEnding rs (.printed "")
  | overlong (stops : Zone.StopsAt Zone.LongNamed rs) : ZoneEnding rs (.broken (.name .nameTooLong))
  | unordered (stops : Zone.StopsAt (fun r => Zone.comment r = .error .wrongKind) rs) :
      ZoneEnding rs (.broken .wrongKind)

section Print

variable {rs : List Record}

theorem printZone_long (hostname : String) (stops : Zone.StopsAt Zone.LongNamed rs) :
    (printZone hostname rs).1 = .broken (.name .nameTooLong) := by
  obtain ⟨before, r, after, split, written, long⟩ := stops
  have failed : Zone.lines rs = .error (.name .nameTooLong) :=
    Zone.lines_fault.mpr ⟨before, r, after, split, written, long.fault⟩
  simp [printZone, failed, Fault.isSyntactic]

theorem printZone_ending (hostname : String) (named : ∀ r ∈ rs, r.name.IsText)
    (targets : ∀ r ∈ rs, ∀ t ∈ r.targets, t.IsText) : ZoneEnding rs (printZone hostname rs).1 := by
  unfold printZone
  cases rendered : Zone.lines rs with
  | ok ls => exact .lines rendered
  | error f =>
    cases syntactic : f.isSyntactic with
    | true =>
      simp only [syntactic, if_true]
      exact .reported rendered syntactic
    | false =>
      simp only [syntactic, Bool.false_eq_true, if_false]
      obtain ⟨before, r, after, split, written, failed⟩ := Zone.lines_fault.mp rendered
      have member : r ∈ rs := by
        rw [split]
        exact List.mem_append_right _ (List.mem_cons_self ..)
      rcases Zone.recordLines_fault (named r member) (targets r member) failed with
        other | ⟨rfl, long⟩ | ⟨rfl, unordered⟩
      · rw [syntactic] at other
        cases other
      · exact .overlong ⟨before, r, after, split, written, long⟩
      · exact .unordered ⟨before, r, after, split, written, unordered⟩

-- Nothing else ends with a name that is too long.
theorem ZoneEnding.long (ending : ZoneEnding rs (.broken (.name .nameTooLong))) :
    Zone.StopsAt Zone.LongNamed rs := by
  cases ending with
  | overlong stops => exact stops

end Print

-- With a simple policy all records have the hostname for a name, and that was read when it was accepted.
theorem simple_short {c : Config} {base : String} {rs : List Record}
    (accepted : Hostname.refusal? true c.hostname = none)
    (due : ∀ r ∈ rs, ∃ marks, Synthesis.Due c.policy c.gateway c.hostname base r.row marks)
    (simple : c.policy.isSimple = true) : ¬ Zone.StopsAt Zone.LongNamed rs := by
  intro stops
  obtain ⟨before, r, after, split, _, s, given, unread⟩ := stops
  have member : r ∈ rs := by
    rw [split]
    exact List.mem_append_right _ (List.mem_cons_self ..)
  obtain ⟨marks, here⟩ := due r member
  have same : r.name = .str c.hostname := here.simple_name simple
  obtain ⟨name, _, read, _⟩ := Hostname.accepted_read accepted
  cases given.symm.trans same
  cases read.symm.trans unread

end Run

-- Regular records are rendered, or fail as text of a zone, unless their own name is too long. So does a
-- run with an accepted input that was published, and it breaks off exactly where the first record that
-- cannot be rendered has such a name, or attributes without an order.
theorem run_rendered (r : Record) (argv : List String) (a : Arguments) (c : Config) (ids : List Nat) :
    (Zone.Regular r →
      ((∃ ls, Zone.recordLines r = .ok ls) ∨
        ∃ f, Zone.recordLines r = .error f ∧ (f.isSyntactic = true ∨ f = .name .nameTooLong)) ∧
      (Zone.recordLines r = .error (.name .nameTooLong) ↔ Zone.LongNamed r)) ∧
    (Arguments.read argv = .ok a → a.zone = true → (Config.read (Run.source a)).ending = .accepted c →
      TextLabels c.gateway.labels → (Run.publication c).published = .ok ids →
      ∃ rs, Synthesis.Shows (Run.publication c).records ids rs ∧
        (a.logLevel = none → (run argv).ending = .broken .noMember) ∧
        (a.logLevel ≠ none → Run.ZoneEnding rs (run argv).ending ∧
          ((run argv).ending = .broken (.name .nameTooLong) ↔ Zone.StopsAt Zone.LongNamed rs)) ∧
        (c.policy.isSimple = true → ¬ Zone.StopsAt Zone.LongNamed rs)) := by
  constructor
  · intro regular
    refine ⟨?_, Zone.recordLines_long regular.text.name regular.targets⟩
    cases rendered : Zone.recordLines r with
    | ok ls => exact .inl ⟨ls, rfl⟩
    | error f =>
      refine .inr ⟨f, rfl, ?_⟩
      rcases Zone.recordLines_fault regular.text.name regular.targets rendered with
        syntactic | ⟨long, _⟩ | ⟨_, unordered⟩
      · exact .inl syntactic
      · exact .inr long
      · obtain ⟨note, noted⟩ := Zone.comment_named regular.attributes.isNamed
        cases noted.symm.trans unordered
  · intro accepted zone read labels done
    obtain ⟨base, rs, shows, due⟩ := Synthesis.published_due labels done
    have named : ∀ r ∈ rs, r.name.IsText := by
      intro r member
      obtain ⟨marks, here⟩ := due r member
      exact (here.slot_text labels).name
    have targets : ∀ r ∈ rs, ∀ t ∈ r.targets, t.IsText := by
      intro r member
      obtain ⟨marks, here⟩ := due r member
      exact here.targets_text
    have host := Config.readHostname_accepted (Config.read_parts.mp read).hostname
    refine ⟨rs, shows, ?_, ?_, Run.simple_short host due⟩
    · intro unleveled
      rw [run_ending accepted]
      simp [Run.ofArguments, unleveled]
    · intro leveled
      obtain ⟨level, given⟩ := Option.ne_none_iff_exists'.mp leveled
      have ending : (run argv).ending = (Run.printZone c.hostname rs).1 := by
        rw [run_ending accepted, Run.ofArguments_ending given, read, zone]
        exact Run.ofConfig_shown true done shows
      have ends := Run.printZone_ending c.hostname named targets
      rw [ending]
      refine ⟨ends, fun broken => ?_, Run.printZone_long c.hostname⟩
      rw [broken] at ends
      exact ends.long

-- The label for the geography becomes part of names, whatever it is. Each of its Arabic letters stands
-- for eighteen characters.
def sprawlingGateway : String :=
  "\x7b\"labels\":\x7b\"kuadrant.io/lb-attribute-geo-code\":\"aaa.ﷺﷺ.ﷺﷺ.ﷺﷺ.ﷺﷺ.ﷺﷺ\"\x7d," ++
    "\"addresses\":[\x7b\"type\":\"Hostname\",\"value\":\"edge.x\"\x7d]\x7d"

def spreadRouting : String := "\x7b\"cluster_id\":\"c1\",\"default_geo\":\"IE\",\"default_weight\":120\x7d"

def sprawlingWords : List String := [
  "--hostname", "x", "--gateway", sprawlingGateway, "--routing", spreadRouting, "--output-format", "zone"]

def sprawlingRun : Arguments :=
  { hostname := some (.str "x"), gateway := some (.str sprawlingGateway)
    routing := some (.str spreadRouting), zone := true }

def sprawling : Config :=
  { hostname := "x", policy := Synthesis.spread, current := []
    gateway := ⟨.str "", .str "", .obj [(Synthesis.geoLabel, .str "aaa.ﷺﷺ.ﷺﷺ.ﷺﷺ.ﷺﷺ.ﷺﷺ")], [Synthesis.edge]⟩ }

theorem sprawling_read : Arguments.read sprawlingWords = .ok sprawlingRun := by decide +kernel

theorem sprawling_accepted : (Config.read (Run.source sprawlingRun)).ending = .accepted sprawling := by
  decide +kernel

theorem sprawling_labels : TextLabels sprawling.gateway.labels := by
  refine ⟨_, rfl, fun f member => ?_⟩
  cases List.mem_singleton.mp member
  exact ⟨_, rfl⟩

theorem sprawling_published : (Run.publication sprawling).published = .ok [0, 1, 2] := by decide +kernel

-- A name of one hundred and twenty-eight labels.
def endlessName : List Char := 'a' :: (List.replicate 127 ['.', 'a']).flatten

def endlessRecord : Record :=
  ⟨.str (String.ofList endlessName), .a, [.str "192.0.2.1"], .int 60, .str "", [], []⟩

theorem endless_regular : Zone.Regular endlessRecord := by
  refine ⟨⟨⟨_, rfl⟩, ⟨_, rfl⟩⟩, .inl rfl, ?_, ⟨_, rfl⟩, ⟨List.forall_mem_nil _, List.nodup_nil⟩⟩
  intro t member
  cases List.mem_singleton.mp member
  exact ⟨_, rfl⟩

theorem sprawling_rendered : Arguments.read sprawlingWords = .ok sprawlingRun ∧
    (Config.read (Run.source sprawlingRun)).ending = .accepted sprawling ∧
    TextLabels sprawling.gateway.labels ∧ (Run.publication sprawling).published = .ok [0, 1, 2] ∧
    (∃ rs, Run.ZoneEnding rs (run sprawlingWords).ending ∧
      ((run sprawlingWords).ending = .broken (.name .nameTooLong) ↔ Zone.StopsAt Zone.LongNamed rs)) ∧
    Zone.Regular endlessRecord ∧
    (Zone.recordLines endlessRecord = .error (.name .nameTooLong) ↔ Zone.LongNamed endlessRecord) := by
  obtain ⟨alone, together⟩ := run_rendered endlessRecord sprawlingWords sprawlingRun sprawling [0, 1, 2]
  obtain ⟨rs, _, _, leveled, _⟩ :=
    together sprawling_read rfl sprawling_accepted sprawling_labels sprawling_published
  exact ⟨sprawling_read, sprawling_accepted, sprawling_labels, sprawling_published,
    ⟨rs, leveled (by decide)⟩, endless_regular, (alone endless_regular).2⟩

theorem endless_long : Zone.LongNamed endlessRecord := by
  refine ⟨_, rfl, ?_⟩
  rw [LooseText.mended_plain, Name.read, String.toList_ofList]
  decide +kernel

-- A name that is too long is no fault of zone text, and it leaves a run of an accepted input.
theorem long_names_break :
    (¬ ∀ r, Zone.Regular r → (∃ ls, Zone.recordLines r = .ok ls) ∨
      ∃ f, Zone.recordLines r = .error f ∧ f.isSyntactic = true) ∧
    ¬ ∀ argv a c ids, Arguments.read argv = .ok a → a.zone = true →
      (Config.read (Run.source a)).ending = .accepted c → TextLabels c.gateway.labels →
      (Run.publication c).published = .ok ids → ∀ e, (run argv).ending ≠ .broken (.name e) := by
  constructor
  · intro rendered
    have fault := endless_long.fault
    rcases rendered endlessRecord endless_regular with ⟨ls, done⟩ | ⟨f, failed, syntactic⟩
    · cases fault.symm.trans done
    · cases fault.symm.trans failed
      cases syntactic
  · intro whole
    have level : sprawlingRun.logLevel = some .warning := rfl
    have ending : (run sprawlingWords).ending = .broken (.name .nameTooLong) := by
      rw [run_ending sprawling_read, Run.ofArguments_ending level, sprawling_accepted]
      decide +kernel
    exact whole sprawlingWords sprawlingRun sprawling [0, 1, 2] sprawling_read rfl sprawling_accepted
      sprawling_labels sprawling_published _ ending

end CommandLine
end DnsSteering
