import DnsSteering.Proofs.Dns.Plain
import DnsSteering.Proofs.Synthesis.Arrival
import DnsSteering.Proofs.Synthesis.Refusals
import DnsSteering.Proofs.Synthesis.Reprint
import DnsSteering.Proofs.Zone.Lines

namespace DnsSteering

namespace Synthesis

section Names

variable {p : Policy} {g : Gateway} {base : String}

-- The label for the geography, if it is given, is an ASCII label.
def PlainGeography (labels : Json) : Prop :=
  ∀ fields v, labels = .obj fields → Json.field? geoLabel fields = some v →
    ∃ s : String, v = .str s ∧ Hostname.isLabel s.toList = true ∧ ∀ c ∈ s.toList, c.toNat < 128

theorem lower_plain {label rest : String} (some : label.toList ≠ [])
    (letters : ∀ c ∈ label.toList, Name.IsPlainChar c) (plain : Name.IsPlain rest.toList) :
    Name.IsPlain (Text.lower (label ++ "." ++ rest)).toList := by
  have whole : Name.IsPlain (label ++ "." ++ rest).toList := by
    have listed : (label ++ "." ++ rest).toList = label.toList ++ '.' :: rest.toList := by simp
    rw [listed]
    exact plain.cons some letters
  rw [Text.lower, String.toList_ofList, Text.lowerFrom_ascii whole.ascii]
  exact whole.map_toLower

theorem balancerName_plain (plain : Name.IsPlain base.toList) :
    Name.IsPlain (balancerName base).toList :=
  lower_plain (by decide) (fun c listed => Name.plainChar_quiet c (balancerLabel_quiet c listed)) plain

theorem geoName_plain (geography : PlainGeography g.labels) {geo : Json}
    (located : geoCode g.labels = .ok geo) {balancer : String} (plain : Name.IsPlain balancer.toList) :
    ∃ name : String, geoName geo balancer = name ∧ Name.IsPlain name.toList := by
  have label : ∃ s : String, geo = .str s ∧ s.toList ≠ [] ∧ ∀ c ∈ s.toList, Name.IsPlainChar c := by
    unfold geoCode at located
    split at located
    · rename_i fields given
      cases found : Json.field? geoLabel fields with
      | none =>
        have quiet : ∀ c ∈ "default".toList, c ∈ Name.quiet := Text.forall_of_all (by decide)
        rw [found] at located
        exact ⟨"default", (Except.ok.inj located).symm, by decide,
          fun c listed => Name.plainChar_quiet c (quiet c listed)⟩
      | some v =>
        obtain ⟨s, text, isLabel, ascii⟩ := geography fields v given found
        rw [found] at located
        simp only [Hostname.isLabel, Bool.and_eq_true] at isLabel
        refine ⟨s, (Except.ok.inj located).symm.trans text, by simpa using isLabel.1, ?_⟩
        exact fun c listed => ⟨ascii c listed, .inl (List.all_eq_true.mp isLabel.2 c listed)⟩
    · cases located
  obtain ⟨s, rfl, some, letters⟩ := label
  exact ⟨_, rfl, lower_plain some letters plain⟩

theorem clusterName_plain {balancer t : String} (named : clusterName p g balancer = .ok t)
    (plain : Name.IsPlain balancer.toList) : Name.IsPlain t.toList := by
  obtain ⟨_, cluster, gateway, _, first, second, rfl⟩ := clusterName_ok named
  exact lower_plain (by simp)
    (fun c listed => Name.plainChar_quiet c (codes_quiet first second c listed)) plain

end Names

-- The names of records are within the limits of names.
def WithinLimits (rs : List Record) : Prop :=
  ∀ r ∈ rs, ∀ name : String, r.name = .str name → Name.Fits name.toList

section Rendering

variable {p : Policy} {g : Gateway} {hostname base : String} {start : Ledger}
  {records rs : List Record} {ids : List Nat} {row : Row} {marks : List (Json × Json)}

theorem Due.name_plain (geography : PlainGeography g.labels) (host : Name.IsPlain hostname.toList)
    (plain : Name.IsPlain base.toList) (due : Due p g hostname base row marks) :
    ∃ name : String, row.slot.name = .str name ∧ Name.IsPlain name.toList := by
  have balancer := balancerName_plain plain
  cases due with
  | addresses | aliases | entry => exact ⟨_, rfl, host⟩
  | cluster _ _ named => exact ⟨_, rfl, clusterName_plain named balancer⟩
  | leaf _ located =>
    obtain ⟨name, written, plain⟩ := geoName_plain geography located balancer
    exact ⟨name, congrArg Json.str written, plain⟩
  | region | fallback => exact ⟨_, rfl, balancer⟩

theorem owner_ok {name : String} (plain : Name.IsPlain name.toList) :
    (∃ owner, Name.ofJson (.str name) = .ok owner) ↔ Name.Fits name.toList := by
  rw [← Name.read_plain plain]
  simp only [Name.ofJson, LooseText.mended_plain]
  cases Name.read name <;> simp

theorem alias_ok {s : String} (word : Zone.IsWord s.toList) {name : Name}
    (read : Name.read s = .ok name) : ∃ d, Zone.data .cname (.str s) = .ok d := by
  have done := (Zone.Data.read_alias word).mpr ⟨name, read, rfl⟩
  exact ⟨.alias name, by simp [Zone.data, done]⟩

-- An IP address can be written in an address record only if it is of the older kind.
theorem ip_ok {s : String} (accepted : Ip.refusal? s = none) :
    (∃ d, Zone.data .a (.str s) = .ok d) ↔ Ipv4.isValid s.toList = true := by
  constructor
  · rintro ⟨d, done⟩
    refine (Ip.accepted_kind accepted).resolve_right fun ipv6 => ?_
    simp only [Zone.data] at done
    cases read : Zone.Data.read .a s.toList with
    | error f => simp [read] at done
    | ok d' => exact Zone.Data.read_ipv6 ipv6 d' read
  · intro valid
    obtain ⟨octets, made⟩ := Option.isSome_iff_exists.mp valid
    exact ⟨.address octets, by simp [Zone.data, Zone.Data.read_octets made]⟩

theorem hostname_word {s : String} (accepted : Hostname.refusal? false s = none) :
    Zone.IsWord s.toList := by
  obtain ⟨some, labels, _⟩ := Hostname.refusal?_eq_none.mp accepted
  have parts : Hostname.labels false s.toList = Text.split '.' s.toList := by
    unfold Hostname.labels
    split
    · rename_i same
      rw [same]
      rfl
    · rfl
  rw [parts] at labels
  refine ⟨some, fun c listed => ?_⟩
  have inner : c = '.' ∨ ∃ part ∈ Text.split '.' s.toList, c ∈ part := Text.part_of_mem listed
  rcases inner with rfl | ⟨part, member, inside⟩
  · decide
  · have label := labels part member
    simp only [Hostname.isLabel, Bool.and_eq_true] at label
    have letter := List.all_eq_true.mp label.2 c inside
    have strange : ∀ d ∈ Zone.special, Hostname.isLabelChar d = false :=
      Text.forall_of_all (by decide)
    refine Zone.special_notMem fun special => ?_
    rw [strange c special] at letter
    cases letter

-- What an accepted address can be written as: data of an address record, or of an alias.
theorem address_ok (a : Address) :
    (a.isIp = true → ((∃ d, Zone.data .a (.str a.value) = .ok d) ↔ Ipv4.isValid a.value.toList = true)) ∧
    (a.isIp = false → ∃ d, Zone.data .cname (.str a.value) = .ok d) := by
  obtain ⟨kind, s, accepted⟩ := a
  cases kind with
  | ip => exact ⟨fun _ => ip_ok accepted, fun other => by simp [Address.isIp] at other⟩
  | hostname =>
    obtain ⟨_, _, name, read⟩ := Hostname.refusal?_eq_none.mp accepted
    exact ⟨fun ip => by simp [Address.isIp] at ip, fun _ => alias_ok (hostname_word accepted) read⟩

section Delivered

variable (sound : (plan p g (.str hostname) base).fault = none)
  (rows : ∀ row, (∃ r ∈ rs, r.row = row) ↔ ∃ marks, Due p g hostname base row marks)

include sound rows

-- Every IP address is in a record, and there it is to be written as data of an address record.
theorem ip_renderable (renderable : ∀ r ∈ rs, Zone.Renderable r) :
    ∀ s ∈ g.ips, Ipv4.isValid s.toList = true := by
  intro s listed
  obtain ⟨a, held, ip, rfl⟩ := Gateway.mem_ips.mp listed
  have addressed : g.addresses ≠ [] := List.ne_nil_of_mem held
  obtain ⟨row, marks, due, target, typed⟩ := due_address addressed sound held
  obtain ⟨r, member, here⟩ := (rows row).mpr ⟨marks, due⟩
  have type : r.type = .a := (congrArg (·.slot.type) here).trans (typed ip)
  have inside : .str a.value ∈ r.targets := by
    rw [show r.targets = row.targets from congrArg Row.targets here]
    exact target
  obtain ⟨d, done⟩ := (renderable r member).data _ inside
  rw [type] at done
  exact ((address_ok a).1 ip).mp ⟨d, done⟩

-- A target is an address of the gateway or, of an alias, the name of a record.
theorem target_renderable (named : ∀ r ∈ rs, ∃ name : String, r.name = .str name ∧ Name.IsPlain name.toList)
    (limits : WithinLimits rs) (valid : ∀ s ∈ g.ips, Ipv4.isValid s.toList = true) {r : Record}
    (member : r ∈ rs) {t : Json} (target : t ∈ r.targets) : ∃ d, Zone.data r.type t = .ok d := by
  obtain ⟨marks, due⟩ := (rows r.row).mp ⟨r, member, rfl⟩
  rcases due_target due.addressed sound due target with
    ⟨a, held, rfl, kind⟩ | ⟨aliased, row', marks', next, leads⟩
  · rcases due.type with isAddress | isAlias
    · have ip := kind.mpr isAddress
      rw [show r.type = .a from isAddress]
      exact ((address_ok a).1 ip).mpr (valid _ (Gateway.mem_ips.mpr ⟨a, held, ip, rfl⟩))
    · have notIp : a.isIp = false := by
        have retyped : ¬ RecordType.cname = RecordType.a := by decide
        rw [isAlias] at kind
        simpa [retyped] using kind
      rw [show r.type = .cname from isAlias]
      exact (address_ok a).2 notIp
  · obtain ⟨r', member', here⟩ := (rows row').mpr ⟨marks', next⟩
    have same : r'.name = t := (congrArg (·.slot.name) here).trans leads
    obtain ⟨name, given, plain⟩ := named r' member'
    obtain ⟨n, read⟩ := (Name.read_plain plain).mpr (limits r' member' name given)
    rw [← same, given, show r.type = .cname from aliased]
    exact alias_ok plain.word read

theorem delivered_renderable (geography : PlainGeography g.labels) (host : Name.IsPlain hostname.toList)
    (plain : Name.IsPlain base.toList) (attributes : ∀ r ∈ rs, r.attributes.Named) :
    (∀ r ∈ rs, Zone.Renderable r) ↔
      WithinLimits rs ∧ ∀ s ∈ g.ips, Ipv4.isValid s.toList = true := by
  have named : ∀ r ∈ rs, ∃ name : String, r.name = .str name ∧ Name.IsPlain name.toList := by
    intro r member
    obtain ⟨marks, due⟩ := (rows r.row).mp ⟨r, member, rfl⟩
    exact due.name_plain geography host plain
  constructor
  · intro renderable
    refine ⟨?_, ip_renderable sound rows renderable⟩
    intro r member name given
    obtain ⟨name', same, plain⟩ := named r member
    cases same.symm.trans given
    have owner := (renderable r member).owner
    rw [given] at owner
    exact (owner_ok plain).mp owner
  · rintro ⟨limits, valid⟩ r member
    refine ⟨?_, Zone.comment_named (attributes r member), ?_⟩
    · obtain ⟨name, given, plain⟩ := named r member
      rw [given]
      exact (owner_ok plain).mpr (limits r member name given)
    · exact fun t target => target_renderable sound rows named limits valid member target

end Delivered

-- A first publication is rendered exactly if its names are within the limits and no IP address is one
-- that an address record cannot hold. It has one line a target, in the order of the records. Where a text
-- cannot be hashed nothing is published.
theorem publish_renders (labels : TextLabels g.labels) (geography : PlainGeography g.labels)
    (cluster : p.clusterId.IsText) (clear : p.refusal? = none)
    (known : p.isSimple = true ∨ p.isBalanced = true)
    (accepted : Hostname.refusal? true hostname = none) (ascii : ∀ c ∈ hostname.toList, c.toNat < 128) :
    (∀ f, First (codeReasons p g) f → (publish g (.str hostname) p [] (some [])).published = .error f) ∧
    (Clear (codeReasons p g) →
      ∃ ids rs, (publish g (.str hostname) p [] (some [])).published = .ok ids ∧
        Shows (publish g (.str hostname) p [] (some [])).records ids rs ∧
        ((∃ ls, Zone.lines rs = .ok ls) ↔
          WithinLimits rs ∧ ∀ s ∈ g.ips, Ipv4.isValid s.toList = true) ∧
        ∀ ls, Zone.lines rs = .ok ls →
          List.Forall₂ Zone.Rendered (rs.flatMap fun r => r.targets.map fun t => (r, t)) ls) := by
  obtain ⟨base, left, bare, _⟩ := listenerBase_accepted accepted
  have given : base = String.ofList (Hostname.bare hostname.toList) :=
    Except.ok.inj (bare.symm.trans (Hostname.base_ascii accepted ascii))
  have plain : Name.IsPlain base.toList := by
    rw [given, String.toList_ofList]
    exact Hostname.bare_plain accepted ascii
  constructor
  · intro f uncoded
    exact (publish_unplanned left clear rfl (plan_uncoded _ _ labels cluster clear known uncoded)).1
  · intro coded
    obtain ⟨_, ids, _, _, _, done, _⟩ := publish_delivered labels
      (allText_of (List.forall_mem_nil _) []) left clear (plan_sound _ _ labels cluster clear known coded)
    obtain ⟨base', rs, left', sound, standing, named⟩ := publish_named labels done
    cases left.symm.trans left'
    refine ⟨ids, rs, done, standing.shows, ?_, fun ls => Zone.lines_each⟩
    rw [Zone.lines_renderable]
    exact delivered_renderable sound standing.rows geography (Hostname.hostname_plain accepted ascii)
      plain named

end Rendering

theorem ireland_geography : PlainGeography ireland.labels := by
  intro fields v given found
  cases given
  cases found
  exact ⟨"IE", rfl, by decide, Text.forall_of_all (by decide)⟩

theorem ireland_renders : TextLabels ireland.labels ∧ PlainGeography ireland.labels ∧
    spread.clusterId.IsText ∧ spread.refusal? = none ∧
    (spread.isSimple = true ∨ spread.isBalanced = true) ∧ Hostname.refusal? true "*.x" = none ∧
    (∀ c ∈ "*.x".toList, c.toNat < 128) ∧ Clear (codeReasons spread ireland) ∧
    ∃ ids rs, (publish ireland (.str "*.x") spread [] (some [])).published = .ok ids ∧
      Shows (publish ireland (.str "*.x") spread [] (some [])).records ids rs ∧
      ((∃ ls, Zone.lines rs = .ok ls) ↔
        WithinLimits rs ∧ ∀ s ∈ ireland.ips, Ipv4.isValid s.toList = true) ∧
      ∀ ls, Zone.lines rs = .ok ls →
        List.Forall₂ Zone.Rendered (rs.flatMap fun r => r.targets.map fun t => (r, t)) ls := by
  have cluster : spread.clusterId.IsText := ⟨_, rfl⟩
  have clear : spread.refusal? = none := by decide
  have known : spread.isSimple = true ∨ spread.isBalanced = true := .inr rfl
  have accepted : Hostname.refusal? true "*.x" = none := by decide +kernel
  have ascii : ∀ c ∈ "*.x".toList, c.toNat < 128 := Text.forall_of_all (by decide)
  have coded : Clear (codeReasons spread ireland) := clear_nil
  exact ⟨ireland_labels, ireland_geography, cluster, clear, known, accepted, ascii, coded,
    (publish_renders ireland_labels ireland_geography cluster clear known accepted ascii).2 coded⟩

-- An address of the newer kind is accepted and published, in a record that cannot be rendered.
def sixth : Address := ⟨.ip, "2001:db8::1", by decide +kernel⟩

def plainPolicy : Policy := { strategy := .str Policy.simpleStrategy }

theorem sixth_unrendered :
    let done := publish ⟨.str "gw", .str "ns", .obj [], [sixth]⟩ (.str "app.x") plainPolicy [] (some [])
    Hostname.refusal? true "app.x" = none ∧ plainPolicy.refusal? = none ∧
      done.published = .ok [0] ∧
      done.records = [⟨.str "app.x", .a, [.str "2001:db8::1"], .int 60, .str "", [], []⟩] ∧
      WithinLimits done.records ∧ Zone.lines done.records = .error (.zone .malformed) := by
  have records : (publish ⟨.str "gw", .str "ns", .obj [], [sixth]⟩ (.str "app.x") plainPolicy []
      (some [])).records = [⟨.str "app.x", .a, [.str "2001:db8::1"], .int 60, .str "", [], []⟩] := by
    decide +kernel
  refine ⟨by decide +kernel, by decide, by decide +kernel, records, ?_, by decide +kernel⟩
  rw [records]
  intro r member name given
  cases List.mem_singleton.mp member
  cases given
  exact ⟨by decide, by decide⟩

end Synthesis
end DnsSteering
