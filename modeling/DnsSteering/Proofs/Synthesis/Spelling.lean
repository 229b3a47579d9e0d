import DnsSteering.Proofs.Dns.Spelling
import DnsSteering.Proofs.Synthesis.Refusals
import DnsSteering.Proofs.Synthesis.Rounds

namespace DnsSteering

namespace Hostname

-- Whether a hostname and another one, the same in lower case, are the same behind a label.
inductive OneBase (cs ds : List Char) : Prop where
  | wild (one : isWild cs = true) (two : isWild ds = true)
  | ascii (small : ∀ c ∈ Text.lowerFrom false (bare cs), c.toNat < 128)
  | written (one : isWild cs = false) (two : isWild ds = false)
      (sigma : Text.LedBySigma (bare cs) ↔ Text.LedBySigma (bare ds))

section Base

variable {h h' base base' : String}

theorem accepted_small (accepted : refusal? true h = none) {c : Char}
    (listed : c ∈ Text.lowerFrom false (bare h.toList)) (ascii : c.toNat < 128) :
    c = '.' ∨ Name.IsPlainChar c ∧ c.toLower = c := by
  rcases Text.mem_lowerFrom listed with ⟨d, member, image⟩ | rfl | rfl
  · have fixed := (Text.lowerChar_small image ascii).1
    rcases accepted_chars accepted d member with rfl | letter
    · have dot : Text.lowerChar '.' = ['.'] := by decide
      rw [dot] at image
      exact .inl (List.mem_singleton.mp image)
    · refine .inr ⟨?_, fixed⟩
      rcases Text.lowerChar_ascii image ascii with ⟨small, rfl⟩ | ⟨_, rfl | rfl⟩
      · exact (Name.plainChar_facts ⟨small, .inl letter⟩).2.2.2.2.1
      · exact ⟨by decide, .inl (by decide)⟩
      · exact ⟨by decide, .inl (by decide)⟩
  · exact absurd ascii (by decide)
  · exact absurd ascii (by decide)

theorem base_lower (accepted : refusal? true h = none) (left : Hostname.base (.str h) = .ok base) :
    Text.lowerFrom true base.toList =
      if isWild h.toList then Name.spelled (Text.lowerFrom false (bare h.toList))
      else Text.lowerFrom true (bare h.toList) := by
  obtain ⟨ls, _, _, closed, made⟩ := accepted_base accepted
  cases Except.ok.inj (left.symm.trans made)
  split
  · rw [String.toList_ofList, Name.lowerFrom_relativeText closed]
  · rename_i plain
    rcases wild_or_bare h.toList with ⟨wild, _⟩ | ⟨_, same⟩
    · exact absurd wild plain
    · rw [same]

-- What is left of a wildcard and what was written are the same exactly if they are in ASCII.
theorem spelled_iff (accepted : refusal? true h = none) :
    Name.spelled (Text.lowerFrom false (bare h.toList)) = Text.lowerFrom true (bare h.toList) ↔
      ∀ c ∈ Text.lowerFrom false (bare h.toList), c.toNat < 128 := by
  constructor
  · intro same
    have ascii : ∀ c ∈ Text.lowerFrom true (bare h.toList), c.toNat < 128 := by
      rw [← same, Name.spelled]
      exact Name.relativeText_ascii _
    have none := Text.sigma_notMem ascii
    rwa [Text.lowerFrom_flatMap none, ← @Text.lowerFrom_flatMap _ false none] at ascii
  · intro ascii
    have none := Text.sigma_notMem ascii
    rw [Name.spelled_small fun c listed => accepted_small accepted listed (ascii c listed),
      Text.lowerFrom_flatMap none, Text.lowerFrom_flatMap none]

theorem oneBase_iff (accepted : refusal? true h = none) (accepted' : refusal? true h' = none)
    (left : Hostname.base (.str h) = .ok base) (left' : Hostname.base (.str h') = .ok base')
    (same : Text.lowerFrom false (bare h.toList) = Text.lowerFrom false (bare h'.toList)) :
    Text.lowerFrom true base.toList = Text.lowerFrom true base'.toList ↔ OneBase h.toList h'.toList := by
  rw [base_lower accepted left, base_lower accepted' left']
  -- In ASCII there is no sigma to be written in two ways.
  have free : ∀ {cs}, (∀ c ∈ Text.lowerFrom false cs, c.toNat < 128) → ¬ Text.LedBySigma cs := by
    rintro cs ascii ⟨front, back, rfl, _⟩
    exact Text.sigma_notMem ascii (by simp)
  cases one : isWild h.toList with
  | true =>
    cases two : isWild h'.toList with
    | true => exact iff_of_true (by simp [same]) (.wild one two)
    | false =>
      rw [if_pos rfl, if_neg (by simp), same, spelled_iff accepted', ← same]
      refine ⟨.ascii, fun alike => ?_⟩
      cases alike with
      | wild _ wild => simp [two] at wild
      | ascii small => exact small
      | written plain => simp [one] at plain
  | false =>
    cases two : isWild h'.toList with
    | true =>
      rw [if_neg (by simp), if_pos rfl, ← same, eq_comm, spelled_iff accepted]
      refine ⟨.ascii, fun alike => ?_⟩
      cases alike with
      | wild wild => simp [one] at wild
      | ascii small => exact small
      | written _ plain => simp [two] at plain
    | false =>
      rw [if_neg (by simp), if_neg (by simp), Text.lowerFrom_true_iff same]
      refine ⟨.written one two, fun alike => ?_⟩
      cases alike with
      | wild wild => simp [one] at wild
      | ascii small => exact iff_of_false (free small) (free (same ▸ small))
      | written _ _ sigma => exact sigma

end Base
end Hostname

namespace Synthesis

theorem balancerName_inj {base base' : String} : balancerName base = balancerName base' ↔
    Text.lowerFrom true base.toList = Text.lowerFrom true base'.toList := by
  have behind : ∀ base : String,
      (balancerName base).toList = 'k' :: 'l' :: 'b' :: '.' :: Text.lowerFrom true base.toList := by
    intro base
    have letter : ∀ {after} {c : Char} {cs}, c ∈ ['k', 'l', 'b'] →
        Text.lowerFrom after (c :: cs) = c :: Text.lowerFrom true cs := by
      intro after c cs listed
      have facts : ∀ c ∈ ['k', 'l', 'b'], c ≠ 'Σ' ∧ Text.lowerChar c = [c] ∧
          Text.isSkipped c = false ∧ Text.isCased c = true := Text.forall_of_all (by decide)
      obtain ⟨other, lower, read, cased⟩ := facts c listed
      rw [Text.lowerFrom_other other, lower, read, cased]
      rfl
    have stop : ∀ {after} {cs}, Text.lowerFrom after ('.' :: cs) = '.' :: Text.lowerFrom after cs := by
      intro after cs
      have facts : '.' ≠ 'Σ' ∧ Text.lowerChar '.' = ['.'] ∧ Text.isSkipped '.' = true := by decide
      rw [Text.lowerFrom_other facts.1, facts.2.1, facts.2.2]
      rfl
    have listed : (balancerLabel ++ "." ++ base).toList = 'k' :: 'l' :: 'b' :: '.' :: base.toList := by
      simp [balancerLabel]
    rw [balancerName, Text.lower, String.toList_ofList, listed, letter (by simp), letter (by simp),
      letter (by simp), stop]
  rw [← String.toList_inj, behind, behind]
  simp

def entrySlot (hostname : LooseText) : Slot := ⟨.str hostname, .str "", .cname⟩

-- Records that are the same, with the same name for the entry.
structure SameTree (h h' : LooseText) (rs ss : List Record) : Prop where
  below : List.Forall₂ Record.Agrees (rs.filter (·.slot ≠ entrySlot h)) (ss.filter (·.slot ≠ entrySlot h'))
  entry : List.Forall₂ (fun e f => Record.Agrees { e with name := .str h' } f)
    (rs.filter (·.slot = entrySlot h)) (ss.filter (·.slot = entrySlot h'))

section Trees

variable {p : Policy} {g : Gateway} {h h' : LooseText} {base base' : String} {row : Row}
  {marks : List (Json × Json)}

theorem Due.entry_only (balanced : p.isBalanced = true) (left : listenerBase (.str h) = .ok base)
    (due : Due p g h base row marks) (here : row.slot = entrySlot h) :
    row = ⟨entrySlot h, [.str (balancerName base)], .int 300⟩ ∧ marks = [] := by
  have apart := balancerName_ne left
  have retyped : RecordType.a ≠ RecordType.cname := by decide
  cases due with
  | addresses simple | aliases simple => exact absurd simple (not_simple balanced)
  | cluster => exact absurd (congrArg Slot.type here) retyped
  | leaf _ _ _ leaf =>
    exact absurd (LooseText.plain.inj (Json.str.inj (congrArg Slot.identifier here))) leaf.ne_empty
  | region | fallback => exact absurd (Json.str.inj (congrArg Slot.name here)) apart
  | entry => exact ⟨rfl, rfl⟩

-- What is due below the entry is due by the name of the balancer.
theorem Due.below (balanced : p.isBalanced = true) (left' : listenerBase (.str h') = .ok base')
    (same : balancerName base = balancerName base') (due : Due p g h base row marks)
    (below : row.slot ≠ entrySlot h) : row.slot ≠ entrySlot h' ∧ Due p g h' base' row marks := by
  have apart := balancerName_ne left'
  have retyped : RecordType.a ≠ RecordType.cname := by decide
  cases due with
  | addresses simple | aliases simple => exact absurd simple (not_simple balanced)
  | cluster balanced some named =>
    rw [same] at named
    exact ⟨fun here => retyped (congrArg Slot.type here), .cluster balanced some named⟩
  | leaf balanced located weighed leaf =>
    have filled := leaf.ne_empty
    rw [same] at leaf ⊢
    exact ⟨fun here => filled (LooseText.plain.inj (Json.str.inj (congrArg Slot.identifier here))),
      .leaf balanced located weighed leaf⟩
  | region balanced addressed located =>
    rw [same]
    exact ⟨fun here => apart (Json.str.inj (congrArg Slot.name here)),
      .region balanced addressed located⟩
  | fallback balanced addressed located default =>
    rw [same]
    exact ⟨fun here => apart (Json.str.inj (congrArg Slot.name here)),
      .fallback balanced addressed located default⟩
  | entry => exact absurd rfl below

theorem due_below_iff (balanced : p.isBalanced = true) (left : listenerBase (.str h) = .ok base)
    (left' : listenerBase (.str h') = .ok base') (same : balancerName base = balancerName base') :
    (row.slot ≠ entrySlot h ∧ Due p g h base row marks) ↔
      (row.slot ≠ entrySlot h' ∧ Due p g h' base' row marks) :=
  ⟨fun ⟨below, due⟩ => due.below balanced left' same below,
    fun ⟨below, due⟩ => due.below balanced left same.symm below⟩

-- What a record carries that was made anew is what is advertised for it.
theorem Drawn.carries {start : Ledger} {id : Nat} {r origin : Record}
    (none : ∀ h ∈ start.pending, h.2 ∈ ([] : List Nat)) (drawn : Drawn p g h base start id r origin)
    (key value : Json) :
    Entries.value? key r.attributes = some value ↔ Advertises p g h base r.slot key value := by
  constructor
  · intro carried
    by_contra silent
    by_cases other : ∃ value, Advertises p g h base r.slot key value
    · obtain ⟨v, here⟩ := other
      cases Option.some.inj (carried.symm.trans (drawn.advertised key v here))
      exact silent here
    · have nothing := (drawn_fresh none drawn).2 key fun v here => other ⟨v, here⟩
      rw [carried] at nothing
      cases nothing
  · exact drawn.advertised key value

theorem drawn_agree {start other : Ledger} {id id' : Nat} {r s origin origin' : Record}
    (none : ∀ h ∈ start.pending, h.2 ∈ ([] : List Nat))
    (none' : ∀ h ∈ other.pending, h.2 ∈ ([] : List Nat))
    (one : Drawn p g h base start id r origin) (two : Drawn p g h' base' other id' s origin')
    (advertised : ∀ key value, Advertises p g h base r.slot key value ↔
      Advertises p g h' base' s.slot key value) :
    (∀ key, Entries.value? key r.attributes = Entries.value? key s.attributes) ∧
      r.labels = s.labels := by
  refine ⟨fun key => Option.ext fun value => ?_, ?_⟩
  · rw [one.carries none, two.carries none']
    exact advertised key value
  · rw [(drawn_fresh none one).1, (drawn_fresh none' two).1]

theorem forall₂_of_rows {rs ss : List Record} (rows : rs.map Record.row = ss.map Record.row)
    (each : ∀ a ∈ rs, ∀ b ∈ ss, a.row = b.row → a.Agrees b) : List.Forall₂ Record.Agrees rs ss := by
  rw [← List.forall₂_eq_eq_eq] at rows
  have paired := List.forall₂_map_right_iff.mp (List.forall₂_map_left_iff.mp rows)
  refine List.forall₂_iff_zip.mpr ⟨paired.length_eq, fun {a b} member => ?_⟩
  obtain ⟨one, two⟩ := List.of_mem_zip member
  exact each a one b two (List.forall₂_zip paired member)

-- No slot is there twice.
theorem filter_slot {rs : List Record} (ordered : rs.Pairwise fun r s => r.rank < s.rank) {r : Record}
    (member : r ∈ rs) : rs.filter (·.slot = r.slot) = [r] := by
  have listed : r ∈ rs.filter (·.slot = r.slot) := List.mem_filter.mpr ⟨member, by simp⟩
  have all : ∀ s ∈ rs.filter (·.slot = r.slot), s.slot = r.slot := fun s there =>
    of_decide_eq_true (List.mem_filter.mp there).2
  have apart := ordered.filter (·.slot = r.slot)
  generalize rs.filter (·.slot = r.slot) = found at listed all apart
  match found with
  | [] => cases listed
  | [s] => rw [List.mem_singleton.mp listed]
  | s :: t :: _ =>
    have less : s.rank < t.rank := List.rel_of_pairwise_cons apart (List.mem_cons_self ..)
    rw [Record.rank, Record.rank, all s (by simp), all t (by simp)] at less
    exact absurd less (lt_irrefl _)

section Delivered

variable {start other : Ledger} {records records' rs ss : List Record} {ids ids' : List Nat}
  (none : ∀ h ∈ start.pending, h.2 ∈ ([] : List Nat))
  (none' : ∀ h ∈ other.pending, h.2 ∈ ([] : List Nat))
  (balanced : p.isBalanced = true) (left : listenerBase (.str h) = .ok base)
  (left' : listenerBase (.str h') = .ok base')
  (one : Delivered p g h base start records ids rs)
  (two : Delivered p g h' base' other records' ids' ss)

include none none' balanced left left' one two

theorem delivered_below (same : balancerName base = balancerName base') :
    List.Forall₂ Record.Agrees (rs.filter (·.slot ≠ entrySlot h)) (ss.filter (·.slot ≠ entrySlot h')) := by
  have inside : ∀ {h base start records ids rs}, Delivered p g h base start records ids rs → ∀ row,
      (∃ r ∈ rs.filter (·.slot ≠ entrySlot h), r.row = row) ↔
        ∃ marks, row.slot ≠ entrySlot h ∧ Due p g h base row marks := by
    intro h base start records ids rs delivered row
    constructor
    · rintro ⟨r, member, rfl⟩
      obtain ⟨listed, below⟩ := List.mem_filter.mp member
      obtain ⟨marks, due⟩ := (delivered.rows r.row).mp ⟨r, listed, rfl⟩
      exact ⟨marks, of_decide_eq_true below, due⟩
    · rintro ⟨marks, below, due⟩
      obtain ⟨r, listed, rfl⟩ := (delivered.rows row).mpr ⟨marks, due⟩
      exact ⟨r, List.mem_filter.mpr ⟨listed, decide_eq_true below⟩, rfl⟩
  refine forall₂_of_rows (ordered_rows (one.ordered.filter _) (two.ordered.filter _) ?_) ?_
  · intro row
    rw [inside one, inside two]
    exact exists_congr fun marks => due_below_iff balanced left left' same
  · intro a listed b listed' row
    obtain ⟨member, below⟩ := List.mem_filter.mp listed
    have slots : a.slot = b.slot := congrArg Row.slot row
    have below' : b.slot ≠ entrySlot h' := of_decide_eq_true (List.mem_filter.mp listed').2
    obtain ⟨_, _, _, _, drawn⟩ := one.shows.forall_record one.drawn a member
    obtain ⟨_, _, _, _, drawn'⟩ := two.shows.forall_record two.drawn b (List.mem_filter.mp listed').1
    obtain ⟨attributes, labels⟩ := drawn_agree none none' drawn drawn' (by
      intro key value
      constructor
      · rintro ⟨row, marks, due, here, mark⟩
        have aside : row.slot ≠ entrySlot h := by
          rw [here]
          exact of_decide_eq_true below
        exact ⟨row, marks, (due.below balanced left' same aside).2, here.trans slots, mark⟩
      · rintro ⟨row, marks, due, here, mark⟩
        have aside : row.slot ≠ entrySlot h' := by
          rw [here]
          exact below'
        exact ⟨row, marks, (due.below balanced left same.symm aside).2, here.trans slots.symm, mark⟩)
    exact ⟨row, attributes, fun key => by rw [labels]⟩

-- The entries are the same where they lead to the same balancer.
theorem delivered_entry (addressed : g.addresses ≠ []) :
    List.Forall₂ (fun e f => Record.Agrees { e with name := .str h' } f)
      (rs.filter (·.slot = entrySlot h)) (ss.filter (·.slot = entrySlot h')) ↔
      balancerName base = balancerName base' := by
  have entry : ∀ {h base start records ids rs}, Delivered p g h base start records ids rs →
      ∃ e, rs.filter (·.slot = entrySlot h) = [e] ∧ e ∈ rs ∧
        e.row = ⟨entrySlot h, [.str (balancerName base)], .int 300⟩ := by
    intro h base start records ids rs delivered
    obtain ⟨e, member, here⟩ := (delivered.rows _).mpr ⟨[], .entry balanced addressed⟩
    have slot : e.slot = entrySlot h := congrArg Row.slot here
    exact ⟨e, by rw [← slot]; exact filter_slot delivered.ordered member, member, here⟩
  obtain ⟨e, found, member, here⟩ := entry one
  obtain ⟨f, found', member', here'⟩ := entry two
  have targets : e.targets = [.str (balancerName base)] := congrArg Row.targets here
  have targets' : f.targets = [.str (balancerName base')] := congrArg Row.targets here'
  rw [found, found']
  constructor
  · intro agree
    have row := (List.forall₂_cons.mp agree).1.row
    have equal : e.targets = f.targets := congrArg Row.targets row
    rw [targets, targets'] at equal
    simpa using equal
  · intro same
    refine .cons ?_ .nil
    obtain ⟨_, _, _, _, drawn⟩ := one.shows.forall_record one.drawn e member
    obtain ⟨_, _, _, _, drawn'⟩ := two.shows.forall_record two.drawn f member'
    -- Nothing is advertised for the entry.
    have silent : ∀ {h base} {r : Record}, listenerBase (.str h) = .ok base →
        r.slot = entrySlot h → ∀ key value, ¬ Advertises p g h base r.slot key value := by
      rintro h base r left slot key value ⟨row, marks, due, same, mark⟩
      rw [(due.entry_only balanced left (same.trans slot)).2] at mark
      cases mark
    obtain ⟨attributes, labels⟩ := drawn_agree none none' drawn drawn' fun key value =>
      iff_of_false (silent left (congrArg Row.slot here) key value)
        (silent left' (congrArg Row.slot here') key value)
    refine ⟨?_, attributes, fun key => by rw [labels]⟩
    rw [here', ← same]
    have slot := congrArg Row.slot here
    have ttl := congrArg Row.ttl here
    obtain ⟨name, type, ts, lifetime, identifier, entries, notes⟩ := e
    cases slot
    cases ttl
    cases targets
    rfl

theorem delivered_tree :
    SameTree h h' rs ss ↔ g.addresses = [] ∨ balancerName base = balancerName base' := by
  by_cases addressed : g.addresses = []
  · have empty : ∀ {h base start records ids rs}, Delivered p g h base start records ids rs → rs = [] := by
      intro h base start records ids rs delivered
      refine List.eq_nil_iff_forall_not_mem.mpr fun r member => ?_
      obtain ⟨marks, due⟩ := (delivered.rows r.row).mp ⟨r, member, rfl⟩
      exact due.addressed addressed
    rw [empty one, empty two]
    exact iff_of_true ⟨.nil, .nil⟩ (.inl addressed)
  · constructor
    · intro tree
      exact .inr ((delivered_entry none none' balanced left left' one two addressed).mp tree.entry)
    · intro given
      have same := given.resolve_left addressed
      exact ⟨delivered_below none none' balanced left left' one two same,
        (delivered_entry none none' balanced left left' one two addressed).mpr same⟩

end Delivered

-- Two listeners of one gateway and policy whose hostnames are the same in lower case, a wildcard apart.
-- Published for the first time they have the same tree below their entries, exactly if there is no
-- address to publish or the balancer has one name for both. What cannot be hashed for one of them cannot
-- be for the other.
theorem publish_respelled {h h' : String} (labels : TextLabels g.labels) (cluster : p.clusterId.IsText)
    (balanced : p.isBalanced = true) (clear : p.refusal? = none)
    (accepted : Hostname.refusal? true h = none) (accepted' : Hostname.refusal? true h' = none)
    (same : Text.lower (String.ofList (Hostname.bare h.toList)) =
      Text.lower (String.ofList (Hostname.bare h'.toList))) :
    (∀ f, First (codeReasons p g) f → (publish g (.str h) p [] (some [])).published = .error f ∧
      (publish g (.str h') p [] (some [])).published = .error f) ∧
    (Clear (codeReasons p g) →
      ∃ ids rs ids' rs', (publish g (.str h) p [] (some [])).published = .ok ids ∧
        Shows (publish g (.str h) p [] (some [])).records ids rs ∧
        (publish g (.str h') p [] (some [])).published = .ok ids' ∧
        Shows (publish g (.str h') p [] (some [])).records ids' rs' ∧
        (SameTree h h' rs rs' ↔ g.addresses = [] ∨ Hostname.OneBase h.toList h'.toList)) := by
  obtain ⟨base, left, bare, _⟩ := listenerBase_accepted accepted
  obtain ⟨base', left', bare', _⟩ := listenerBase_accepted accepted'
  have text : AllText [] [] := by
    intro id member
    cases member
  have lower : Text.lowerFrom false (Hostname.bare h.toList) =
      Text.lowerFrom false (Hostname.bare h'.toList) := by
    simpa [Text.lower, String.ofList_inj] using same
  refine ⟨fun f uncoded => ?_, fun coded => ?_⟩
  · have planned := fun host base => plan_uncoded host base labels cluster clear (.inr balanced) uncoded
    exact ⟨(publish_unplanned left clear rfl (planned _ base)).1,
      (publish_unplanned left' clear rfl (planned _ base')).1⟩
  · have sound : ∀ host base, (plan p g host base).fault = none := fun host base =>
      plan_sound host base labels cluster clear (.inr balanced) coded
    obtain ⟨start, ids, rs, _, waiting, done, one⟩ :=
      publish_delivered labels text left clear (sound _ base)
    obtain ⟨other, ids', rs', _, waiting', done', two⟩ :=
      publish_delivered labels text left' clear (sound _ base')
    refine ⟨ids, rs, ids', rs', done, one.shows, done', two.shows, ?_⟩
    rw [delivered_tree waiting waiting' balanced left left' one two, balancerName_inj,
      Hostname.oneBase_iff accepted accepted' bare bare' lower]

end Trees

theorem ireland_respelled : TextLabels ireland.labels ∧ spread.clusterId.IsText ∧
    spread.isBalanced = true ∧ spread.refusal? = none ∧
    Hostname.refusal? true "*.App.x" = none ∧ Hostname.refusal? true "app.X" = none ∧
    Text.lower (String.ofList (Hostname.bare "*.App.x".toList)) =
      Text.lower (String.ofList (Hostname.bare "app.X".toList)) ∧
    Clear (codeReasons spread ireland) ∧
    ∃ ids rs ids' rs', (publish ireland (.str "*.App.x") spread [] (some [])).published = .ok ids ∧
      Shows (publish ireland (.str "*.App.x") spread [] (some [])).records ids rs ∧
      (publish ireland (.str "app.X") spread [] (some [])).published = .ok ids' ∧
      Shows (publish ireland (.str "app.X") spread [] (some [])).records ids' rs' ∧
      (SameTree "*.App.x" "app.X" rs rs' ↔
        ireland.addresses = [] ∨ Hostname.OneBase "*.App.x".toList "app.X".toList) := by
  have cluster : spread.clusterId.IsText := ⟨_, rfl⟩
  have clear : spread.refusal? = none := by decide
  have accepted : Hostname.refusal? true "*.App.x" = none := by decide +kernel
  have accepted' : Hostname.refusal? true "app.X" = none := by decide +kernel
  have same : Text.lower (String.ofList (Hostname.bare "*.App.x".toList)) =
      Text.lower (String.ofList (Hostname.bare "app.X".toList)) := by decide
  have coded : Clear (codeReasons spread ireland) := clear_nil
  exact ⟨ireland_labels, cluster, rfl, clear, accepted, accepted', same, coded,
    (publish_respelled ireland_labels cluster rfl clear accepted accepted' same).2 coded⟩

def distant : Gateway := ⟨.str "gw", .str "ns", .obj [], [edge]⟩

-- The wildcard of an accented hostname leads to an ASCII form, the hostname itself to its own letters.
theorem accented_differs :
    let wild := publish distant (.str "*.é.x") spread [] (some [])
    let plain := publish distant (.str "é.x") spread [] (some [])
    Hostname.refusal? true "*.é.x" = none ∧ Hostname.refusal? true "é.x" = none ∧
      Text.lower (String.ofList (Hostname.bare "*.é.x".toList)) =
        Text.lower (String.ofList (Hostname.bare "é.x".toList)) ∧
      wild.published = .ok [2, 0, 1] ∧ plain.published = .ok [0, 1, 2] ∧
      ¬ ∃ rs ss, Shows wild.records [2, 0, 1] rs ∧ Shows plain.records [0, 1, 2] ss ∧
        SameTree "*.é.x" "é.x" rs ss := by
  refine ⟨by decide +kernel, by decide +kernel, by decide +kernel, by decide +kernel,
    by decide +kernel, ?_⟩
  rintro ⟨rs, ss, shows, shows', tree⟩
  have balancer : ((publish distant (.str "*.é.x") spread [] (some [])).records[1]?).map
      Record.name = some (.str "klb.xn--9ca.x") := by decide +kernel
  have absent : ∀ id ∈ [0, 1, 2], ((publish distant (.str "é.x") spread [] (some [])).records[id]?).map
      Record.name ≠ some (.str "klb.xn--9ca.x") := by decide +kernel
  obtain ⟨r, member, there⟩ := shows.mem_record (show 1 ∈ [2, 0, 1] by decide)
  rw [there] at balancer
  have named : r.name = .str "klb.xn--9ca.x" := Option.some.inj balancer
  have below : r ∈ rs.filter (·.slot ≠ entrySlot "*.é.x") := by
    refine List.mem_filter.mpr ⟨member, decide_eq_true ?_⟩
    intro entry
    exact absurd (Json.str.inj (named.symm.trans (congrArg Slot.name entry))) (by decide)
  obtain ⟨i, bound, rfl⟩ := List.mem_iff_getElem.mp below
  have bound' := tree.below.length_eq ▸ bound
  have agrees := (List.forall₂_iff_get.mp tree.below).2 i bound bound'
  obtain ⟨id, listed, there'⟩ := shows'.mem_id (List.mem_filter.mp (List.getElem_mem bound')).1
  apply absent id listed
  rw [there', Option.map_some, ← named]
  exact congrArg (fun row => some row.slot.name) agrees.row.symm

end Synthesis
end DnsSteering
