import DnsSteering.Proofs.Dns.Plain

namespace DnsSteering.Hostname

structure IsProper (label : List Char) : Prop where
  given : 1 ≤ label.length
  short : label.length ≤ 63
  chars : ∀ c ∈ label, c.isAlphanum = true ∨ c = '-'

inductive Dotted : List Char → Prop where
  | last {label : List Char} (proper : IsProper label) : Dotted label
  | next {label rest : List Char} (proper : IsProper label) (more : Dotted rest) :
      Dotted (label ++ '.' :: rest)

-- Labels with dots between them, at most 253 characters in all, and a wildcard in front where one is
-- allowed.
inductive Written (wildcard : Bool) : List Char → Prop where
  | plain {cs : List Char} (dotted : Dotted cs) (short : cs.length ≤ 253) : Written wildcard cs
  | wild {rest : List Char} (allowed : wildcard = true) (dotted : Dotted rest)
      (short : ('*' :: '.' :: rest).length ≤ 253) : Written wildcard ('*' :: '.' :: rest)

theorem IsProper.notMem {label : List Char} (proper : IsProper label) {c : Char}
    (other : c.isAlphanum = false) (noHyphen : c ≠ '-') : c ∉ label := by
  intro listed
  rcases proper.chars c listed with letter | hyphen
  · rw [other] at letter
    cases letter
  · exact noHyphen hyphen

-- In ASCII a proper label is one that the check of labels lets pass, and that is short enough.
theorem isProper_iff {label : List Char} (ascii : ∀ c ∈ label, c.toNat < 128) :
    IsProper label ↔ isLabel label = true ∧ label.length ≤ 63 := by
  have chars : (∀ c ∈ label, c.isAlphanum = true ∨ c = '-') ↔ label.all isLabelChar = true := by
    rw [List.all_eq_true]
    refine forall₂_congr fun c listed => ?_
    rw [isLabelChar, Text.isAlphanumeric_ascii (ascii c listed)]
    simp
  constructor
  · intro proper
    have some := List.ne_nil_of_length_pos proper.given
    exact ⟨by simp [isLabel, some, chars.mp proper.chars], proper.short⟩
  · rintro ⟨label, short⟩
    simp only [isLabel, Bool.and_eq_true] at label
    exact ⟨List.length_pos_iff.mpr (by simpa using label.1), short, chars.mpr label.2⟩

theorem dotted_iff {cs : List Char} : Dotted cs ↔ ∀ part ∈ Text.split '.' cs, IsProper part := by
  have noDot : ∀ {label : List Char}, IsProper label → '.' ∉ label :=
    fun proper => proper.notMem (by decide) (by decide)
  constructor
  · intro dotted
    induction dotted with
    | last proper =>
      rw [Text.split_single (noDot proper)]
      simpa using proper
    | next proper more ih =>
      rw [Text.split_append '.' (noDot proper)]
      simpa using ⟨proper, ih⟩
  · intro proper
    have joined : ∀ parts : List (List Char), parts ≠ [] → (∀ part ∈ parts, IsProper part) →
        Dotted (Text.join '.' parts) := by
      intro parts some proper
      fun_induction Text.join '.' parts with
      | case1 => exact absurd rfl some
      | case2 part => exact .last (proper part (by simp))
      | case3 part parts more ih =>
        exact .next (proper part (List.mem_cons_self ..))
          (ih (by simpa using more) fun other member => proper other (List.mem_cons_of_mem _ member))
    rw [← Text.join_split '.' cs]
    exact joined _ (Text.split_ne_nil '.' cs) proper

theorem dotted_labels {cs : List Char} (ascii : ∀ c ∈ cs, c.toNat < 128) :
    Dotted cs ↔ (∀ part ∈ Text.split '.' cs, isLabel part = true) ∧
      ∀ part ∈ Text.split '.' cs, part.length ≤ 63 := by
  rw [dotted_iff, ← forall₂_and]
  exact forall₂_congr fun part member =>
    isProper_iff fun c inside => ascii c (Text.mem_of_part member inside)

theorem Dotted.noWildcard {cs : List Char} (dotted : Dotted cs) : '*' ∉ cs := by
  intro listed
  have parted : '*' = '.' ∨ ∃ part ∈ Text.split '.' cs, '*' ∈ part := Text.part_of_mem listed
  rcases parted with stop | ⟨part, member, inside⟩
  · exact absurd stop (by decide)
  · exact (dotted_iff.mp dotted part member).notMem (by decide) (by decide) inside

theorem Dotted.some {cs : List Char} (dotted : Dotted cs) : cs ≠ [] := by
  rintro rfl
  have empty := (dotted_iff.mp dotted [] (by simp [Text.split])).given
  simp at empty

theorem fits_wild {cs : List Char} : Name.Fits ('*' :: '.' :: cs) ↔
    (∀ part ∈ Text.split '.' cs, part.length ≤ 63) ∧ ('*' :: '.' :: cs).length ≤ 253 := by
  rw [Name.Fits, split_wild, List.forall_mem_cons]
  simp

-- The labels that are checked are those behind a wildcard, where one is allowed and there.
theorem labels_behind (wildcard : Bool) (cs : List Char) : ∃ rest,
    labels wildcard cs = Text.split '.' rest ∧
      ((cs = rest ∧ (wildcard = true → isWild cs = false)) ∨
        (wildcard = true ∧ cs = '*' :: '.' :: rest)) := by
  cases wildcard with
  | false =>
    refine ⟨cs, ?_, .inl ⟨rfl, nofun⟩⟩
    unfold labels
    split
    · rename_i parts
      simp [parts]
    · rfl
  | true =>
    refine ⟨bare cs, labels_bare cs, ?_⟩
    rcases wild_or_bare cs with ⟨_, written⟩ | ⟨notWild, same⟩
    · exact .inr ⟨rfl, written⟩
    · exact .inl ⟨same.symm, fun _ => notWild⟩

section Ascii

variable {s : String} (ascii : ∀ c ∈ s.toList, c.toNat < 128)

include ascii

-- The limits of names are those of the grammar: every dot but one stands for the length of a label.
theorem read_dotted {rest : List Char} (behind : s.toList = rest ∨ s.toList = '*' :: '.' :: rest) :
    ((∀ part ∈ Text.split '.' rest, isLabel part = true) ∧ ∃ name, Name.read s = .ok name) ↔
      Dotted rest ∧ s.toList.length ≤ 253 := by
  have small : ∀ c ∈ rest, c.toNat < 128 := by
    intro c listed
    refine ascii c ?_
    rcases behind with same | written
    · rwa [same]
    · rw [written]
      simp [listed]
  have fits : Name.Fits s.toList ↔
      (∀ part ∈ Text.split '.' rest, part.length ≤ 63) ∧ s.toList.length ≤ 253 := by
    rcases behind with same | written
    · rw [Name.Fits, same]
    · rw [written]
      exact fits_wild
  have read : (∀ part ∈ Text.split '.' rest, isLabel part = true) →
      ((∃ name, Name.read s = .ok name) ↔ Name.Fits s.toList) := by
    intro labels
    have plain := plain_of_labels small labels
    refine Name.read_plain ?_
    rcases behind with same | written
    · rwa [same]
    · rw [written]
      exact plain_wild plain
  rw [dotted_labels small, and_assoc, ← fits]
  exact and_congr_right read

theorem refusal?_written (wildcard : Bool) :
    refusal? wildcard s = none ↔ Written wildcard s.toList := by
  obtain ⟨rest, checked, behind⟩ := labels_behind wildcard s.toList
  have accepted : refusal? wildcard s = none ↔
      s.toList ≠ [] ∧ Dotted rest ∧ s.toList.length ≤ 253 := by
    rw [refusal?_eq_none, checked, read_dotted ascii]
    exact behind.imp (·.1) (·.2)
  rw [accepted]
  constructor
  · rintro ⟨_, dotted, short⟩
    rcases behind with ⟨same, _⟩ | ⟨allowed, written⟩
    · rw [← same] at dotted
      exact .plain dotted short
    · rw [written] at short ⊢
      exact .wild allowed dotted short
  · intro written
    rcases behind with ⟨same, notWild⟩ | ⟨allowed, starred⟩
    · generalize s.toList = cs at *
      subst same
      cases written with
      | plain dotted short => exact ⟨dotted.some, dotted, short⟩
      | wild allowed dotted short => exact absurd (notWild allowed) (by simp [isWild])
    · generalize s.toList = cs at *
      subst starred
      cases written with
      | plain dotted short => exact absurd (by simp) dotted.noWildcard
      | wild allowed dotted short => exact ⟨by simp, dotted, short⟩

end Ascii

theorem refusal?_reason {wildcard : Bool} {s reason : String}
    (refused : refusal? wildcard s = some reason) : reason ≠ "" := by
  unfold refusal? at refused
  split at refused
  · cases refused
    decide
  · split at refused
    · cases refused
      decide
    · split at refused
      · cases refused
        intro empty
        have none := congrArg String.toList empty
        simp at none
      · cases refused

section Written

variable {wildcard : Bool} {cs : List Char} (written : Written wildcard cs)

include written

theorem Written.filled : [] ∉ Text.split '.' cs := by
  have filled : ∀ {ds : List Char}, Dotted ds → [] ∉ Text.split '.' ds := by
    intro ds dotted member
    have given := (dotted_iff.mp dotted [] member).given
    simp at given
  cases written with
  | plain dotted _ => exact filled dotted
  | wild _ dotted _ =>
    rw [split_wild]
    simpa using filled dotted

theorem Written.short : cs.length ≤ 253 := by
  cases written with
  | plain _ short => exact short
  | wild _ _ short => exact short

-- An asterisk is the wildcard.
theorem Written.asterisk (listed : '*' ∈ cs) :
    wildcard = true ∧ ∃ rest, cs = '*' :: '.' :: rest ∧ '*' ∉ rest := by
  cases written with
  | plain dotted _ => exact absurd listed dotted.noWildcard
  | wild allowed dotted _ => exact ⟨allowed, _, rfl, dotted.noWildcard⟩

end Written

-- What comes near to a hostname: a wildcard with nothing behind it, dots at the end or side by side, and
-- an asterisk anywhere else.
inductive Misplaced (wildcard : Bool) : List Char → Prop where
  | lone : Misplaced wildcard ['*']
  | unfollowed : Misplaced wildcard ['*', '.']
  | trailing (front : List Char) : Misplaced wildcard (front ++ ['.'])
  | doubled (front rest : List Char) : Misplaced wildcard (front ++ '.' :: '.' :: rest)
  | elsewhere {front rest : List Char}
      (apart : wildcard = false ∨ front ≠ [] ∨ rest.head? ≠ some '.') :
      Misplaced wildcard (front ++ '*' :: rest)

theorem Misplaced.notWritten {wildcard : Bool} {cs : List Char} (misplaced : Misplaced wildcard cs) :
    ¬ Written wildcard cs := by
  intro written
  cases misplaced with
  | lone =>
    obtain ⟨_, rest, same, _⟩ := written.asterisk (by simp)
    cases same
  | unfollowed => exact written.filled (by simp [Text.split])
  | trailing front =>
    refine written.filled ?_
    rw [Text.split_separated]
    simp [Text.split]
  | doubled front rest =>
    refine written.filled ?_
    rw [Text.split_separated]
    simp [Text.split]
  | @elsewhere front rest apart =>
    obtain ⟨allowed, more, same, single⟩ := written.asterisk (by simp)
    cases front with
    | nil =>
      cases (List.cons.inj same).2
      simp [allowed] at apart
    | cons c front =>
      have behind := (List.cons.inj same).2
      have listed : '*' ∈ '.' :: more := by
        rw [← behind]
        simp
      simp [single] at listed

-- A text in ASCII is accepted exactly if the grammar derives it, and refused with a reason otherwise.
theorem check_written {s : String} (ascii : ∀ c ∈ s.toList, c.toNat < 128) (wildcard : Bool) :
    (check wildcard (.str s) = .ok none ↔ Written wildcard s.toList) ∧
      (¬ Written wildcard s.toList →
        ∃ reason, reason ≠ "" ∧ check wildcard (.str s) = .ok (some reason)) ∧
      (Misplaced wildcard s.toList →
        ∃ reason, reason ≠ "" ∧ check wildcard (.str s) = .ok (some reason)) := by
  have answered : check wildcard (.str s) = .ok (refusal? wildcard s) := rfl
  have refused : ¬ Written wildcard s.toList →
      ∃ reason, reason ≠ "" ∧ check wildcard (.str s) = .ok (some reason) := by
    intro other
    rw [← refusal?_written ascii] at other
    obtain ⟨reason, given⟩ := Option.ne_none_iff_exists'.mp other
    exact ⟨reason, refusal?_reason given, by rw [answered, given]⟩
  refine ⟨?_, refused, fun misplaced => refused misplaced.notWritten⟩
  rw [answered, ← refusal?_written ascii]
  exact ⟨Except.ok.inj, congrArg _⟩

-- Behind a wildcard three labels of one length and a fourth one.
def sprawl (m n : Nat) : List Char :=
  let long := List.replicate m 'a'
  '*' :: '.' :: (long ++ '.' :: (long ++ '.' :: (long ++ '.' :: List.replicate n 'a')))

theorem length_sprawl (m n : Nat) : (sprawl m n).length = 3 * m + n + 5 := by
  simp [sprawl]
  omega

theorem sprawl_ascii {m n : Nat} : ∀ c ∈ (String.ofList (sprawl m n)).toList, c.toNat < 128 := by
  intro c listed
  have known : c = '*' ∨ c = '.' ∨ c = 'a' := by
    simp only [sprawl, String.toList_ofList, List.mem_cons, List.mem_append, List.mem_replicate] at listed
    tauto
  rcases known with rfl | rfl | rfl <;> decide

-- Behind labels of sixty-three characters a fourth one of fifty-nine makes the name as long as it may be.
theorem sprawl_written : (∀ c ∈ (String.ofList (sprawl 63 59)).toList, c.toNat < 128) ∧
    check true (.str (String.ofList (sprawl 63 59))) = .ok none ∧
    (∃ reason, reason ≠ "" ∧ check false (.str (String.ofList (sprawl 63 59))) = .ok (some reason)) ∧
    ∃ reason, reason ≠ "" ∧ check true (.str (String.ofList (sprawl 63 60))) = .ok (some reason) := by
  have proper : ∀ n, 1 ≤ n → n ≤ 63 → IsProper (List.replicate n 'a') := by
    intro n given short
    refine ⟨by simpa using given, by simpa using short, ?_⟩
    intro c listed
    rw [List.eq_of_mem_replicate listed]
    decide
  have long := proper 63 (by omega) (by omega)
  have last := proper 59 (by omega) (by omega)
  have written : Written true (sprawl 63 59) :=
    .wild rfl (.next long (.next long (.next long (.last last)))) (length_sprawl 63 59).le
  have longer : ¬ Written true (sprawl 63 60) := by
    intro written
    have short := written.short
    rw [length_sprawl] at short
    omega
  have misplaced : Misplaced false (sprawl 63 59) := @Misplaced.elsewhere false [] _ (.inl rfl)
  rw [← String.toList_ofList (l := sprawl 63 59)] at written misplaced
  rw [← String.toList_ofList (l := sprawl 63 60)] at longer
  obtain ⟨accepted, _, _⟩ := check_written (sprawl_ascii (m := 63) (n := 59)) true
  obtain ⟨_, _, refused⟩ := check_written (sprawl_ascii (m := 63) (n := 59)) false
  obtain ⟨_, refusedLonger, _⟩ := check_written (sprawl_ascii (m := 63) (n := 60)) true
  exact ⟨sprawl_ascii, accepted.mpr written, refused misplaced, refusedLonger longer⟩

end DnsSteering.Hostname
