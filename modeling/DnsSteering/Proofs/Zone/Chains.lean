import DnsSteering.CommandLine.Run
import DnsSteering.Proofs.Zone.Faults
import DnsSteering.Proofs.Zone.Layout
import DnsSteering.Proofs.Zone.Tokens

namespace DnsSteering

namespace Name

-- A text whose escapes are complete, and how many octets are written in it; dots are none.
inductive Counted : List Char → Nat → Prop
  | nil : Counted [] 0
  | number {c d e : Char} {cs : List Char} {n : Nat} (first : c.isDigit = true)
      (others : (d.isDigit && e.isDigit) = true) (rest : Counted cs n) :
      Counted ('\\' :: c :: d :: e :: cs) (n + 1)
  | escaped {c : Char} {cs : List Char} {n : Nat} (other : c.isDigit = false) (rest : Counted cs n) :
      Counted ('\\' :: c :: cs) (n + 1)
  | dot {c : Char} {cs : List Char} {n : Nat} (dot : isDot c = true) (rest : Counted cs n) :
      Counted (c :: cs) n
  | plain {c : Char} {cs : List Char} {n : Nat} (noEscape : c ≠ '\\') (noDot : isDot c = false)
      (rest : Counted cs n) : Counted (c :: cs) (n + 1)

def octets (name : Name) : Nat := (name.labels.map List.length).sum

section Octets

variable {cs : List Char} {n : Nat}

theorem byNumber_digits {c d e byte : Char} (read : byNumber c d e = .ok byte) :
    (d.isDigit && e.isDigit) = true := by
  unfold byNumber at read
  split at read
  · cases read
  · rename_i digits
    simpa using digits

-- The label being read counts as well.
theorem readLabels_counted {label : List Char} {ls : List Label}
    (done : readLabels plainLabel label cs = .ok ls) :
    ∃ n, Counted cs n ∧ (ls.map List.length).sum = label.length + n := by
  have closed : ∀ {label : List Char} {l : Label}, plainLabel label.reverse = .ok l →
      l.length = label.length := by
    intro label l made
    cases made
    simp
  fun_induction readLabels plainLabel label cs generalizing ls with
  | case1 label none =>
    cases done
    exact ⟨0, .nil, by simp [List.isEmpty_iff.mp none]⟩
  | case3 label some l made =>
    cases done
    exact ⟨0, .nil, by simp [closed made]⟩
  | case6 label c digit d e rest byte numbered ih =>
    obtain ⟨n, counted, sum⟩ := ih done
    exact ⟨n + 1, .number digit (byNumber_digits numbered) counted, by simp at sum; omega⟩
  | case9 label c rest other ih =>
    obtain ⟨n, counted, sum⟩ := ih done
    exact ⟨n + 1, .escaped (by simpa using other) counted, by simp at sum; omega⟩
  | case12 label c rest noEnd noPair dot some l made ih =>
    obtain ⟨more, read, rfl⟩ := ok_of_map done
    obtain ⟨n, counted, sum⟩ := ih read
    exact ⟨n, .dot dot counted, by simp [closed made, sum]⟩
  | case13 label c rest noEnd noPair noDot ih =>
    obtain ⟨n, counted, sum⟩ := ih done
    have noEscape := Zone.Token.not_escape noEnd noPair
    exact ⟨n + 1, .plain noEscape (by simpa using noDot) counted, by simp at sum; omega⟩
  | case2 | case4 | case5 | case7 | case8 | case10 | case11 => cases done

-- A text can be counted in one way only, so what follows is counted on its own.
theorem Counted.append {front rest : List Char} {m : Nat} (one : Counted front m)
    (both : Counted (front ++ rest) n) : ∃ k, Counted rest k ∧ n = m + k := by
  have noDot : isDot '\\' = false := by decide
  -- The whole is counted from its front as the front is: the first characters decide how.
  induction one generalizing n with
  | nil => exact ⟨n, both, by simp⟩
  | @number c d e cs _ first _ _ ih =>
    simp only [List.cons_append] at both
    generalize cs ++ rest = more at both ih
    cases both with
    | number _ _ both =>
      obtain ⟨k, counted, sum⟩ := ih both
      exact ⟨k, counted, by omega⟩
    | escaped other => simp [first] at other
    | dot dot => simp [noDot] at dot
    | plain noEscape => exact absurd rfl noEscape
  | @escaped c cs _ other _ ih =>
    rw [List.cons_append, List.cons_append] at both
    generalize cs ++ rest = more at both ih
    cases both with
    | number first => simp [other] at first
    | escaped _ both =>
      obtain ⟨k, counted, sum⟩ := ih both
      exact ⟨k, counted, by omega⟩
    | dot dot => simp [noDot] at dot
    | plain noEscape => exact absurd rfl noEscape
  | @dot c cs _ dot _ ih =>
    rw [List.cons_append] at both
    generalize cs ++ rest = more at both ih
    cases both with
    | number => simp [noDot] at dot
    | escaped => simp [noDot] at dot
    | dot _ both => exact ih both
    | plain _ other => simp [dot] at other
  | @plain c cs _ noEscape other _ ih =>
    rw [List.cons_append] at both
    generalize cs ++ rest = more at both ih
    cases both with
    | number => exact absurd rfl noEscape
    | escaped => exact absurd rfl noEscape
    | dot dot => simp [other] at dot
    | plain _ _ both =>
      obtain ⟨k, counted, sum⟩ := ih both
      exact ⟨k, counted, by omega⟩

-- The root is written as an at sign, and that alone is no octet of it.
theorem ofChars_counted {name : Name} (ascii : isAscii cs = true) (done : ofChars cs = .ok name) :
    ∃ n, Counted cs n ∧ name.octets ≤ n ∧ (cs ≠ ['@'] → name.octets = n) := by
  have dotted : ∀ c, isDot c = true → Counted [c] 0 := fun c dot => .dot dot .nil
  have labelled : ofChars.rest cs = .ok name → ∃ n, Counted cs n ∧ name.octets = n := by
    intro done
    rw [ofChars.rest, if_pos ascii] at done
    split at done
    · cases done
    · rename_i ls read
      obtain ⟨n, counted, sum⟩ := readLabels_counted read
      exact ⟨n, counted, by simpa [octets, check_labels done] using sum⟩
  unfold ofChars at done
  split at done
  · rename_i origin
    cases done
    rw [origin]
    exact ⟨1, .plain (by decide) (by decide) .nil, by decide, fun other => absurd rfl other⟩
  · split at done
    · split at done
      · rename_i dot
        cases done
        exact ⟨0, dotted _ dot, by decide, fun _ => rfl⟩
      · obtain ⟨n, counted, same⟩ := labelled done
        exact ⟨n, counted, same.le, fun _ => same⟩
    · obtain ⟨n, counted, same⟩ := labelled done
      exact ⟨n, counted, same.le, fun _ => same⟩

end Octets
end Name

namespace Zone

section Tokens

open Name (Counted)

variable {comment : Bool} {depth k n : Nat} {cs v rest : List Char}

theorem dot_inside {c : Char} (dot : Name.isDot c = true) : Token.isDelimiter c = false := by
  simp only [Name.isDot, Bool.or_eq_true, decide_eq_true_eq] at dot
  rcases dot with ((rfl | rfl) | rfl) | rfl <;> decide

-- What parts tokens is written as an octet.
theorem counted_delimiter {c : Char} (parting : Token.isDelimiter c = true)
    (counted : Counted (c :: cs) n) : 0 < n := by
  have escape : Token.isDelimiter '\\' = false := by decide
  cases counted with
  | number => simp [escape] at parting
  | escaped => simp [escape] at parting
  | dot dot => simp [dot_inside dot] at parting
  | plain => exact Nat.succ_pos _

-- The token ends a text, but for what parts it from the rest. No octets are gained on the way to it, and
-- outside of a comment one is lost at least, unless the text starts with it.
def Reached (comment : Bool) (cs v rest : List Char) (n : Nat) : Prop :=
  ∃ token m, token <:+ cs ∧ Token.Cut token v rest ∧ Counted token m ∧ m ≤ n ∧
    (comment = false → token = cs ∨ m < n)

theorem Reached.here (cut : Token.Cut cs v rest) (counted : Counted cs n) :
    Reached comment cs v rest n :=
  ⟨cs, n, List.suffix_rfl, cut, counted, le_rfl, fun _ => .inl rfl⟩

theorem Reached.behind {inside : Bool} {more : Nat} (reached : Reached inside cs v rest n)
    (front : List Char) (fewer : n ≤ more) (passed : comment = true ∨ n < more) :
    Reached comment (front ++ cs) v rest more := by
  obtain ⟨token, m, suffix, cut, counted, most, _⟩ := reached
  refine ⟨token, m, suffix.trans (List.suffix_append ..), cut, counted, most.trans fewer, ?_⟩
  intro outside
  rcases passed with commented | less
  · rw [outside] at commented
    cases commented
  · exact .inr (most.trans_lt less)

-- The induction is on the octets, and the token starts between two of them: a comment ends with a break,
-- which is an octet or the end of one.
theorem next_counted (counted : Counted cs n)
    (found : Token.next comment depth cs = .ok ⟨.identifier v, k, rest⟩) :
    Reached comment cs v rest n := by
  have escape : Token.isDelimiter '\\' = false ∧ Token.isBreak '\\' = false := by decide
  have next : ∀ {c depth cs}, Token.isBreak c = false →
      Token.next true depth (c :: cs) = .ok ⟨.identifier v, k, rest⟩ →
      ∃ depth, Token.next true depth cs = .ok ⟨.identifier v, k, rest⟩ := by
    intro c depth cs noBreak found
    simpa [noBreak] using Token.next_comment found
  -- A comment may be entered and left on the way, so it is general in the induction.
  induction counted generalizing comment depth with
  | nil =>
    rw [Token.next] at found
    split at found <;> cases found
  | @number c d e cs n first others counted ih =>
    cases comment with
    | false => exact .here (Token.next_cut escape.1 found) (.number first others counted)
    | true =>
      obtain ⟨second, third⟩ := Bool.and_eq_true_iff.mp others
      obtain ⟨_, found⟩ := next escape.2 found
      obtain ⟨_, found⟩ := next (digit_visible first).noBreak found
      obtain ⟨_, found⟩ := next (digit_visible second).noBreak found
      obtain ⟨_, found⟩ := next (digit_visible third).noBreak found
      exact (ih found).behind ['\\', c, d, e] (Nat.le_succ n) (.inl rfl)
  | @escaped c cs n other counted ih =>
    cases comment with
    | false => exact .here (Token.next_cut escape.1 found) (.escaped other counted)
    | true =>
      obtain ⟨_, found⟩ := next escape.2 found
      obtain ⟨_, found⟩ := Token.next_comment found
      exact (ih found).behind ['\\', c] (Nat.le_succ n) (.inl rfl)
  | @dot c cs n dot counted ih =>
    cases comment with
    | false => exact .here (Token.next_cut (dot_inside dot) found) (.dot dot counted)
    | true =>
      obtain ⟨_, found⟩ := Token.next_comment found
      exact (ih found).behind [c] le_rfl (.inl rfl)
  | @plain c cs n noEscape noDot counted ih =>
    cases comment with
    | false =>
      cases parting : Token.isDelimiter c with
      | false => exact .here (Token.next_cut parting found) (.plain noEscape noDot counted)
      | true =>
        obtain ⟨_, found⟩ := Token.next_parting parting found
        exact (ih found).behind [c] (Nat.le_succ n) (.inr (Nat.lt_succ_self n))
    | true =>
      obtain ⟨_, found⟩ := Token.next_comment found
      exact (ih found).behind [c] (Nat.le_succ n) (.inl rfl)

end Tokens

section Names

variable {k : Nat} {cs v rest : List Char} {one two : Name}

theorem ofChars_filled {name : Name} (done : Name.ofChars cs = .ok name) : ∀ l ∈ name.labels, l ≠ [] :=
  Name.read_filled (s := String.ofList cs) (by rw [Name.read, String.toList_ofList, done])

-- A name and the name of the token that is found in its text.
theorem token_same (ascii : Name.isAscii cs = true) (read : Name.ofChars cs = .ok one)
    (found : Token.next false 0 cs = .ok ⟨.identifier v, k, rest⟩) (read' : Name.ofChars v = .ok two) :
    one.text = two.text ↔ Token.isWhole cs = true := by
  constructor
  · intro same
    have names : one = two := Name.text_injective (ofChars_filled read) (ofChars_filled read') same
    obtain ⟨n, counted, _, exactly⟩ := Name.ofChars_counted ascii read
    obtain ⟨token, m, suffix, ⟨text, whole, parted⟩, counted', fewer, outside⟩ :=
      next_counted counted found
    have ascii' : Name.isAscii v = true := by
      refine List.all_eq_true.mpr fun c listed => List.all_eq_true.mp ascii c (suffix.subset ?_)
      rw [text]
      exact List.mem_append_left _ listed
    obtain ⟨a, front, most, _⟩ := Name.ofChars_counted ascii' read'
    rw [text] at counted'
    obtain ⟨b, back, sum⟩ := front.append counted'
    by_cases origin : cs = ['@']
    · rw [origin]
      decide
    · -- No octet is lost, so nothing stands in front of the token or behind it.
      have none : n ≤ a := by
        rw [← exactly origin, names]
        exact most
      have start : token = cs := (outside rfl).resolve_right (by omega)
      cases rest with
      | nil => rw [← start, text, List.append_nil, whole]
      | cons c more =>
        have some := counted_delimiter parted back
        omega
  · intro whole
    rw [Token.next_whole whole found, read] at read'
    cases read'
    rfl

theorem Data.read_token {d : Data} (done : read .cname cs = .ok d) :
    ∃ v k rest name, Token.next false 0 cs = .ok ⟨.identifier v, k, rest⟩ ∧
      Name.ofChars v = .ok name ∧ d = .alias name := by
  have other : RecordType.cname ≠ RecordType.a := by decide
  unfold read at done
  split at done
  · cases done
  · rename_i found next
    obtain ⟨token, k, rest⟩ := found
    cases token with
    | identifier v =>
      cases named : Name.ofChars v with
      | error f => simp [readValue, other, readAlias, named] at done
      | ok name =>
        simp only [readValue, other, if_false, if_true, readAlias, named] at done
        obtain ⟨_, _, rfl⟩ := ok_of_map done
        exact ⟨v, k, rest, name, next, named, rfl⟩
    | quoted | finish => cases done

end Names

-- The owner of one record and the data of an alias to it are the same text exactly if all of it is read as
-- one token.
theorem recordLines_chained {r q : Record} {s : String} {n : Int} {ls ms : List LooseText} {i : Nat}
    (ascii : ∀ c ∈ s.toList, c.toNat < 128) (named : r.name = .str s) (type : q.type = .cname)
    (time : q.ttl = .int n) (target : q.targets[i]? = some (.str s)) (owned : recordLines r = .ok ls)
    (pointed : recordLines q = .ok ms) : ∃ owner data m, (∀ l ∈ ls, ownerField l = some owner) ∧
      ms[i]? = some m ∧ dataField m = some data ∧ (owner = data ↔ Token.isWhole s.toList = true) := by
  obtain ⟨owner, _, read, _, lines⟩ := recordLines_ok.mp owned
  obtain ⟨_, note, _, noted, targets⟩ := recordLines_ok.mp pointed
  obtain ⟨inside, given⟩ := List.getElem?_eq_some_iff.mp target
  have each := targetLines_ok.mp targets
  have within : i < ms.length := each.length_eq ▸ inside
  obtain ⟨d, made, written⟩ := (List.forall₂_iff_get.mp each).2 i inside within
  rw [List.get_eq_getElem, given, type] at made
  have read' : Name.ofChars s.toList = .ok owner := by
    rw [named, Name.ofJson] at read
    split at read
    · cases read
    · cases read
      assumption
  have done : Data.read .cname s.toList = .ok d := by
    rw [data] at made
    split at made
    · cases made
    · cases made
      assumption
  obtain ⟨v, k, rest, name, found, named', rfl⟩ := Data.read_token done
  have blank : ' ' ∉ q.type.text.toList := by
    rw [type]
    decide
  refine ⟨owner.text, name.text, ms[i], ?_, List.getElem?_eq_getElem within, ?_, ?_⟩
  · intro l listed
    obtain ⟨_, rfl⟩ := targetLines_line lines l listed
    exact ownerField_line
  · rw [List.get_eq_getElem] at written
    rw [written]
    exact dataField_line time blank noted
  · have every : Name.isAscii s.toList = true :=
      List.all_eq_true.mpr fun c listed => decide_eq_true (ascii c listed)
    exact token_same every read' found named'

-- A label for the geography that starts with a blank. It is written in front of the owner, and left out of
-- what leads there.
def strayed : Record :=
  ⟨.str " eu.klb.app.x", .cname, [.str "edge.x"], .int 60, .str "edge.x",
    [(.str "weight", .str "120")], []⟩

def straying : Record :=
  ⟨.str "klb.app.x", .cname, [.str " eu.klb.app.x"], .int 300, .str " eu", [(.str "geo-code", .str " eu")],
    []⟩

theorem strayed_lines : recordLines strayed = .ok [
    "\\032eu.klb.app.x. 60 IN CNAME edge.x. ; set-identifier=edge.x weight=120"] := by decide +kernel

theorem straying_lines : recordLines straying = .ok [
    "klb.app.x. 300 IN CNAME eu.klb.app.x. ; set-identifier= eu geo-code= eu"] := by decide +kernel

theorem strayed_ascii : ∀ c ∈ " eu.klb.app.x".toList, c.toNat < 128 := Text.forall_of_all (by decide)

theorem strayed_regular : Regular strayed ∧ Regular straying := by
  have attributes : ∀ name value : String, Entries.Textual [(.str name, .str value)] :=
    fun name value => ⟨List.forall_mem_singleton.mpr ⟨⟨_, rfl⟩, ⟨_, rfl⟩⟩, List.nodup_singleton _⟩
  constructor
  · refine ⟨⟨⟨_, rfl⟩, ⟨_, rfl⟩⟩, .inr rfl, ?_, ⟨60, rfl⟩, attributes ..⟩
    exact List.forall_mem_singleton.mpr ⟨_, rfl⟩
  · refine ⟨⟨⟨_, rfl⟩, ⟨_, rfl⟩⟩, .inr rfl, ?_, ⟨300, rfl⟩, attributes ..⟩
    exact List.forall_mem_singleton.mpr ⟨_, rfl⟩

theorem strayed_chained : ∃ ls ms, (∀ c ∈ " eu.klb.app.x".toList, c.toNat < 128) ∧
    recordLines strayed = .ok ls ∧ recordLines straying = .ok ms ∧
    ∃ owner data m, (∀ l ∈ ls, ownerField l = some owner) ∧ ms[0]? = some m ∧
      dataField m = some data ∧ (owner = data ↔ Token.isWhole " eu.klb.app.x".toList = true) :=
  ⟨_, _, strayed_ascii, strayed_lines, straying_lines,
    recordLines_chained strayed_ascii rfl rfl rfl rfl strayed_lines straying_lines⟩

end Zone

-- The alias that is published for the name of the load balancer leads to a name that is not in the zone.
theorem strayed_breaks : (¬ ∀ r q (s : String) (i : Nat) ls ms, Zone.Regular r → Zone.Regular q →
      (∀ c ∈ s.toList, c.toNat < 128) → r.name = .str s → q.type = .cname →
      q.targets[i]? = some (Json.str s) → Zone.recordLines r = .ok ls → Zone.recordLines q = .ok ms →
      ∀ l ∈ ls, Zone.ownerField l = ms[i]?.bind Zone.dataField) ∧
    (CommandLine.run (Zone.locatedWords " eu")).ending = .printed
      ("\\032eu.klb.app.x. 60 IN CNAME edge.x. ; set-identifier=edge.x weight=120\n" ++
        "app.x. 300 IN CNAME klb.app.x.\n" ++
        "klb.app.x. 300 IN CNAME eu.klb.app.x. ; set-identifier= eu geo-code= eu\n") := by
  constructor
  · intro every
    have same := every _ _ _ 0 _ _ Zone.strayed_regular.1 Zone.strayed_regular.2 Zone.strayed_ascii rfl rfl
      rfl Zone.strayed_lines Zone.straying_lines _ (List.mem_singleton.mpr rfl)
    revert same
    decide +kernel
  · decide +kernel

end DnsSteering
