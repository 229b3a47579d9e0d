import DnsSteering.Proofs.Json.Keys
import DnsSteering.Proofs.Json.Numbers
import DnsSteering.Proofs.Json.Strings

namespace DnsSteering.Json

section Blanks

theorem skipSpace_start {c : Char} {cs : List Char} (filled : isSpace c = false) :
    skipSpace (c :: cs) = c :: cs := by
  simp [skipSpace, filled]

theorem skipSpace_blank {blank : List Char} (spaces : ∀ c ∈ blank, isSpace c = true)
    (rest : List Char) : skipSpace (blank ++ rest) = skipSpace rest :=
  List.dropWhile_append_of_pos spaces

theorem skipSpace_colon (cs : List Char) : skipSpace (':' :: cs) = ':' :: cs := skipSpace_start rfl

theorem skipSpace_comma (cs : List Char) : skipSpace (',' :: cs) = ',' :: cs := skipSpace_start rfl

theorem blank_space : ∀ c ∈ [' '], isSpace c = true := by simp [isSpace]

theorem newLine_blank (depth : Nat) : ∀ c ∈ newLine depth, isSpace c = true := by
  intro c member
  rcases List.mem_cons.mp member with rfl | indent
  · rfl
  · rw [(List.mem_replicate.mp indent).2]
    rfl

theorem ended_blank {blank : List Char} (spaces : ∀ c ∈ blank, isSpace c = true) : Ended blank := by
  cases blank with
  | nil => trivial
  | cons c cs =>
    have space := spaces c (List.mem_cons_self ..)
    simp only [isSpace, Bool.or_eq_true, decide_eq_true_eq] at space
    rcases space with ((rfl | rfl) | rfl) | rfl <;> exact ended_cons (by decide)

theorem ended_newLine (depth : Nat) (rest : List Char) : Ended (newLine depth ++ rest) := by
  exact ended_cons (by decide)

end Blanks

-- What is written of a value is read back as that value. It begins neither with a blank nor with a
-- bracket that closes nor with a byte order mark.
structure Legible (v : Json) : Prop where
  start : ∀ depth, ∃ c cs, print depth v = c :: cs ∧
    isSpace c = false ∧ c ≠ ']' ∧ c ≠ Char.ofNat 0xFEFF
  back : ∀ depth fuel rest, Ended rest → 2 * (print depth v).length ≤ fuel →
    readValue fuel (print depth v ++ rest) = .ok (v, rest)

section Legible

theorem Legible.skip {v : Json} (legible : Legible v) (depth : Nat) {blank : List Char}
    (spaces : ∀ c ∈ blank, isSpace c = true) (rest : List Char) :
    skipSpace (blank ++ (print depth v ++ rest)) = print depth v ++ rest := by
  obtain ⟨c, cs, written, filled, _⟩ := legible.start depth
  rw [skipSpace_blank spaces, written]
  exact skipSpace_start filled

section Steps

variable {value : Json} (legible : Legible value) {depth fuel : Nat} {rest left : List Char}
  (ended : Ended rest) (enough : 2 * (print depth value).length ≤ fuel)

include legible ended enough

theorem readItems_last (close : skipSpace rest = ']' :: left) :
    readItems (fuel + 1) (print depth value ++ rest) = .ok ([value], left) := by
  simp [readItems, legible.back depth fuel rest ended enough, close]

theorem readItems_next (comma : skipSpace rest = ',' :: left) :
    readItems (fuel + 1) (print depth value ++ rest) =
      (readItems fuel (skipSpace left)).map fun r => (value :: r.1, r.2) := by
  simp [readItems, legible.back depth fuel rest ended enough, comma]

variable {key : LooseText} (unpaired : key.Unpaired) (before : List (LooseText × Json))

include unpaired

theorem readFields_last (close : skipSpace rest = '\x7d' :: left) :
    readFields (fuel + 1) before (printString key ++ ':' :: ' ' :: (print depth value ++ rest)) =
      .ok (setField key value before, left) := by
  have skipped : skipSpace (' ' :: (print depth value ++ rest)) = print depth value ++ rest :=
    legible.skip depth blank_space rest
  simp [printString, readFields, readString_print unpaired, skipSpace_colon, skipped,
    legible.back depth fuel rest ended enough, close]

theorem readFields_next (comma : skipSpace rest = ',' :: left) :
    readFields (fuel + 1) before (printString key ++ ':' :: ' ' :: (print depth value ++ rest)) =
      readFields fuel (setField key value before) (skipSpace left) := by
  have skipped : skipSpace (' ' :: (print depth value ++ rest)) = print depth value ++ rest :=
    legible.skip depth blank_space rest
  simp [printString, readFields, readString_print unpaired, skipSpace_colon, skipped,
    legible.back depth fuel rest ended enough, comma]

end Steps

-- Items as they are printed, up to the closing bracket. The induction is on those behind the first.
theorem readItems_print {item : Json} {items : List Json} (depth outer fuel : Nat) (rest : List Char)
    (legible : ∀ v ∈ item :: items, Legible v)
    (enough : 2 * (print depth item ++ printItems depth items).length < fuel) :
    readItems fuel (print depth item ++ (printItems depth items ++ (newLine outer ++ ']' :: rest))) =
      .ok (item :: items, rest) := by
  obtain ⟨fuel, rfl⟩ : ∃ n, fuel = n + 1 := ⟨fuel - 1, by omega⟩
  have here : Legible item := legible item (List.mem_cons_self ..)
  induction items generalizing item fuel with
  | nil =>
    have close : skipSpace (newLine outer ++ ']' :: rest) = ']' :: rest :=
      skipSpace_blank (newLine_blank outer) _
    simp only [printItems, List.append_nil] at enough
    simp only [printItems, List.nil_append]
    exact readItems_last here (ended_newLine ..) (by omega) close
  | cons next items ih =>
    have there : Legible next := legible next (by simp)
    have skipped := there.skip depth (newLine_blank depth)
      (printItems depth items ++ (newLine outer ++ ']' :: rest))
    simp only [printItems, List.length_append, List.length_cons] at enough
    obtain ⟨fuel, rfl⟩ : ∃ n, fuel = n + 1 := ⟨fuel - 1, by omega⟩
    have later := ih (fun v member => legible v (List.mem_cons_of_mem _ member)) fuel
      (by simp only [List.length_append]; omega) there
    simp only [printItems, List.cons_append, List.append_assoc]
    rw [readItems_next here (ended_cons (by decide)) (by omega) (skipSpace_comma _), skipped, later]
    rfl

theorem key_new {key : LooseText} {value : Json} {before fields : List (LooseText × Json)}
    (once : ((before ++ (key, value) :: fields).map (·.1)).Nodup) : key ∉ before.map (·.1) := by
  rw [List.map_append, List.nodup_append] at once
  exact fun listed => once.2.2 key listed key (by simp) rfl

-- Likewise for fields. Those read before stand in front, and none of their keys comes again.
theorem readFields_print {key : LooseText} {value : Json} {fields : List (LooseText × Json)}
    (depth outer fuel : Nat) (before : List (LooseText × Json)) (rest : List Char)
    (legible : ∀ f ∈ (key, value) :: fields, Legible f.2)
    (unpaired : ∀ f ∈ (key, value) :: fields, f.1.Unpaired)
    (once : ((before ++ (key, value) :: fields).map (·.1)).Nodup)
    (enough : 2 * (print depth value ++ printFields depth fields).length < fuel) :
    readFields fuel before (printString key ++ ':' :: ' ' :: (print depth value ++
      (printFields depth fields ++ (newLine outer ++ '\x7d' :: rest)))) =
      .ok (before ++ (key, value) :: fields, rest) := by
  obtain ⟨fuel, rfl⟩ : ∃ n, fuel = n + 1 := ⟨fuel - 1, by omega⟩
  have here : Legible value := legible (key, value) (List.mem_cons_self ..)
  have named : key.Unpaired := unpaired (key, value) (List.mem_cons_self ..)
  induction fields generalizing key value before fuel with
  | nil =>
    have close : skipSpace (newLine outer ++ '\x7d' :: rest) = '\x7d' :: rest :=
      skipSpace_blank (newLine_blank outer) _
    simp only [printFields, List.append_nil] at enough
    simp only [printFields, List.nil_append]
    rw [readFields_last here (ended_newLine ..) (by omega) named before close,
      setField_new (key_new once)]
  | cons next fields ih =>
    obtain ⟨nextKey, nextValue⟩ := next
    have there : Legible nextValue := legible (nextKey, nextValue) (by simp)
    have nextNamed : nextKey.Unpaired := unpaired (nextKey, nextValue) (by simp)
    have skipped : skipSpace (newLine depth ++ (printString nextKey ++ ':' :: ' ' ::
        (print depth nextValue ++ (printFields depth fields ++ (newLine outer ++ '\x7d' :: rest))))) =
          printString nextKey ++ ':' :: ' ' ::
        (print depth nextValue ++ (printFields depth fields ++ (newLine outer ++ '\x7d' :: rest))) :=
      skipSpace_blank (newLine_blank depth) _
    simp only [printFields, List.length_append, List.length_cons] at enough
    obtain ⟨fuel, rfl⟩ : ∃ n, fuel = n + 1 := ⟨fuel - 1, by omega⟩
    have later := ih (before ++ [(key, value)])
      (fun f member => legible f (List.mem_cons_of_mem _ member))
      (fun f member => unpaired f (List.mem_cons_of_mem _ member)) (by simpa using once) fuel
      (by simp only [List.length_append]; omega) there nextNamed
    simp only [printFields, List.cons_append, List.append_assoc]
    rw [readFields_next here (ended_cons (by decide)) (by omega) named before (skipSpace_comma _),
      skipped, setField_new (key_new once)]
    simpa only [List.append_assoc, List.singleton_append] using later

-- What begins is not empty, so there is fuel for a step.
theorem Legible.of_step {v : Json}
    (start : ∀ depth, ∃ c cs, print depth v = c :: cs ∧
      isSpace c = false ∧ c ≠ ']' ∧ c ≠ Char.ofNat 0xFEFF)
    (back : ∀ depth fuel rest, Ended rest → 2 * (print depth v).length ≤ fuel + 1 →
      readValue (fuel + 1) (print depth v ++ rest) = .ok (v, rest)) : Legible v := by
  refine ⟨start, ?_⟩
  intro depth fuel rest ended enough
  obtain ⟨c, cs, written, _⟩ := start depth
  have some : 0 < (print depth v).length := by simp [written]
  obtain ⟨fuel, rfl⟩ : ∃ n, fuel = n + 1 := ⟨fuel - 1, by omega⟩
  exact back depth fuel rest ended enough

theorem legible_null : Legible .null :=
  .of_step (fun _ => ⟨_, _, rfl, by decide⟩) fun _ _ _ _ _ => rfl

theorem legible_bool (b : Bool) : Legible (.bool b) := by
  cases b <;> exact .of_step (fun _ => ⟨_, _, rfl, by decide⟩) fun _ _ _ _ _ => rfl

theorem legible_int (n : Int) : Legible (.int n) := by
  obtain ⟨c, cs, written, other⟩ := toString_start n
  have plain : ∀ d : Char, (d.isDigit = false ∧ d ≠ '-') → c ≠ d := fun d two => other d two.1 two.2
  refine .of_step (fun depth => ⟨c, cs, written, ?_, plain _ (by decide), plain _ (by decide)⟩) ?_
  · simp [isSpace, plain ' ' (by decide), plain '\t' (by decide), plain '\n' (by decide),
      plain '\r' (by decide)]
  · intro depth fuel rest ended _
    have read := readPlain_int ended n
    rw [written, List.cons_append] at read
    rw [print, written, List.cons_append, readValue, read]
    · exact fun _ same => plain '"' (by decide) (List.cons.inj same).1
    · exact fun _ same => plain '\x7b' (by decide) (List.cons.inj same).1
    · exact fun _ same => plain '[' (by decide) (List.cons.inj same).1

theorem legible_str {t : LooseText} (unpaired : t.Unpaired) : Legible (.str t) := by
  refine .of_step (fun depth => ⟨_, _, rfl, by decide⟩) ?_
  intro depth fuel rest ended enough
  simp [print, printString, readValue, readString_print unpaired, Except.map]

theorem readValue_items {fuel : Nat} {rest left : List Char} {c : Char}
    (skipped : skipSpace rest = c :: left) (other : c ≠ ']') :
    readValue (fuel + 1) ('[' :: rest) =
      (readItems fuel (c :: left)).map fun r => (.arr r.1, r.2) := by
  simp [readValue, skipped, other]

theorem readValue_fields {fuel : Nat} {rest left : List Char} {c : Char}
    (skipped : skipSpace rest = c :: left) (other : c ≠ '\x7d') :
    readValue (fuel + 1) ('\x7b' :: rest) =
      (readFields fuel [] (c :: left)).map fun r => (.obj r.1, r.2) := by
  simp [readValue, skipped, other]

theorem legible_arr {items : List Json} (each : ∀ item ∈ items, Legible item) :
    Legible (.arr items) := by
  cases items with
  | nil => exact .of_step (fun _ => ⟨_, _, rfl, by decide⟩) fun _ _ _ _ _ => rfl
  | cons item items =>
    refine .of_step (fun _ => ⟨_, _, rfl, by decide⟩) ?_
    intro depth fuel rest ended enough
    simp only [print, List.length_append, List.length_cons] at enough
    have inside := readItems_print (depth + 1) depth fuel rest each
      (by simp only [List.length_append]; omega)
    have skipped := (each item (List.mem_cons_self ..)).skip (depth + 1) (newLine_blank (depth + 1))
      (printItems (depth + 1) items ++ (newLine depth ++ ']' :: rest))
    obtain ⟨c, cs, written, _, other, _⟩ := (each item (List.mem_cons_self ..)).start (depth + 1)
    rw [written, List.cons_append] at skipped inside
    simp only [print, List.cons_append, List.append_assoc, List.nil_append, written]
    rw [readValue_items skipped other, inside]
    rfl

theorem legible_obj {fields : List (LooseText × Json)} (once : (fields.map (·.1)).Nodup)
    (unpaired : ∀ f ∈ fields, f.1.Unpaired) (each : ∀ f ∈ fields, Legible f.2) :
    Legible (.obj fields) := by
  cases fields with
  | nil => exact .of_step (fun _ => ⟨_, _, rfl, by decide⟩) fun _ _ _ _ _ => rfl
  | cons f fields =>
    obtain ⟨key, value⟩ := f
    refine .of_step (fun _ => ⟨_, _, rfl, by decide⟩) ?_
    intro depth fuel rest ended enough
    simp only [print, List.length_append, List.length_cons] at enough
    have inside := readFields_print (depth + 1) depth fuel [] rest each unpaired once
      (by simp only [List.length_append]; omega)
    have skipped : ∀ cs, skipSpace (newLine (depth + 1) ++ (printString key ++ cs)) =
        printString key ++ cs := fun cs => skipSpace_blank (newLine_blank _) _
    simp only [print, List.cons_append, List.append_assoc, List.nil_append]
    rw [readValue_fields (c := '"') (skipped _) (by decide)]
    exact congrArg (fun read => Except.map (fun r => (Json.obj r.1, r.2)) read) inside

theorem Keyed.legible {v : Json} (keyed : Keyed (fun _ => False) v) : Legible v := by
  induction keyed with
  | null => exact legible_null
  | bool b => exact legible_bool b
  | int n => exact legible_int n
  | float allowed => exact allowed.elim
  | str unpaired => exact legible_str unpaired
  | arr each ih => exact legible_arr ih
  | obj once unpaired each ih => exact legible_obj once unpaired ih

end Legible

-- A text of a document, with blanks behind it, is read as that document.
theorem read_text {v : Json} (keyed : Keyed (fun _ => False) v) {blank : String}
    (spaces : ∀ c ∈ blank.toList, isSpace c = true) : read (v.text ++ blank) = .ok v := by
  have legible := keyed.legible
  obtain ⟨c, cs, written, _, _, unmarked⟩ := legible.start 0
  have listed : (v.text ++ blank).toList = print 0 v ++ blank.toList := by
    simp [text]
  have none : ∀ c ∈ ([] : List Char), isSpace c = true := by simp
  have start : skipSpace (print 0 v ++ blank.toList) = print 0 v ++ blank.toList :=
    legible.skip 0 none blank.toList
  have done := legible.back 0 (2 * (print 0 v ++ blank.toList).length + 2) blank.toList
    (ended_blank spaces) (by simp only [List.length_append]; omega)
  have left : skipSpace blank.toList = [] := by
    simpa [skipSpace] using skipSpace_blank spaces []
  have mark : ¬ (print 0 v ++ blank.toList).head? = some (Char.ofNat 0xFEFF) := by
    rw [written]
    simpa using unmarked
  have whole : readDocument (print 0 v ++ blank.toList) = .ok v := by
    rw [readDocument, if_neg mark, start, done]
    simp [left]
  rw [read, listed, whole]
  rfl

end DnsSteering.Json
