import DnsSteering.CommandLine.Arguments

namespace DnsSteering.CommandLine

theorem Word.ofTexts_append {argv more : List String} {words others : List Word}
    (read : ofTexts argv = .ok words) (unseparated : Word.separator ∉ words)
    (readMore : ofTexts more = .ok others) : ofTexts (argv ++ more) = .ok (words ++ others) := by
  induction argv generalizing words with
  | nil =>
    cases Except.ok.inj read
    exact readMore
  | cons text argv ih =>
    unfold ofTexts at read
    split at read
    · cases read
    · cases Except.ok.inj read
      simp at unseparated
    · rename_i word other first
      cases tail : ofTexts argv with
      | error message => simp [tail, Except.map] at read
      | ok later =>
        simp only [tail, Except.map, Except.ok.injEq] at read
        rw [← read] at unseparated ⊢
        have rest := ih tail fun listed => unseparated (List.mem_cons_of_mem _ listed)
        simp [ofTexts, first, rest, Except.map]

namespace Arguments

section Words

variable {a b : Arguments} {words more : List Word}

theorem joinedHelp_refused (cs : List Char) : joinedHelp cs ≠ .ok b := by
  induction cs with
  | nil => simp [joinedHelp]
  | cons c cs ih =>
    unfold joinedHelp
    split
    · exact ih
    · simp [ignored, complain]

theorem readWords_append (done : readWords a words = .ok b) :
    readWords a (words ++ more) = readWords b more := by
  fun_induction readWords a words with
  | case1 a =>
    cases Except.ok.inj done
    rfl
  | case2 a text ws ih | case3 a ws ih | case4 a text ws ih => exact ih done
  | case6 a equals joined ws given => exact absurd done (joinedHelp_refused _)
  | case10 a f value ws other a' taken ih => simpa [readWords, taken] using ih done
  | case12 a f value ws other a' taken ih => simpa [readWords, taken] using ih done
  | case5 | case7 | case8 | case9 | case11 | case13 => cases done

theorem store_extra (value : Json) (f : Flag) : (a.store value f).extra = a.extra := by
  cases f <;> rfl

theorem take_extra {f : Flag} {value : String} (taken : a.take f value = .ok b) :
    b.extra = a.extra := by
  unfold take at taken
  split at taken
  · cases Except.ok.inj taken
    exact store_extra _ f
  · cases taken

theorem takeJoined_extra {f : Flag} {value : String} (taken : a.takeJoined f value = .ok b) :
    b.extra = a.extra := by
  unfold takeJoined at taken
  split at taken
  · cases Except.ok.inj taken
    exact store_extra _ f
  · exact take_extra taken

-- What stands beside the options is never taken away, and a separator stands beside them.
theorem readWords_extra (done : readWords a words = .ok b) (none : b.extra = []) :
    a.extra = [] ∧ Word.separator ∉ words := by
  fun_induction readWords a words with
  | case1 a =>
    cases Except.ok.inj done
    exact ⟨none, by simp⟩
  | case2 a text ws ih | case3 a ws ih | case4 a text ws ih => simpa using (ih done).1
  | case6 a equals joined ws given => exact absurd done (joinedHelp_refused _)
  | case10 a f value ws other a' taken ih =>
    obtain ⟨empty, unseparated⟩ := ih done
    exact ⟨(takeJoined_extra taken).symm.trans empty, by simpa using unseparated⟩
  | case12 a f value ws other a' taken ih =>
    obtain ⟨empty, unseparated⟩ := ih done
    exact ⟨(take_extra taken).symm.trans empty, by simpa using unseparated⟩
  | case5 | case7 | case8 | case9 | case11 | case13 => cases done

end Words

theorem check_parts {a b : Arguments} (checked : check a = .ok b) : b = a ∧ a.extra = [] := by
  unfold check at checked
  split at checked
  · split at checked
    · rename_i empty
      cases Except.ok.inj checked
      exact ⟨rfl, by simpa using empty⟩
    · cases checked
  · cases checked

-- The same arguments, with other current records.
def resumed (a : Arguments) (records : String) : Arguments := { a with currentRecords := .str records }

theorem check_resumed {a : Arguments} {records : String} (checked : check a = .ok a) :
    check (a.resumed records) = .ok (a.resumed records) := by
  have same : (fun f => !(a.resumed records).isGiven f) = fun f => !a.isGiven f := by
    funext f
    cases f <;> rfl
  have empty := (check_parts checked).2
  unfold check at checked ⊢
  rw [same]
  split at checked
  · simp [resumed, empty]
  · cases checked

-- Current records given last, as a text that looks like no option, take the place of earlier ones.
theorem read_resumed {argv : List String} {a : Arguments} {records : String}
    (accepted : read argv = .ok a) (plain : Word.ofText records = .ok (.plain records)) :
    read (argv ++ ["--current-records", records]) = .ok (a.resumed records) := by
  unfold read at accepted
  cases words : Word.ofTexts argv with
  | error message => simp [words] at accepted
  | ok ws =>
    simp only [words] at accepted
    cases done : readWords {} ws with
    | error r => simp [done] at accepted
    | ok a' =>
      simp only [done] at accepted
      obtain ⟨rfl, empty⟩ := check_parts accepted
      have option : Word.ofTexts ["--current-records", records] =
          .ok [.option .currentRecords none, .plain records] := by
        have name : Word.ofText "--current-records" = .ok (.option .currentRecords none) := by rfl
        simp [Word.ofTexts, name, plain, Except.map]
      have all := Word.ofTexts_append words (readWords_extra done empty).2 option
      have last : readWords a [.option .currentRecords none, .plain records] =
          .ok (a.resumed records) := by
        simp [readWords, take, Flag.choices, store, resumed]
      simp [read, all, readWords_append done, last, check_resumed accepted]

end Arguments
end DnsSteering.CommandLine
