import DnsSteering.Zone.Token

namespace DnsSteering.Zone.Token

-- Nothing parts tokens here, but for what is escaped.
def isWhole : List Char → Bool
  | [] => true
  | '\\' :: _ :: cs => isWhole cs
  | c :: cs => !isDelimiter c && isWhole cs

-- At the end of a text, or where a token is parted from what follows.
def Parted : List Char → Prop
  | [] => True
  | c :: _ => isDelimiter c = true

section Identifiers

variable {c : Char} {cs v rest : List Char}

theorem isWhole_cons (noEscape : c ≠ '\\') :
    isWhole (c :: cs) = (!isDelimiter c && isWhole cs) := by
  rw [isWhole]
  rintro d more rfl
  exact absurd rfl noEscape

theorem readIdentifier_cons (noEscape : c ≠ '\\') (inside : isDelimiter c = false) :
    readIdentifier (c :: cs) = (readIdentifier cs).map fun r => (c :: r.1, r.2) := by
  rw [readIdentifier, if_neg (by simp [inside])]
  · rintro rfl
    exact absurd rfl noEscape
  · rintro d more rfl
    exact absurd rfl noEscape

-- What is left of the cases in which a text starts with a backslash.
theorem not_escape (noEnd : c = '\\' → cs = [] → False)
    (noPair : ∀ d ds, c = '\\' → cs = d :: ds → False) : c ≠ '\\' := by
  intro escape
  cases cs with
  | nil => exact noEnd escape rfl
  | cons d cs => exact noPair d cs escape rfl

-- An identifier and what is left of the text behind it.
structure Cut (cs v rest : List Char) : Prop where
  text : cs = v ++ rest
  whole : isWhole v = true
  parted : Parted rest

theorem readIdentifier_cut (read : readIdentifier cs = .ok (v, rest)) : Cut cs v rest := by
  fun_induction readIdentifier cs generalizing v with
  | case1 =>
    cases read
    exact ⟨rfl, rfl, trivial⟩
  | case2 | case3 => cases read
  | case4 c cs _ ih =>
    obtain ⟨⟨v, rest⟩, more, same⟩ := ok_of_map read
    cases same
    obtain ⟨text, whole, parted⟩ := ih more
    exact ⟨by rw [text]; rfl, by rw [isWhole, whole], parted⟩
  | case5 c cs _ _ stop =>
    cases read
    exact ⟨rfl, rfl, stop⟩
  | case6 c cs noEnd noPair inside ih =>
    obtain ⟨⟨v, rest⟩, more, same⟩ := ok_of_map read
    cases same
    obtain ⟨text, whole, parted⟩ := ih more
    have noEscape := not_escape noEnd noPair
    exact ⟨by rw [text]; rfl, by simp [isWhole_cons noEscape, inside, whole], parted⟩

theorem readIdentifier_whole (whole : isWhole cs = true) (read : readIdentifier cs = .ok (v, rest)) :
    v = cs := by
  fun_induction isWhole cs generalizing v with
  | case1 =>
    cases read
    rfl
  | case2 c cs ih =>
    rw [readIdentifier] at read
    split at read
    · cases read
    · obtain ⟨⟨v, rest⟩, more, same⟩ := ok_of_map read
      cases same
      rw [ih whole more]
  | case3 c cs noPair ih =>
    obtain ⟨inside, more⟩ := Bool.and_eq_true_iff.mp whole
    by_cases escape : c = '\\'
    · cases cs with
      | nil =>
        rw [escape] at read
        cases read
      | cons d cs => exact absurd rfl (noPair d cs escape)
    · rw [readIdentifier_cons escape (by simpa using inside)] at read
      obtain ⟨⟨v, rest⟩, here, same⟩ := ok_of_map read
      cases same
      rw [ih more here]

end Identifiers

section Next

variable {comment : Bool} {depth k : Nat} {c : Char} {cs v rest : List Char}

theorem next_inside (inside : isDelimiter c = false) : next false depth (c :: cs) =
    (readIdentifier (c :: cs)).map fun r => ⟨.identifier r.1, depth, r.2⟩ := by
  simp only [isDelimiter, Bool.or_eq_false_iff, decide_eq_false_iff_not] at inside
  obtain ⟨⟨⟨⟨⟨⟨noBreak, noBlank⟩, noTab⟩, noComment⟩, noOpen⟩, noClose⟩, noQuote⟩ := inside
  simp only [next, noBreak, noBlank, noTab, noComment, noOpen, noClose, noQuote, decide_false,
    Bool.or_self, Bool.false_eq_true, if_false]

theorem next_comment (found : next true depth (c :: cs) = .ok ⟨.identifier v, k, rest⟩) :
    ∃ depth', next (!isBreak c) depth' cs = .ok ⟨.identifier v, k, rest⟩ := by
  rw [next] at found
  cases stop : isBreak c with
  | true =>
    simp only [stop, if_true] at found
    split at found
    · cases found
    · exact ⟨depth, found⟩
  | false => exact ⟨depth, by simpa [stop] using found⟩

-- What parts tokens is passed over. Only a semicolon starts a comment, and only a quote a token.
theorem next_parting (parting : isDelimiter c = true)
    (found : next false depth (c :: cs) = .ok ⟨.identifier v, k, rest⟩) :
    ∃ depth', next (decide (c = ';')) depth' cs = .ok ⟨.identifier v, k, rest⟩ := by
  rw [next] at found
  cases stop : isBreak c with
  | true =>
    have other : c ≠ ';' := by
      rintro rfl
      cases stop
    simp only [stop, if_true] at found
    split at found
    · cases found
    · exact ⟨depth, by simpa [other] using found⟩
  | false =>
    simp only [isDelimiter, stop, Bool.false_or, Bool.or_eq_true, decide_eq_true_eq] at parting
    simp only [stop, Bool.false_eq_true, if_false] at found
    rcases parting with ((((rfl | rfl) | rfl) | rfl) | rfl) | rfl
    · exact ⟨depth, found⟩
    · exact ⟨depth, found⟩
    · exact ⟨depth, found⟩
    · exact ⟨depth + 1, found⟩
    · cases depth with
      | zero => cases found
      | succ depth => exact ⟨depth, found⟩
    · have quoted : (readQuoted cs).map (fun r => Found.mk (.quoted r.1) depth r.2) =
          .ok ⟨.identifier v, k, rest⟩ := found
      obtain ⟨_, _, same⟩ := ok_of_map quoted
      cases same

theorem next_cut (inside : isDelimiter c = false)
    (found : next false depth (c :: cs) = .ok ⟨.identifier v, k, rest⟩) : Cut (c :: cs) v rest := by
  rw [next_inside inside] at found
  obtain ⟨_, read, same⟩ := ok_of_map found
  cases same
  exact readIdentifier_cut read

-- A whole text is one token.
theorem next_whole (whole : isWhole cs = true)
    (found : next false depth cs = .ok ⟨.identifier v, k, rest⟩) : v = cs := by
  cases cs with
  | nil =>
    rw [next] at found
    split at found <;> cases found
  | cons c cs =>
    have inside : isDelimiter c = false := by
      by_cases escape : c = '\\'
      · rw [escape]
        decide
      · rw [isWhole_cons escape] at whole
        simpa using (Bool.and_eq_true_iff.mp whole).1
    rw [next_inside inside] at found
    obtain ⟨_, read, same⟩ := ok_of_map found
    cases same
    exact readIdentifier_whole whole read

end Next

end DnsSteering.Zone.Token
