namespace DnsSteering.Text

def split (separator : Char) : List Char → List (List Char)
  | [] => [[]]
  | c :: cs =>
    if c = separator then [] :: split separator cs
    else
      match split separator cs with
      | [] => [[c]]
      | part :: parts => (c :: part) :: parts

def join (separator : Char) : List (List Char) → List Char
  | [] => []
  | [part] => part
  | part :: parts => part ++ separator :: join separator parts

theorem split_ne_nil (separator : Char) (cs : List Char) : split separator cs ≠ [] := by
  cases cs with
  | nil => simp [split]
  | cons c cs =>
    rw [split]
    split
    · simp
    · split <;> simp

theorem join_split (separator : Char) (cs : List Char) :
    join separator (split separator cs) = cs := by
  induction cs with
  | nil => rfl
  | cons c cs ih =>
    rw [split]
    split
    · next h =>
      cases parts : split separator cs with
      | nil => exact absurd parts (split_ne_nil separator cs)
      | cons part rest => rw [parts] at ih; simp [join, ih, h]
    · split
      · next parts => exact absurd parts (split_ne_nil separator cs)
      · next part rest parts =>
        rw [parts] at ih
        cases rest <;> simp_all [join]

-- No part holds a separator.
theorem separator_notMem_split {separator : Char} {cs part : List Char}
    (h : part ∈ split separator cs) : separator ∉ part := by
  induction cs generalizing part with
  | nil => simp_all [split]
  | cons c cs ih =>
    rw [split] at h
    split at h
    · rcases List.mem_cons.mp h with rfl | h
      · simp
      · exact ih h
    · next hc =>
      split at h
      · next parts => exact absurd parts (split_ne_nil separator cs)
      · next first rest parts =>
        rcases List.mem_cons.mp h with rfl | h
        · have : separator ∉ first := ih (by simp [parts])
          simp [this, Ne.symm hc]
        · exact ih (by simp [parts, h])

end DnsSteering.Text
