namespace DnsSteering.Text

-- White space that may stand around a number.
def isBlank (c : Char) : Bool :=
  let n := c.toNat
  (9 ≤ n && n ≤ 13) || n = 32 || n = 0x85 || n = 0xA0 || n = 0x1680 ||
    (0x2000 ≤ n && n ≤ 0x200A) || n = 0x2028 || n = 0x2029 || n = 0x202F || n = 0x205F || n = 0x3000

def trimBlanks (cs : List Char) : List Char :=
  ((cs.dropWhile isBlank).reverse.dropWhile isBlank).reverse

-- The four control characters that part files, groups, records and units.
def isSeparator (c : Char) : Bool := 28 ≤ c.toNat && c.toNat ≤ 31

def isTrailing (c : Char) : Bool := isBlank c || isSeparator c

def withoutTrailing : List Char → List Char
  | [] => []
  | c :: cs =>
    match withoutTrailing cs with
    | [] => if isTrailing c then [] else [c]
    | d :: ds => c :: d :: ds

def trimEnd (s : String) : String := String.ofList (withoutTrailing s.toList)

theorem withoutTrailing_prefix (cs : List Char) : withoutTrailing cs <+: cs := by
  induction cs with
  | nil => exact List.prefix_rfl
  | cons c cs ih =>
    rw [withoutTrailing]
    split
    · split
      · exact List.nil_prefix
      · exact ⟨cs, rfl⟩
    · next h => exact List.cons_prefix_cons.mpr ⟨rfl, h ▸ ih⟩

theorem getLast_withoutTrailing {cs : List Char} {c : Char}
    (h : (withoutTrailing cs).getLast? = some c) : isTrailing c = false := by
  induction cs with
  | nil => simp [withoutTrailing] at h
  | cons d ds ih =>
    rw [withoutTrailing] at h
    split at h
    · split at h
      · simp at h
      · next hd =>
        cases h
        simpa using hd
    · next e he =>
      rw [he] at ih
      exact ih (by simpa [List.getLast?_cons_cons] using h)

end DnsSteering.Text
