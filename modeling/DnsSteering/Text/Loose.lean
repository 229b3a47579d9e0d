import DnsSteering.Text.Hex

namespace DnsSteering

-- Half of a pair of UTF-16, counted from the first half there is.
abbrev Surrogate := Fin 0x800

def Surrogate.point (half : Surrogate) : Nat := 0xD800 + half.val

-- A text as documents hold it. Nearly all are plain. A torn one has halves of pairs that stand alone, each
-- between the characters in front of it and the rest; such a text has no form in UTF-8.
inductive LooseText where
  | plain (s : String)
  | torn (front : String) (half : Surrogate) (rest : LooseText)
  deriving DecidableEq, Repr

namespace LooseText

instance : Coe String LooseText := ⟨plain⟩

abbrev Letter := Char ⊕ Surrogate

def letters : LooseText → List Letter
  | plain s => s.toList.map .inl
  | torn front half rest => front.toList.map .inl ++ .inr half :: rest.letters

-- `run` are the characters since the last half, the latest first.
def gather (run : List Char) : List Letter → LooseText
  | [] => plain (String.ofList run.reverse)
  | .inl c :: ls => gather (c :: run) ls
  | .inr half :: ls => torn (String.ofList run.reverse) half (gather [] ls)

def ofLetters (ls : List Letter) : LooseText := gather [] ls

def append : LooseText → LooseText → LooseText
  | plain s, plain t => plain (s ++ t)
  | plain s, torn front half rest => torn (s ++ front) half rest
  | torn front half rest, t => torn front half (append rest t)

instance : Append LooseText := ⟨append⟩

def intercalate (separator : LooseText) : List LooseText → LooseText
  | [] => plain ""
  | [t] => t
  | t :: ts => t ++ separator ++ intercalate separator ts

def mapRuns (f : String → String) : LooseText → LooseText
  | plain s => plain (f s)
  | torn front half rest => torn (f front) half (mapRuns f rest)

def point : Letter → Nat
  | .inl c => c.toNat
  | .inr half => half.point

def points (t : LooseText) : List Nat := t.letters.map point

-- Texts are in order by the numbers of their characters and halves.
instance : LT LooseText := ⟨fun t u => t.points < u.points⟩

instance (t u : LooseText) : Decidable (t < u) := inferInstanceAs (Decidable (t.points < u.points))

-- The same text with a replacement character for each half. Where only some characters are let through,
-- as in names and addresses, neither is.
def mended : LooseText → String
  | plain s => s
  | torn front _ rest => front ++ "\uFFFD" ++ rest.mended

-- As messages show it.
def shown : LooseText → String
  | plain s => s
  | torn front half rest =>
    front ++ "\\u" ++ String.ofList (Text.hexDigits 4 half.point) ++ rest.shown

def plain? : LooseText → Option String
  | plain s => some s
  | torn _ _ _ => none

@[simp] theorem letters_plain (s : String) : (plain s).letters = s.toList.map .inl := rfl

@[simp] theorem plain_beq (s t : String) : (plain s == plain t) = (s == t) := by
  rw [Bool.eq_iff_iff]
  simp

@[simp] theorem plain_append (s t : String) : plain s ++ plain t = plain (s ++ t) := rfl

@[simp] theorem mapRuns_plain (f : String → String) (s : String) :
    (plain s).mapRuns f = plain (f s) := rfl

@[simp] theorem mended_plain (s : String) : (plain s).mended = s := rfl

@[simp] theorem mended_append (t u : LooseText) : (t ++ u).mended = t.mended ++ u.mended := by
  induction t with
  | plain s =>
    show (append (plain s) u).mended = _
    cases u <;> simp [append, mended, String.append_assoc]
  | torn front half rest ih =>
    show (append (torn front half rest) u).mended = _
    rw [append, mended, mended, String.append_assoc, String.append_assoc, String.append_assoc, ← ih]
    rfl

theorem mended_eq_empty (t : LooseText) : t.mended = "" ↔ t = plain "" := by
  cases t <;> simp [mended]

@[simp] theorem shown_plain (s : String) : (plain s).shown = s := rfl

@[simp] theorem plain?_plain (s : String) : (plain s).plain? = some s := rfl

@[simp] theorem letters_append (t u : LooseText) : (t ++ u).letters = t.letters ++ u.letters := by
  induction t with
  | plain s =>
    show (append (plain s) u).letters = _
    cases u <;> simp [append, letters]
  | torn front half rest ih =>
    show (append (torn front half rest) u).letters = _
    rw [append, letters, letters, List.append_assoc, List.cons_append, ← ih]
    rfl

end LooseText
end DnsSteering
