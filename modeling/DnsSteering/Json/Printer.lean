import DnsSteering.Json.Basic
import DnsSteering.Number.Shortest
import DnsSteering.Text.Quoted

namespace DnsSteering.Json

def unitEscape (unit : Nat) : List Char := '\\' :: 'u' :: Text.hexDigits 4 unit

def highUnit (n : Nat) : Nat := 0xD800 + (n - 0x10000) / 0x400

def lowUnit (n : Nat) : Nat := 0xDC00 + (n - 0x10000) % 0x400

-- Only printable ASCII is written; any other character is escaped as one or two units of UTF-16.
def escape (c : Char) : List Char :=
  if c = '"' then ['\\', '"']
  else if c = '\\' then ['\\', '\\']
  else if c = '\n' then ['\\', 'n']
  else if c = '\r' then ['\\', 'r']
  else if c = '\t' then ['\\', 't']
  else if c = '\x0c' then ['\\', 'f']
  else if c = '\x08' then ['\\', 'b']
  else if 32 ≤ c.toNat && c.toNat < 127 then [c]
  else if c.toNat < 0x10000 then unitEscape c.toNat
  else unitEscape (highUnit c.toNat) ++ unitEscape (lowUnit c.toNat)

def escapeLetter : LooseText.Letter → List Char
  | .inl c => escape c
  | .inr half => unitEscape half.point

def printString (t : LooseText) : List Char := '"' :: t.letters.flatMap escapeLetter ++ ['"']

def printFloat : Binary64 → String
  | .nan => "NaN"
  | .infinite negative => if negative then "-Infinity" else "Infinity"
  | x => x.text

def newLine (depth : Nat) : List Char := '\n' :: List.replicate (2 * depth) ' '

-- One item or field a line, two blanks deeper at each level.
mutual
def print (depth : Nat) : Json → List Char
  | .null => ['n', 'u', 'l', 'l']
  | .bool b => if b then ['t', 'r', 'u', 'e'] else ['f', 'a', 'l', 's', 'e']
  | .int n => (toString n).toList
  | .float x => (printFloat x).toList
  | .str t => printString t
  | .arr [] => ['[', ']']
  | .arr (item :: items) =>
    '[' :: newLine (depth + 1) ++ print (depth + 1) item ++ printItems (depth + 1) items ++
      newLine depth ++ [']']
  | .obj [] => ['\x7b', '\x7d']
  | .obj ((key, value) :: fields) =>
    '\x7b' :: newLine (depth + 1) ++ printString key ++ ':' :: ' ' :: print (depth + 1) value ++
      printFields (depth + 1) fields ++ newLine depth ++ ['\x7d']
-- Each further item follows a comma.
def printItems (depth : Nat) : List Json → List Char
  | [] => []
  | item :: items => ',' :: newLine depth ++ print depth item ++ printItems depth items
def printFields (depth : Nat) : List (LooseText × Json) → List Char
  | [] => []
  | (key, value) :: fields =>
    ',' :: newLine depth ++ printString key ++ ':' :: ' ' :: print depth value ++
      printFields depth fields
end

def text (v : Json) : String := String.ofList (print 0 v)

end DnsSteering.Json
