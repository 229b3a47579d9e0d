import DnsSteering.Text.Loose
import DnsSteering.Text.Printable

namespace DnsSteering.Text

namespace Quoted

-- Double quotes where that saves escaping.
def mark (cs : List Char) : Char :=
  if cs.contains '\x27' && !cs.contains '"' then '"' else '\x27'

-- Hexadecimal escapes are of the shortest of the widths two, four and eight.
def escape (mark c : Char) : List Char :=
  if c = mark || c = '\\' then ['\\', c]
  else if c = '\n' then ['\\', 'n']
  else if c = '\t' then ['\\', 't']
  else if c = '\r' then ['\\', 'r']
  else if isPrintable c then [c]
  else if c.toNat < 0x100 then '\\' :: 'x' :: hexDigits 2 c.toNat
  else if c.toNat < 0x10000 then '\\' :: 'u' :: hexDigits 4 c.toNat
  else '\\' :: 'U' :: hexDigits 8 c.toNat

def escapeLetter (mark : Char) : LooseText.Letter → List Char
  | .inl c => escape mark c
  | .inr half => '\\' :: 'u' :: hexDigits 4 half.point

def encode (ls : List LooseText.Letter) : List Char :=
  let mark := mark (ls.filterMap Sum.getLeft?)
  mark :: ls.flatMap (escapeLetter mark) ++ [mark]

end Quoted

def quoted (t : LooseText) : String := String.ofList (Quoted.encode t.letters)

-- Long texts are cut in messages about numbers.
def quotedStart (t : LooseText) : String := String.ofList ((Quoted.encode t.letters).take 200)

end DnsSteering.Text
