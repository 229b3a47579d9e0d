import DnsSteering.Text.Blank
import DnsSteering.Text.Digit

namespace DnsSteering.Text

namespace Numeral

-- `value` is what has been read; the character before was a digit.
def readMore (value : Nat) : List Char → Option Nat
  | [] => some value
  | '_' :: c :: cs =>
    match decimalValue? c with
    | some d => readMore (10 * value + d) cs
    | none => none
  | c :: cs =>
    match decimalValue? c with
    | some d => readMore (10 * value + d) cs
    | none => none

def readDigits : List Char → Option Nat
  | [] => none
  | c :: cs =>
    match decimalValue? c with
    | some d => readMore d cs
    | none => none

def readSigned : List Char → Option Int
  | '-' :: cs => (readDigits cs).map fun n => -(n : Int)
  | '+' :: cs => (readDigits cs).map fun n => (n : Int)
  | cs => (readDigits cs).map fun n => (n : Int)

end Numeral

-- Blanks around, an optional sign, decimal digits of any script and single underscores between them. There
-- may be any number of digits.
def integer? (s : String) : Option Int := Numeral.readSigned (trimBlanks s.toList)

end DnsSteering.Text
