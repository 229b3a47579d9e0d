import DnsSteering.Fault

namespace DnsSteering.Zone

inductive Token where
  | finish
  | identifier (value : List Char)
  | quoted (value : List Char)
  deriving DecidableEq, Repr

namespace Token

-- Outside of quotes a carriage return breaks the line as well.
def isBreak (c : Char) : Bool := c = '\n' || c = '\r'

def isDelimiter (c : Char) : Bool :=
  isBreak c || c = ' ' || c = '\t' || c = ';' || c = '(' || c = ')' || c = '"'

-- The rest of an identifier, up to a delimiter.
def readIdentifier : List Char → Except ZoneFault (List Char × List Char)
  | [] => .ok ([], [])
  | ['\\'] => .error .textEnded
  | '\\' :: c :: cs =>
    if isBreak c then .error .textEnded
    else (readIdentifier cs).map fun r => ('\\' :: c :: r.1, r.2)
  | c :: cs =>
    if isDelimiter c then .ok ([], c :: cs) else (readIdentifier cs).map fun r => (c :: r.1, r.2)

-- What follows an opening quote, up to the closing one. A carriage return is kept.
def readQuoted : List Char → Except ZoneFault (List Char × List Char)
  | [] => .error .textEnded
  | ['\\'] => .error .textEnded
  | '\\' :: c :: cs => (readQuoted cs).map fun r => ('\\' :: c :: r.1, r.2)
  | c :: cs =>
    if c = '"' then .ok ([], cs)
    else if c = '\n' then .error .lineInQuotes
    else (readQuoted cs).map fun r => (c :: r.1, r.2)

-- A token with the number of parentheses open behind it, and the text behind it.
structure Found where
  token : Token
  depth : Nat
  rest : List Char
  deriving DecidableEq, Repr

-- Blanks part tokens, a semicolon starts a comment, and a line break ends the entry unless a parenthesis is
-- open. A backslash keeps the next character in the token, and itself.
-- The next token, inside a comment or not.
def next (comment : Bool) (depth : Nat) : List Char → Except ZoneFault Found
  | [] => if depth = 0 then .ok ⟨.finish, 0, []⟩ else .error .unbalanced
  | c :: cs =>
    if isBreak c then if depth = 0 then .ok ⟨.finish, 0, cs⟩ else next false depth cs
    else if comment then next true depth cs
    else if c = ' ' || c = '\t' then next false depth cs
    else if c = ';' then next true depth cs
    else if c = '(' then next false (depth + 1) cs
    else if c = ')' then if depth = 0 then .error .malformed else next false (depth - 1) cs
    else if c = '"' then (readQuoted cs).map fun r => ⟨.quoted r.1, depth, r.2⟩
    else (readIdentifier (c :: cs)).map fun r => ⟨.identifier r.1, depth, r.2⟩

-- Nothing may stand between the data and the end of the entry.
def expectEnd (depth : Nat) (cs : List Char) : Except ZoneFault Unit :=
  match next false depth cs with
  | .error f => .error f
  | .ok found =>
    match found.token with
    | .finish => .ok ()
    | .identifier value => .error (.leftOver 3 (String.ofList value))
    | .quoted value => .error (.leftOver 4 (String.ofList value))

end Token
end DnsSteering.Zone
