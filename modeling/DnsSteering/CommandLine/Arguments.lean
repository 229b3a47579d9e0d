import DnsSteering.Json.Basic
import DnsSteering.Log
import DnsSteering.Text.Blank
import DnsSteering.Text.Digit
import DnsSteering.Text.Quoted

namespace DnsSteering.CommandLine

inductive Flag where
  | help
  | logLevel
  | outputFormat
  | hostname
  | gateway
  | currentRecords
  | routing
  deriving DecidableEq, Repr

namespace Flag

def spelling : Flag → String
  | .help => "--help"
  | .logLevel => "--log-level"
  | .outputFormat => "--output-format"
  | .hostname => "--hostname"
  | .gateway => "--gateway"
  | .currentRecords => "--current-records"
  | .routing => "--routing"

def all : List Flag :=
  [.help, .logLevel, .outputFormat, .hostname, .gateway, .currentRecords, .routing]

def required : List Flag := [.hostname, .gateway, .routing]

-- How complaints name an option.
def title : Flag → String
  | .help => "-h/--help"
  | f => f.spelling

-- Values that an option admits, where not all are.
def choices : Flag → List String
  | .logLevel => ["critical", "error", "warning", "info", "debug"]
  | .outputFormat => ["json", "zone"]
  | _ => []

end Flag

-- What an argument looks like, before its place is considered. The help option has a short
-- spelling, and `joined` is what directly follows that one.
inductive Word where
  | plain (text : String)
  | separator
  | option (flag : Flag) (value : Option String)
  | shortHelp (equals : Bool) (joined : String)
  | unknown (text : String)
  deriving DecidableEq, Repr

namespace Word

def digitsOnly (cs : List Char) : Bool := !cs.isEmpty && cs.all Text.isDecimal

-- A minus sign and a number; a line break at the end does not count.
def isNegativeNumber (cs : List Char) : Bool :=
  match cs with
  | '-' :: cs =>
    let cs := if cs.getLast? = some '\n' then cs.dropLast else cs
    digitsOnly cs || (cs.dropWhile Text.isDecimal).head? = some '.' &&
      digitsOnly ((cs.dropWhile Text.isDecimal).drop 1)
  | _ => false

-- What stands before the first equals sign, and behind it.
def cutEquals (cs : List Char) : List Char × Option String :=
  let name := cs.takeWhile (· ≠ '=')
  match cs.dropWhile (· ≠ '=') with
  | [] => (name, none)
  | _ :: value => (name, some (String.ofList value))

-- An option is a long name, or as much of it as no other option begins with.
def candidates (name : List Char) : List Flag :=
  Flag.all.filter fun f => name.isPrefixOf f.spelling.toList

-- Something that looks like an option and is none.
def stray (text : String) : Word :=
  if isNegativeNumber text.toList || text.toList.contains ' ' then .plain text else .unknown text

def ambiguous (text : String) (flags : List Flag) : String :=
  s!"ambiguous option: {text} could match " ++ ", ".intercalate (flags.map Flag.spelling)

def ofLong (text : String) : Except String Word :=
  let (name, value) := cutEquals text.toList
  match Flag.all.find? fun f => f.spelling = text with
  | some f => .ok (.option f none)
  | none =>
    match Flag.all.find? fun f => f.spelling.toList = name with
    | some f => .ok (.option f value)
    | none =>
      match candidates name with
      | [] => .ok (stray text)
      | [f] => .ok (.option f value)
      | flags => .error (ambiguous text flags)

def ofText (text : String) : Except String Word :=
  match text.toList with
  | ['-', '-'] => .ok .separator
  | '-' :: '-' :: _ => ofLong text
  | ['-', 'h'] => .ok (.option .help none)
  | '-' :: 'h' :: '=' :: joined => .ok (.shortHelp true (String.ofList joined))
  | '-' :: 'h' :: joined => .ok (.shortHelp false (String.ofList joined))
  | '-' :: _ :: _ => .ok (stray text)
  | _ => .ok (.plain text)

-- Behind a lone separator everything is taken as it is.
def ofTexts : List String → Except String (List Word)
  | [] => .ok []
  | text :: texts =>
    match ofText text with
    | .error message => .error message
    | .ok .separator => .ok (.separator :: texts.map .plain)
    | .ok word => (ofTexts texts).map (word :: ·)

end Word

-- A value is a text, or an empty list where nothing but a separator is joined to the option. A
-- level that is such a list is none.
structure Arguments where
  logLevel : Option Log.Level := some .warning
  zone : Bool := false
  hostname : Option Json := none
  gateway : Option Json := none
  currentRecords : Json := .str "[]"
  routing : Option Json := none
  extra : List String := []
  deriving DecidableEq, Repr

inductive Refusal where
  | help
  | message (text : String)
  deriving DecidableEq, Repr

namespace Arguments

def complain {α : Type} (f : Flag) (message : String) : Except Refusal α :=
  .error (.message s!"argument {f.title}: {message}")

def levelOf (name : LooseText) : Log.Level :=
  if name = "critical" then .critical
  else if name = "error" then .error
  else if name = "info" then .info
  else if name = "debug" then .debug
  else .warning

def level? : Json → Option Log.Level
  | .str name => some (levelOf name)
  | _ => none

def store (a : Arguments) (value : Json) : Flag → Arguments
  | .help => a
  | .logLevel => { a with logLevel := level? value }
  | .outputFormat => { a with zone := value = .str "zone" }
  | .hostname => { a with hostname := some value }
  | .gateway => { a with gateway := some value }
  | .currentRecords => { a with currentRecords := value }
  | .routing => { a with routing := some value }

def take (a : Arguments) (f : Flag) (value : String) : Except Refusal Arguments :=
  if f.choices.isEmpty || f.choices.contains value then .ok (a.store (.str value) f)
  else
    let choices := ", ".intercalate (f.choices.map fun (choice : String) => Text.quoted choice)
    complain f s!"invalid choice: {Text.quoted value} (choose from {choices})"

-- A separator is taken away from the values of an option before they are checked.
def takeJoined (a : Arguments) (f : Flag) (value : String) : Except Refusal Arguments :=
  if value = "--" then .ok (a.store (.arr []) f) else a.take f value

def ignored (value : String) : Except Refusal Arguments :=
  complain .help s!"ignored explicit argument {Text.quoted value}"

-- What is joined to the short help option: more of the same, or a value, which it takes none.
def joinedHelp : List Char → Except Refusal Arguments
  | [] => .error .help
  | c :: cs => if c = 'h' then joinedHelp cs else ignored (String.ofList (c :: cs))

def readWords (a : Arguments) : List Word → Except Refusal Arguments
  | [] => .ok a
  | .plain text :: ws => readWords { a with extra := a.extra ++ [text] } ws
  | .separator :: ws => readWords { a with extra := a.extra ++ ["--"] } ws
  | .unknown text :: ws => readWords { a with extra := a.extra ++ [text] } ws
  | .shortHelp equals joined :: _ =>
    if equals && joined.isEmpty then ignored "" else joinedHelp joined.toList
  | .option .help none :: _ => .error .help
  | .option .help (some value) :: _ => ignored value
  | .option f (some value) :: ws =>
    match a.takeJoined f value with
    | .error r => .error r
    | .ok a => readWords a ws
  | .option f none :: .plain value :: ws =>
    match a.take f value with
    | .error r => .error r
    | .ok a => readWords a ws
  | .option f none :: _ => complain f "expected one argument"

def isGiven (a : Arguments) : Flag → Bool
  | .hostname => a.hostname.isSome
  | .gateway => a.gateway.isSome
  | .routing => a.routing.isSome
  | _ => true

-- What stands beside the options, without the blanks at its end.
def stray (a : Arguments) : Refusal :=
  .message (Text.trimEnd ("unrecognized arguments: " ++ " ".intercalate a.extra))

def check (a : Arguments) : Except Refusal Arguments :=
  match Flag.required.filter fun f => !a.isGiven f with
  | [] =>
    if a.extra.isEmpty then .ok a
    else .error a.stray
  | missing =>
    .error (.message
      ("the following arguments are required: " ++ ", ".intercalate (missing.map Flag.spelling)))

-- Of repeated options the last one counts.
def read (argv : List String) : Except Refusal Arguments :=
  match Word.ofTexts argv with
  | .error message => .error (.message message)
  | .ok words =>
    match readWords {} words with
    | .error r => .error r
    | .ok a => check a

end Arguments
end DnsSteering.CommandLine
