import DnsSteering.CommandLine.Arguments
import DnsSteering.Config
import DnsSteering.Synthesis
import DnsSteering.Zone.Line

namespace DnsSteering.CommandLine

inductive Ending where
  | printed (text : LooseText)
  | rejected (refusal : Refusal)
  | broken (fault : Fault)
  deriving DecidableEq, Repr

structure Run where
  ending : Ending
  log : List Log.Line
  deriving DecidableEq, Repr

namespace Run

def source (a : Arguments) : Config.Source :=
  ⟨a.hostname, a.gateway, a.routing, some a.currentRecords⟩

def errorLine (message : String) : Log.Line := ⟨.error, .run, message⟩

def linesText : List LooseText → LooseText
  | [] => ""
  | l :: ls => l ++ "\n" ++ linesText ls

def printJson (rs : List Record) : Ending :=
  .printed (.plain (Json.text (.arr (rs.map Record.toJson)) ++ "\n"))

def printZone (hostname : String) (rs : List Record) : Ending × List Log.Line :=
  match Zone.lines rs with
  | .ok ls => (.printed (linesText ls), [])
  | .error f =>
    if f.isSyntactic then
      (.printed "", [errorLine s!"Failed to render zone lines for {hostname}: {f.message}"])
    else (.broken f, [])

def print (zone : Bool) (hostname : String) (rs : List Record) : Ending × List Log.Line :=
  if zone then printZone hostname rs else (printJson rs, [])

-- Publishes an accepted input and prints what is published.
def ofConfig (zone : Bool) (c : Config) : Run :=
  let ids := List.range c.current.length
  let outcome := Synthesis.publish c.gateway (.str c.hostname) c.policy c.current (some ids)
  match outcome.published with
  | .error f =>
    if f.isRefusal then
      let line := errorLine s!"Failed to generate endpoints for {c.hostname}: {f.message}"
      ⟨.printed "", outcome.log ++ [line]⟩
    else ⟨.broken f, outcome.log⟩
  | .ok published =>
    let rs := published.filterMap fun id => outcome.records[id]?
    let done : Log.Line :=
      ⟨.info, .run, s!"Generated {rs.length} records for {c.hostname}"⟩
    let (ending, log) := print zone c.hostname rs
    ⟨ending, outcome.log ++ done :: log⟩

def ofArguments (a : Arguments) : Run :=
  match a.logLevel with
  | none => ⟨.broken .noMember, []⟩
  | some level =>
    let reading := Config.read (source a)
    match reading.ending with
    | .broken f => ⟨.broken f, Log.visible level reading.log⟩
    | .refused => ⟨.printed "", Log.visible level reading.log⟩
    | .accepted c =>
      let run := ofConfig a.zone c
      ⟨run.ending, Log.visible level (reading.log ++ run.log)⟩

end Run

-- What is refused is logged, and then nothing is printed.
def run (argv : List String) : Run :=
  match Arguments.read argv with
  | .error r => ⟨.rejected r, []⟩
  | .ok a => Run.ofArguments a

def logText (log : List Log.Line) : String := String.join (log.map fun l => l.text ++ "\n")

end DnsSteering.CommandLine
