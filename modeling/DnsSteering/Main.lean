import DnsSteering.CommandLine.Run

open DnsSteering

def main (argv : List String) : IO UInt32 := do
  let run := CommandLine.run argv
  IO.eprint (CommandLine.logText run.log)
  match run.ending with
  | .printed text =>
    match text.utf8 with
    | .ok bytes =>
      (← IO.getStdout).write ⟨bytes.toArray⟩
      return 0
    | .error fault =>
      IO.eprintln fault.message
      return 1
  | .rejected .help => return 0
  | .rejected (.message text) =>
    IO.eprintln ("error: " ++ text)
    return 2
  | .broken fault =>
    IO.eprintln fault.message
    return 1
