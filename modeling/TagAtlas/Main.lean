import TagAtlas.Cli.Replay
/-! The replay command line: reads the arguments, reads the dump file named by `--dataset`,
replays the query and prints the answer, or prints the error report and exits with code 1.
System errors are worded as the system words them, with their error number. -/
namespace TagAtlas

/-- The error number of a system error, when it has one. -/
def osCode? : IO.Error → Option UInt32
  | .alreadyExists _ c _ | .otherError c _ | .resourceBusy c _ | .resourceVanished c _
  | .unsupportedOperation c _ | .hardwareFault c _ | .unsatisfiedConstraints c _
  | .illegalOperation c _ | .protocolError c _ | .timeExpired c _ | .interrupted _ c _
  | .noFileOrDirectory _ c _ | .invalidArgument _ c _ | .permissionDenied _ c _
  | .resourceExhausted _ c _ | .inappropriateType _ c _ | .noSuchThing _ c _ => some c
  | _ => none

/-- The wording of the common error numbers. -/
def osMessage? : UInt32 → Option String
  | 2 => some "No such file or directory"
  | 13 => some "Permission denied"
  | 20 => some "Not a directory"
  | 21 => some "Is a directory"
  | 36 => some "File name too long"
  | 40 => some "Too many levels of symbolic links"
  | _ => none

/-- The text of a system error. -/
def osErrorText (e : IO.Error) : String :=
  match osCode? e with
  | some c =>
    match osMessage? c with
    | some m => m ++ " (os error " ++ toString c ++ ")"
    | none => toString e
  | none => toString e

/-- Read the dump file at a path: its text, or the report of why it cannot be read. -/
def readDumpFile (path : String) : IO (Except Report String) := do
  match ← (IO.FS.Handle.mk path .read).toBaseIO with
  | .error e => pure (.error ⟨"failed to open dataset at " ++ path, [osErrorText e]⟩)
  | .ok h =>
    match ← h.readToEnd.toBaseIO with
    | .error e => pure (.error ⟨"failed to parse dataset at " ++ path, [osErrorText e]⟩)
    | .ok text => pure (.ok text)

/-- Run the replay command with its arguments. -/
def replayMain (args : List String) : IO Outcome := do
  match readReplayArgs args none {} with
  | .error r => pure (.failed r)
  | .ok .help => pure .usage
  | .ok (.replay path q) =>
    let text ← readDumpFile path
    pure (.ofReplay (do replayDump path (← text) q))

end TagAtlas

/-- The replay command. -/
def main (args : List String) : IO UInt32 := do
  let o ← TagAtlas.replayMain args
  IO.print o.stdout
  IO.eprint o.stderr
  pure (UInt32.ofNat o.code)
