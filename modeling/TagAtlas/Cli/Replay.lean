import TagAtlas.Cli.Report
import TagAtlas.Corpus.Dump
import TagAtlas.Query.Params
import TagAtlas.Service.Query
import TagAtlas.Store.Memory
/-! The replay command: run one tag map query over a corpus dump file, without a database,
and print the answer as indented JSON.

Arguments are read in order. `--dataset` takes the path of the dump; `--view`, `--namespace`,
`--status`, `--custom` and `--consolidation` take the query's parameters, as a query string
would give them, and the consolidation must read as a number. `--help` prints the usage to
the error stream and ends the run at once, successfully, if no argument before it failed.
Any other argument fails. A failed run prints an error report and exits with code 1.

The command runs in a working directory that holds the one file the run may read: a path is
followed component by component from there, `.` staying and `..` going up, and a path that
ends at a directory opens but cannot be read. -/
namespace TagAtlas

/-- The usage line. -/
def replayUsage : String :=
  "Usage: replay_tagmap --dataset <path> [--view tagsets|single|overlap|custom] " ++
  "[--consolidation 0.1] [--namespace osu] [--status ranked|unranked|all] [--custom \"<tokens>\"]"

/-- What the arguments ask for: the usage, or a replay of a dump with query parameters. -/
inductive ReplayCommand
  | help
  | replay (dataset : String) (query : RawQuery)
  deriving Inhabited

/-- The options that take a value. -/
inductive ReplayFlag
  | dataset
  | view
  | consolidation
  | namespace_
  | status
  | custom
  deriving DecidableEq, Repr

namespace ReplayFlag

/-- The option an argument names. -/
def ofArg? : String → Option ReplayFlag
  | "--dataset" => some .dataset
  | "--view" => some .view
  | "--consolidation" => some .consolidation
  | "--namespace" => some .namespace_
  | "--status" => some .status
  | "--custom" => some .custom
  | _ => none

/-- The message of an option given without its value. -/
def missing : ReplayFlag → String
  | .dataset => "--dataset requires a path argument"
  | .view => "--view requires a value"
  | .consolidation => "--consolidation requires a value between 0 and 1"
  | .namespace_ => "--namespace requires a value"
  | .status => "--status requires ranked, unranked or all"
  | .custom => "--custom requires tokens"

/-- Keep the value of an option with the dump path and query read so far. -/
def apply (flag : ReplayFlag) (v : String) (path : Option String) (q : RawQuery) :
    Except Report (Option String × RawQuery) :=
  match flag with
  | .dataset => .ok (some v, q)
  | .view => .ok (path, { q with view := some v })
  | .consolidation =>
    match Numeral.readReal v with
    | .error e => .error ⟨"--consolidation must be a number", [e.message]⟩
    | .ok _ => .ok (path, { q with consolidation := some v })
  | .namespace_ => .ok (path, { q with namespace_ := some v })
  | .status => .ok (path, { q with statusFilter := some v })
  | .custom => .ok (path, { q with customTagset := some v })

end ReplayFlag

/-- Read the arguments, given the dump path and query read so far. -/
def readReplayArgs : List String → Option String → RawQuery → Except Report ReplayCommand
  | [], none, _ => .error ⟨"--dataset is required", []⟩
  | [], some path, q => .ok (.replay path q)
  | arg :: rest, path, q =>
    if arg == "--help" then .ok .help
    else
      match ReplayFlag.ofArg? arg with
      | none => .error ⟨"unknown argument: " ++ arg, []⟩
      | some flag =>
        match rest with
        | [] => .error ⟨flag.missing, []⟩
        | v :: more =>
          match flag.apply v path q with
          | .error r => .error r
          | .ok (path, q) => readReplayArgs more path q

/-- The working directory of a run: the path of its file, and the file's text when there is
one. -/
structure Workspace where
  file : String := "dataset.json"
  contents : Option String := none
  deriving Inhabited

/-- Why a path cannot be opened. -/
inductive OpenError
  | notFound
  | notDirectory
  | nameTooLong
  deriving DecidableEq, Repr

/-- The text of an open error. -/
def OpenError.message : OpenError → String
  | .notFound => "No such file or directory (os error 2)"
  | .notDirectory => "Not a directory (os error 20)"
  | .nameTooLong => "File name too long (os error 36)"

/-- A place reached while following a path: a directory outside the working directory, a
directory on the way to the file (by depth), or the file. -/
inductive Place
  | outside
  | inside (depth : Nat)
  | file
  deriving DecidableEq, Repr

namespace Workspace

/-- The directories leading to the file, then the file's name; none without a file. -/
def parts (w : Workspace) : List String :=
  if w.contents.isSome then (w.file.splitOn "/").filter (!·.isEmpty) else []

/-- Take one step of a path from a place. -/
def step (w : Workspace) (at_ : Place) (name : String) : Except OpenError Place :=
  if name.utf8ByteSize > 255 then .error .nameTooLong
  else
    match at_ with
    | .file => .error .notDirectory
    | .outside => if name == "." || name == ".." then .ok .outside else .error .notFound
    | .inside depth =>
      if name == "." then .ok (.inside depth)
      else if name == ".." then .ok (if depth = 0 then .outside else .inside (depth - 1))
      else
        let ps := w.parts
        if ps[depth]? != some name then .error .notFound
        else if depth + 1 = ps.length then .ok .file
        else .ok (.inside (depth + 1))

/-- Follow a path from the working directory (or from the root when it starts with `/`). -/
def locate (w : Workspace) (path : String) : Except OpenError Place := do
  if path.isEmpty then throw .notFound
  let start : Place := if path.startsWith "/" then .outside else .inside 0
  let reached ← ((path.splitOn "/").filter (!·.isEmpty)).foldlM w.step start
  if path.endsWith "/" && reached == .file then throw .notDirectory
  pure reached

end Workspace

/-- How a command run ends: exit code and the text of its two streams. -/
structure Outcome where
  code : Nat
  stdout : String := ""
  stderr : String := ""
  deriving Inhabited

/-- A failed run. -/
def Outcome.failed (r : Report) : Outcome := { code := 1, stderr := r.text }

/-- The text of the file at a path, or the report of why it cannot be read. -/
def dumpText (w : Workspace) (path : String) : Except Report String :=
  match w.locate path with
  | .error e => .error ⟨"failed to open dataset at " ++ path, [e.message]⟩
  | .ok .file => .ok (w.contents.getD "")
  | .ok _ => .error ⟨"failed to parse dataset at " ++ path, ["Is a directory (os error 21)"]⟩

/-- Replay a query over the text of the dump read from a path. -/
def replayDump (path text : String) (q : RawQuery) : Except Report (List Sector) := do
  let d ← match Dataset.readDump text with
    | .ok d => pure d
    | .error e => throw ⟨"failed to parse dataset at " ++ path, [e.text]⟩
  let params := Params.ofQuery q defaultConsolidation
  match (({} : ServiceState).query ⟨MemoryStore.ofDataset d, {}⟩ none params).1 with
  | .finished (.ok sectors) => pure sectors
  | .finished (.error e) => throw ⟨"tag map replay query failed", [e.text]⟩
  | .dropped => pure []

/-- The outcome of a replay: the answer printed as indented JSON, or the report. -/
def Outcome.ofReplay : Except Report (List Sector) → Outcome
  | .error r => .failed r
  | .ok sectors => { code := 0, stdout := (sectorsJson sectors).prettyText ++ "\n" }

/-- The outcome of asking for the usage. -/
def Outcome.usage : Outcome := { code := 0, stderr := replayUsage ++ "\n" }

/-- Run the replay command with arguments in a working directory. -/
def runReplay (w : Workspace) (args : List String) : Outcome :=
  match readReplayArgs args none {} with
  | .error r => .failed r
  | .ok .help => .usage
  | .ok (.replay path q) => .ofReplay (do replayDump path (← dumpText w path) q)

end TagAtlas
