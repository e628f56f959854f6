/-! The error report a command prints when it fails: `Error: ` and the outermost message, then,
when the error has causes, a blank line, `Caused by:` and the causes, one per line. A single
cause is indented by four blanks; several are numbered from 0, the number right-aligned in
five columns, and the later lines of a cause are indented to its text. -/
namespace TagAtlas

/-- An error and the chain of its causes, outermost first. -/
structure Report where
  message : String
  causes : List String := []
  deriving Repr, Inhabited

namespace Report

/-- A number right-aligned in five columns. -/
def numberColumn (n : Nat) : String :=
  let s := toString n
  String.ofList (List.replicate (5 - s.length) ' ') ++ s

/-- A cause's lines: the first after its label, the later ones after `indent`. -/
def causeText (label indent cause : String) : String :=
  match cause.splitOn "\n" with
  | [] => label
  | first :: rest => label ++ first ++ String.join (rest.map fun l => "\n" ++ indent ++ l)

/-- The text of a report, ending with a line break. -/
def text (r : Report) : String :=
  let causes := match r.causes with
    | [] => ""
    | [single] => "\n\nCaused by:\n" ++ causeText "    " "    " single
    | many => "\n\nCaused by:" ++
        String.join (many.zipIdx.map fun (c, i) => "\n" ++ causeText (numberColumn i ++ ": ") "       " c)
  "Error: " ++ r.message ++ causes ++ "\n"

/-- The lines of a report. -/
def lines (r : Report) : List String := (r.text.splitOn "\n").dropLast

end Report

end TagAtlas
