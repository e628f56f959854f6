/-! Regular expressions as log directives write field values, and whether one matches a text.

The syntax: literals; `.` (any character but a line feed); classes in brackets, negated by a
leading `^`, of characters, ranges and the escapes `\d`, `\w`, `\s` (ASCII digits, word
characters and blanks) and their capitals for the complements; groups in parentheses, plain or
`(?:`; alternation with `|`; the repetitions `*`, `+`, `?`, `{n}`, `{n,}` and `{n,m}`, greedy,
or lazy when followed by `?`; the anchors `^` and `$`; and a backslash before punctuation, `n`,
`t`, `r`, `f`, `v`, `a` or a class letter. A repetition needs something before it, and
brackets and parentheses must close.

A pattern is matched as a scanner reads a stream: it may begin at any position, earlier
positions first, and the text must end in the state the scan reaches. Candidate matches are
ranked, earlier starts before later ones, the left branch of an alternation before the right,
and another round of a greedy repetition before leaving it (the other way for a lazy one). Once
a candidate completes, every candidate ranked below it is abandoned, and the text matches when,
at its end, some candidate has just completed. So `ngle` matches `single`, but `sing` does not,
and neither does `a|ab` match `ab`, since `a` completes first. The expression is compiled to a
program of character tests, splits and jumps, run on all ranked candidates at once, so matching
needs no backtracking and ends on every input. -/
namespace TagAtlas.Text

/-- A set of characters a class or escape stands for. -/
inductive CharSet
  | one (c : Char)
  | range (lo hi : Char)
  | anyButNewline
  | digit
  | word
  | space
  | union (a b : CharSet)
  | complement (s : CharSet)
  | nothing
  deriving Repr, Inhabited

/-- Whether a set holds a character. -/
def CharSet.contains : CharSet → Char → Bool
  | .one c, x => x == c
  | .range lo hi, x => lo ≤ x && x ≤ hi
  | .anyButNewline, x => x != '\n'
  | .digit, x => x.isDigit
  | .word, x => x.isAlphanum || x == '_'
  | .space, x => x == ' ' || x == '\t' || x == '\n' || x == '\r' || x == '\x0c' || x == '\x0b'
  | .union a b, x => a.contains x || b.contains x
  | .complement s, x => !s.contains x
  | .nothing, _ => false

/-- A regular expression. A repetition is a star, greedy or lazy; counted ones are spelled out
with stars and optional copies. -/
inductive Regex
  | empty
  | chars (s : CharSet)
  | seq (a b : Regex)
  | alt (a b : Regex)
  | star (r : Regex) (greedy : Bool)
  | textStart
  | textEnd
  deriving Repr, Inhabited

namespace Regex

/-- An expression followed by another. -/
def seqOf : List Regex → Regex
  | [] => .empty
  | [r] => r
  | r :: rest => .seq r (seqOf rest)

/-- The expression of a list of alternatives. -/
def altOf : List Regex → Regex
  | [] => .empty
  | [r] => r
  | r :: rest => .alt r (altOf rest)

/-- Up to `n` more copies of an expression, each optional. -/
def optionalCopies (r : Regex) (greedy : Bool) : Nat → Regex
  | 0 => .empty
  | n + 1 =>
    let more := Regex.seq r (optionalCopies r greedy n)
    if greedy then .alt more .empty else .alt .empty more

/-- An expression repeated from `lo` to `hi` times (without bound when `hi` is none). -/
def repetition (r : Regex) (lo : Nat) (hi : Option Nat) (greedy : Bool) : Regex :=
  let rest := match hi with
    | some h => optionalCopies r greedy (h - lo)
    | none => .star r greedy
  .seq (seqOf (List.replicate lo r)) rest

/-- One step of a compiled expression. -/
inductive Step
  | chars (s : CharSet) (next : Nat)
  | split (first second : Nat)
  | jump (next : Nat)
  | atStart (next : Nat)
  | atEnd (next : Nat)
  | done
  deriving Repr, Inhabited

/-- How many steps an expression compiles to. -/
def size : Regex → Nat
  | .empty => 1
  | .chars _ => 1
  | .seq a b => a.size + b.size
  | .alt a b => 1 + a.size + b.size
  | .star r _ => 1 + r.size
  | .textStart => 1
  | .textEnd => 1

/-- The steps of an expression placed from `here` on, going on to `next` after a match. -/
def emit (here next : Nat) : Regex → List Step
  | .empty => [.jump next]
  | .chars s => [.chars s next]
  | .seq a b => emit here (here + a.size) a ++ emit (here + a.size) next b
  | .alt a b =>
    .split (here + 1) (here + 1 + a.size) :: (emit (here + 1) next a ++ emit (here + 1 + a.size) next b)
  | .star r greedy =>
    (if greedy then .split (here + 1) next else .split next (here + 1)) :: emit (here + 1) here r
  | .textStart => [.atStart next]
  | .textEnd => [.atEnd next]

/-- The program of an expression: a lazy loop over any character lets the match begin anywhere,
then the expression, then the end of a match. -/
def program (r : Regex) : Array Step :=
  (([.split 2 1, .chars (.complement .nothing) 0] ++ emit 2 (2 + r.size) r ++ [.done]) : List Step).toArray

/-- Whether a step ends a match. -/
def Step.isDone : Step → Bool
  | .done => true
  | _ => false

/-- Add the candidates reachable from step `pc` without reading, in rank order, to those already
`seen`; `pos` is the position in a text of length `len`. -/
def reach (prog : Array Step) (pos len : Nat) : Nat → Nat → List Nat × List Nat → List Nat × List Nat
  | 0, _, acc => acc
  | fuel + 1, pc, (seen, out) =>
    if seen.contains pc then (seen, out)
    else
      let seen := pc :: seen
      match prog[pc]? with
      | some (.chars _ _) | some .done => (seen, out ++ [pc])
      | some (.jump n) => reach prog pos len fuel n (seen, out)
      | some (.split a b) => reach prog pos len fuel b (reach prog pos len fuel a (seen, out))
      | some (.atStart n) => if pos == 0 then reach prog pos len fuel n (seen, out) else (seen, out)
      | some (.atEnd n) => if pos == len then reach prog pos len fuel n (seen, out) else (seen, out)
      | none => (seen, out)

/-- Read one character at position `pos`: the candidates ranked above the first completed one
that accept it move on. -/
def advance (prog : Array Step) (pos len : Nat) (c : Char) (cands : List Nat) : List Nat :=
  let live := cands.takeWhile fun pc => !(prog[pc]?.map Step.isDone).getD false
  (live.foldl (fun acc pc =>
    match prog[pc]? with
    | some (.chars s n) => if s.contains c then reach prog (pos + 1) len (prog.size + 1) n acc else acc
    | _ => acc) ([], [])).2

/-- Whether an expression matches a text. -/
def accepts (r : Regex) (text : String) : Bool :=
  let prog := r.program
  let cs := text.toList
  let start := (reach prog 0 cs.length (prog.size + 1) 0 ([], [])).2
  let final := (cs.foldl (fun (pos, cands) c => (pos + 1, advance prog pos cs.length c cands))
    (0, start)).2
  final.any fun pc => (prog[pc]?.map Step.isDone).getD false

/-- A group in the middle of reading: the alternatives closed so far and the items of the
current one, both in order. -/
structure Frame where
  branches : List Regex := []
  items : List Regex := []
  deriving Inhabited

/-- The expression a frame stands for. -/
def Frame.close (f : Frame) : Regex := altOf (f.branches ++ [seqOf f.items])

/-- A frame with one more item. -/
def Frame.push (f : Frame) (r : Regex) : Frame := { f with items := f.items ++ [r] }

/-- A frame whose last item is repeated; none when there is no item. -/
def Frame.quantify (f : Frame) (lo : Nat) (hi : Option Nat) (greedy : Bool) : Option Frame :=
  match f.items.getLast? with
  | some last => some { f with items := f.items.dropLast ++ [repetition last lo hi greedy] }
  | none => none

/-- The character set of an escape letter or mark, none when it is not an escape. -/
def escapeSet (c : Char) : Option CharSet :=
  match c with
  | 'd' => some .digit
  | 'D' => some (.complement .digit)
  | 'w' => some .word
  | 'W' => some (.complement .word)
  | 's' => some .space
  | 'S' => some (.complement .space)
  | 'n' => some (.one '\n')
  | 't' => some (.one '\t')
  | 'r' => some (.one '\r')
  | 'f' => some (.one '\x0c')
  | 'v' => some (.one '\x0b')
  | 'a' => some (.one '\x07')
  | _ => if c.toNat < 0x80 && !c.isAlphanum && c != ' ' && c.toNat > 0x20 then some (.one c)
    else none

/-- The digits at the front of a list and their value. -/
def number (cs : List Char) : Option (Nat × List Char) :=
  let ds := cs.takeWhile Char.isDigit
  if ds.isEmpty then none
  else some (ds.foldl (fun n c => 10 * n + (c.toNat - '0'.toNat)) 0, cs.drop ds.length)

/-- Read the bounds of a counted repetition after its `{`, up to and including `}`. -/
def counted (cs : List Char) : Option (Nat × Option Nat × List Char) := do
  let (lo, rest) ← number cs
  match rest with
  | '}' :: rest => some (lo, some lo, rest)
  | ',' :: '}' :: rest => some (lo, none, rest)
  | ',' :: rest =>
    let (hi, rest) ← number rest
    match rest with
    | '}' :: rest => if lo ≤ hi then some (lo, some hi, rest) else none
    | _ => none
  | _ => none

/-- One member of a class, with a following range when there is one. -/
def classItem (cs : List Char) : Option (CharSet × List Char) :=
  let single : Option (Sum CharSet Char × List Char) := match cs with
    | '\\' :: c :: rest =>
      match escapeSet c with
      | some (.one x) => some (.inr x, rest)
      | some s => some (.inl s, rest)
      | none => none
    | c :: rest => some (.inr c, rest)
    | [] => none
  match single with
  | some (.inr lo, '-' :: rest) =>
    match rest with
    | ']' :: _ => some (.one lo, '-' :: rest)
    | '\\' :: c :: after =>
      match escapeSet c with
      | some (.one hi) => if lo ≤ hi then some (.range lo hi, after) else none
      | _ => none
    | hi :: after => if lo ≤ hi then some (.range lo hi, after) else none
    | [] => none
  | some (.inr c, rest) => some (.one c, rest)
  | some (.inl s, rest) => some (s, rest)
  | none => none

/-- Read the members of a class up to its `]`, with at most `fuel` members. -/
def classItems : Nat → CharSet → List Char → Option (CharSet × List Char)
  | 0, _, _ => none
  | _ + 1, acc, ']' :: rest => some (acc, rest)
  | fuel + 1, acc, cs => do
    let (s, rest) ← classItem cs
    classItems fuel (.union acc s) rest

/-- Read a class after its `[`: a leading `^` negates it, and a `]` first is a member. -/
def readClass (cs : List Char) : Option (CharSet × List Char) :=
  let (negated, cs) := match cs with
    | '^' :: rest => (true, rest)
    | _ => (false, cs)
  let (first, cs) := match cs with
    | ']' :: rest => (CharSet.one ']', rest)
    | _ => (CharSet.nothing, cs)
  (classItems (cs.length + 1) first cs).map fun (s, rest) =>
    (if negated then .complement s else s, rest)

/-- Read an expression, one token at a time, with a stack of the groups left open. -/
def readTokens : Nat → List Frame → Frame → List Char → Option Regex
  | 0, _, _, _ => none
  | _ + 1, [], f, [] => some f.close
  | _ + 1, _ :: _, _, [] => none
  | fuel + 1, stack, f, c :: rest =>
    let quantified (lo : Nat) (hi : Option Nat) (rest : List Char) : Option Regex := do
      let (greedy, rest) := match rest with
        | '?' :: after => (false, after)
        | _ => (true, rest)
      let f ← f.quantify lo hi greedy
      readTokens fuel stack f rest
    match c with
    | '(' =>
      match rest with
      | '?' :: ':' :: after => readTokens fuel (f :: stack) {} after
      | '?' :: _ => none
      | _ => readTokens fuel (f :: stack) {} rest
    | ')' =>
      match stack with
      | outer :: stack => readTokens fuel stack (outer.push f.close) rest
      | [] => none
    | '|' => readTokens fuel stack { branches := f.branches ++ [seqOf f.items] } rest
    | '*' => quantified 0 none rest
    | '+' => quantified 1 none rest
    | '?' => quantified 0 (some 1) rest
    | '{' => do
      let (lo, hi, rest) ← counted rest
      quantified lo hi rest
    | '[' => do
      let (s, rest) ← readClass rest
      readTokens fuel stack (f.push (.chars s)) rest
    | '.' => readTokens fuel stack (f.push (.chars .anyButNewline)) rest
    | '^' => readTokens fuel stack (f.push .textStart) rest
    | '$' => readTokens fuel stack (f.push .textEnd) rest
    | '\\' =>
      match rest with
      | e :: after => do
        let s ← escapeSet e
        readTokens fuel stack (f.push (.chars s)) after
      | [] => none
    | _ => readTokens fuel stack (f.push (.chars (.one c))) rest

/-- Read a regular expression; none when the text is not one. -/
def parse? (s : String) : Option Regex :=
  readTokens (s.length + 1) [] {} s.toList

/-- Whether a pattern text reads and matches a text. -/
def textMatches (pattern text : String) : Bool :=
  match parse? pattern with
  | some r => r.accepts text
  | none => false

example : textMatches "single" "single" ∧ !textMatches "single" "singles" ∧
    textMatches "ngle" "single" ∧ !textMatches "sing" "single" ∧ !textMatches "a|ab" "ab" ∧
    textMatches "ab|a" "ab" ∧ textMatches "(ab|c)+" "abcab" ∧ !textMatches "a{2,3}" "aaaa" ∧
    textMatches "[^x-z]\\d?" "a7" ∧ textMatches "" "" ∧ !textMatches "a*" "b" ∧
    !textMatches "a+?" "aa" ∧ textMatches "a+" "aa" := by decide +kernel

example : (parse? "a(b").isNone ∧ (parse? "*a").isNone ∧ (parse? "a)").isNone ∧
    (parse? "[a").isNone ∧ (parse? "\\").isNone ∧ (parse? "a|").isSome := by decide +kernel

end Regex

end TagAtlas.Text
