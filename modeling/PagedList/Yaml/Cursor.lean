import PagedList.Yaml.Token

/-! A place in YAML text: the tokens before it, the columns that indented collections began in,
and the tokens that will turn out to be keys if a colon follows them. -/
namespace PagedList
namespace Yaml

/-- Where a key may have begun, on each level of brackets. -/
structure Candidate where
  possible : Bool
  /-- Whether nothing but a key can stand there. -/
  required : Bool
  /-- How many tokens there were before it. -/
  token : Nat
  index : Nat
  line : Nat
  column : Nat

def Candidate.absent : Candidate := ⟨false, false, 0, 0, 0, 0⟩

def Candidate.reject (k : Candidate) : Candidate := { k with possible := false }

structure Indent where
  outer : Int
  /-- Whether a collection began there, so that its end is a token. Otherwise the column is only
  kept free for what follows a colon. -/
  isBlock : Bool

structure Cursor where
  text : List Char
  index : Nat
  line : Nat
  column : Nat
  /-- Whether nothing but blanks stands before on the line. -/
  leading : Bool
  tokens : Array Token
  keyAllowed : Bool
  /-- The innermost level of brackets comes first. -/
  candidates : List Candidate
  indent : Int
  indents : List Indent
  flowDepth : Nat
  /-- Where a colon needs no blank behind it, since what stands before is closed by itself. -/
  adjacentAt : Nat
  /-- Whether a brace or an explicit key was seen since a pair within brackets ended. -/
  braced : Bool
  /-- For every open bracket, whether a pair without braces stands in it. -/
  pairs : List Bool
  /-- The column of the latest anchor or tag. -/
  propertyColumn : Nat

def Cursor.start (text : List Char) : Cursor :=
  ⟨text, 0, 0, 0, true, #[], true, [Candidate.absent], -1, [], 0, 0, false, [], 0⟩

/-- Reads from a place, or fails where the text is no YAML. -/
abbrev Reading := StateT Cursor Option

def rest : Reading (List Char) := do pure (← get).text

def moveBlanks (n : Nat) : Reading Unit :=
  modify fun c =>
    { c with text := c.text.drop n, index := c.index + n, column := c.column + n }

def move (n : Nat) : Reading Unit := do
  moveBlanks n
  modify fun c => { c with leading := false }

def moveBreak : Reading Unit :=
  modify fun c =>
    { c with
      text := c.text.drop 1, index := c.index + 1, line := c.line + 1, column := 0
      leading := true }

def takeWhile (p : Char → Bool) : Reading (List Char) := do
  let taken := (← rest).takeWhile p
  move taken.length
  pure taken

def skipComment : Reading Unit := do
  let _ ← takeWhile (· != '\n')

structure Blanks where
  tabs : Bool
  spaces : Bool

/-- Passes over blanks and a comment, before which a blank has to stand. -/
def skipToLineEnd : Reading Blanks := do
  let blanks := (← rest).takeWhile isBlank
  moveBlanks blanks.length
  match ← rest with
  | '#' :: _ => if blanks.isEmpty then failure else skipComment
  | _ => pure ()
  pure ⟨blanks.contains '\t', blanks.contains ' '⟩

def allowKey (allowed : Bool) : Reading Unit := modify fun c => { c with keyAllowed := allowed }

def Cursor.inFlow (c : Cursor) : Bool := 0 < c.flowDepth

/-- Passes over line ends, blanks and comments. Tabs do not count as indentation: before text they
stand only where there is enough of it. -/
def toNext : Nat → Reading Unit
  | 0 => pure ()
  | fuel + 1 => do
    let c ← get
    match c.text with
    | '\t' :: _ => do
      if !c.indents.isEmpty && c.leading && (c.column : Int) < c.indent then do
        let _ ← skipToLineEnd
        if !endsLine (← rest) then failure
      else moveBlanks 1
      toNext fuel
    | ' ' :: _ => do
      moveBlanks 1
      toNext fuel
    | '\n' :: _ => do
      moveBreak
      if !c.inFlow then allowKey true
      toNext fuel
    | '#' :: _ => do
      skipComment
      toNext fuel
    | _ => pure ()

def toNextToken : Reading Unit := do toNext ((← rest).length + 1)

/-! Tokens -/

def push (t : Token) : Reading Unit := modify fun c => { c with tokens := c.tokens.push t }

def insert (position : Nat) (t : Token) : Reading Unit :=
  modify fun c => { c with tokens := c.tokens.insertIdxIfInBounds position t }

/-! Indentation -/

/-- Leaves the columns to the right of this one and counts the collections that end with them. -/
def unrolled (column : Int) : Int → List Indent → Int × List Indent × Nat
  | indent, [] => (indent, [], 0)
  | indent, i :: outer =>
    if column < indent then
      let (indent, indents, ends) := unrolled column i.outer outer
      (indent, indents, ends + if i.isBlock then 1 else 0)
    else (indent, i :: outer, 0)

/-- Inside brackets indentation ends nothing. -/
def unroll (column : Int) : Reading Unit :=
  modify fun c =>
    if c.inFlow then c
    else
      let (indent, indents, ends) := unrolled column c.indent c.indents
      { c with indent, indents, tokens := c.tokens ++ Array.replicate ends .blockEnd }

/-- Begins a collection in a column to the right of what is around it, with this token at a
position. A column that was only kept free is given up for it. -/
def roll (column position : Nat) (t : Token) : Reading Unit := do
  let c ← get
  if !c.inFlow then
    let c := match c.indents with
      | i :: outer =>
        if c.indent ≤ (column : Int) ∧ !i.isBlock then { c with indent := i.outer, indents := outer }
        else c
      | [] => c
    if c.indent < (column : Int) then
      set { c with
        indent := column, indents := ⟨c.indent, true⟩ :: c.indents
        tokens := c.tokens.insertIdxIfInBounds position t }
    else set c

/-- Keeps one column free for what follows. -/
def rollOne : Reading Unit :=
  modify fun c =>
    match c.indents with
    | i :: _ =>
      if !c.inFlow && i.isBlock then
        { c with indent := c.indent + 1, indents := ⟨c.indent, false⟩ :: c.indents }
      else c
    | [] => c

/-- Gives up the column that was kept free. -/
def unrollOne : Reading Unit :=
  modify fun c =>
    match c.indents with
    | i :: outer => if i.isBlock then c else { c with indent := i.outer, indents := outer }
    | [] => c

/-! Candidates for keys -/

def saveCandidate : Reading Unit :=
  modify fun c =>
    if c.keyAllowed then
      let required := !c.inFlow && c.indent == c.column && (c.indents.take 1).any (·.isBlock)
      { c with
        candidates := ⟨true, required, c.tokens.size, c.index, c.line, c.column⟩ ::
          c.candidates.drop 1 }
    else c

def removeCandidate : Reading Unit := do
  let c ← get
  match c.candidates with
  | [] => failure
  | k :: outer =>
    if k.possible && k.required then failure
    else set { c with candidates := k.reject :: outer }

def maxKeyLength : Nat := 1024

/-- A key outside of brackets stands on one line with its colon, and is not too long. -/
def dropOldCandidates : Reading Unit := do
  let c ← get
  if !c.inFlow then
    let candidates ← c.candidates.mapM fun k =>
      if k.possible && (k.line < c.line || k.index + maxKeyLength < c.index) then
        if k.required then failure else pure k.reject
      else pure k
    set { c with candidates }

end Yaml
end PagedList
