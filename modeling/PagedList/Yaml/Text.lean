import PagedList.Yaml.Cursor

/-! Scalars of YAML text: without quotes, in quotes of either kind, and as indented blocks. A
single line end within a scalar reads as a space, and of more than one all but the first are
kept. -/
namespace PagedList
namespace Yaml

structure Gap where
  blanks : List Char
  breaks : Nat

def Gap.none : Gap := ⟨[], 0⟩

def Gap.text (g : Gap) : List Char :=
  if g.breaks = 0 then g.blanks
  else if g.breaks = 1 then [' ']
  else List.replicate (g.breaks - 1) '\n'

/-! Plain scalars -/

/-- Whether a plain scalar goes on with this character that is no blank. -/
def continuesPlain (inFlow : Bool) : List Char → Bool
  | [] => false
  | c :: rest =>
    if c = ':' then !(endsWord rest || (inFlow && beginsFlow rest))
    else !(inFlow && isFlowIndicator c)

def plainWord (inFlow : Bool) : List Char → List Char
  | [] => []
  | c :: rest =>
    if isBlank c || c == '\n' || !continuesPlain inFlow (c :: rest) then []
    else c :: plainWord inFlow rest

/-- Passes over the blanks and line ends behind a part of a plain scalar. Tabs before text are no
indentation. -/
def plainGap (indent : Int) : Nat → Gap → Reading Gap
  | 0, g => pure g
  | fuel + 1, g => do
    let c ← get
    match c.text with
    | '\n' :: _ => do
      moveBreak
      plainGap indent fuel ⟨[], g.breaks + 1⟩
    | ch :: _ =>
      if !isBlank ch then pure g
      else if !c.leading then do
        moveBlanks 1
        plainGap indent fuel { g with blanks := g.blanks ++ [ch] }
      else if (c.column : Int) < indent ∧ ch = '\t' then do
        let _ ← skipToLineEnd
        if !endsLine (← rest) then failure
        plainGap indent fuel g
      else do
        moveBlanks 1
        plainGap indent fuel g
    | [] => pure g

/-- A dash that would have to be an item, but stands inside brackets. -/
def isLostDash : List Char → Bool
  | '-' :: rest => beginsFlow rest
  | _ => false

def plainParts (indent : Int) : Nat → Gap → Reading (List Char)
  | 0, _ => pure []
  | fuel + 1, g => do
    let c ← get
    if (c.column == 0 && isMarker c.text) || c.text.head? == some '#' then pure []
    else if c.inFlow && isLostDash c.text then failure
    else
      let word := plainWord c.inFlow c.text
      let (part, g) := if word.isEmpty then ([], g) else (g.text ++ word, Gap.none)
      if !word.isEmpty then move word.length
      let text ← rest
      if text.isEmpty || !endsWord text then pure part
      else do
        let g ← plainGap indent (text.length + 1) g
        if !c.inFlow && ((← get).column : Int) < indent then pure part
        else do pure (part ++ (← plainParts indent fuel g))

def plainScalar : Reading Token := do
  unrollOne
  let c ← get
  let indent := c.indent + 1
  if c.inFlow && (c.column : Int) < indent then failure
  let text ← plainParts indent (c.text.length + 1) Gap.none
  if (← get).leading then allowKey true
  if text.isEmpty then failure else pure (.scalar true (String.ofList text))

/-! Quoted scalars -/

def shortEscape? (c : Char) : Option Char :=
  match c with
  | '0' => some '\x00'
  | 'a' => some '\x07'
  | 'b' => some '\x08'
  | 't' => some '\t'
  | '\t' => some '\t'
  | 'n' => some '\n'
  | 'v' => some '\x0b'
  | 'f' => some '\x0c'
  | 'r' => some '\r'
  | 'e' => some '\x1b'
  | ' ' => some ' '
  | '"' => some '"'
  | '/' => some '/'
  | '\\' => some '\\'
  | 'N' => some '\u0085'
  | '_' => some '\u00a0'
  | 'L' => some '\u2028'
  | 'P' => some '\u2029'
  | _ => none

def codeLength? (c : Char) : Option Nat :=
  match c with
  | 'x' => some 2
  | 'u' => some 4
  | 'U' => some 8
  | _ => none

def escape? : List Char → Option (Char × Nat)
  | [] => none
  | c :: rest =>
    match shortEscape? c, codeLength? c with
    | some e, _ => some (e, 1)
    | none, none => none
    | none, some n =>
      let digits := rest.take n
      let code := Text.baseValue 16 digits
      if digits.length = n ∧ digits.all Text.isHexDigit ∧ code.isValidChar then
        some (Char.ofNat code, n + 1)
      else none

/-- The characters of a quoted scalar up to the next blank or the closing quote, and whether a
line end behind a backslash ends them. -/
def quotedWord (quote : Char) : Nat → Reading (List Char × Bool)
  | 0 => pure ([], false)
  | fuel + 1 => do
    let text ← rest
    if endsWord text then pure ([], false)
    else
      match text with
      | '\'' :: '\'' :: _ =>
        if quote = '\'' then do
          move 2
          let (cs, escaped) ← quotedWord quote fuel
          pure ('\'' :: cs, escaped)
        else do
          move 1
          let (cs, escaped) ← quotedWord quote fuel
          pure ('\'' :: cs, escaped)
      | ch :: more =>
        if ch = quote then pure ([], false)
        else if ch = '\\' ∧ quote = '"' then
          if more.head? = some '\n' then do
            move 1
            moveBreak
            pure ([], true)
          else
            match escape? more with
            | none => failure
            | some (e, n) => do
              move (n + 1)
              let (cs, escaped) ← quotedWord quote fuel
              pure (e :: cs, escaped)
        else do
          move 1
          let (cs, escaped) ← quotedWord quote fuel
          pure (ch :: cs, escaped)
      | [] => pure ([], false)

/-- Passes over blanks and line ends within quotes; `crossed` holds if a line ended before them. -/
def quotedGap (crossed : Bool) : Nat → Gap → Reading (Gap × Bool)
  | 0, g => pure (g, crossed)
  | fuel + 1, g => do
    let c ← get
    match c.text with
    | '\n' :: _ => do
      moveBreak
      quotedGap true fuel ⟨[], g.breaks + 1⟩
    | ch :: _ =>
      if !isBlank ch then pure (g, crossed)
      else if !crossed then do
        moveBlanks 1
        quotedGap crossed fuel { g with blanks := g.blanks ++ [ch] }
      else if ch = '\t' ∧ (c.column : Int) < c.indent then failure
      else do
        moveBlanks 1
        quotedGap crossed fuel g
    | [] => pure (g, crossed)

def quotedParts (quote : Char) : Nat → Reading (List Char)
  | 0 => failure
  | fuel + 1 => do
    let c ← get
    if (c.column = 0 ∧ isMarker c.text) ∨ c.text.isEmpty ∨ (c.column : Int) < c.indent then failure
    let (word, escaped) ← quotedWord quote (c.text.length + 1)
    let text ← rest
    if text.head? = some quote then pure word
    else do
      let (g, _) ← quotedGap escaped (text.length + 1) Gap.none
      -- behind an escaped line end every further one is kept
      let between := if escaped then List.replicate g.breaks '\n' else g.text
      pure (word ++ between ++ (← quotedParts quote fuel))

/-- A quoted scalar, behind which only something that belongs to brackets, a colon or a comment
may stand on its line. A key stands on one line outside of brackets. -/
def quotedScalar (quote : Char) : Reading Token := do
  let start ← get
  move 1
  let text ← quotedParts quote (start.text.length + 1)
  move 1
  let _ ← skipToLineEnd
  let c ← get
  match c.text with
  | [] => pure ()
  | ch :: _ =>
    if ch = '\n' ∨ (ch = ':' ∧ (c.inFlow ∨ start.line = c.line)) ∨
        (c.inFlow ∧ (ch = ',' ∨ ch = ']' ∨ ch = '\x7d')) then pure ()
    else failure
  pure (.scalar false (String.ofList text))

/-! Blocks -/

inductive Chomping where
  | strip
  | clip
  | keep
  deriving DecidableEq

def chomping? : Reading (Option Chomping) := do
  match ← rest with
  | '+' :: _ => do
    move 1
    pure (some .keep)
  | '-' :: _ => do
    move 1
    pure (some .strip)
  | _ => pure none

/-- How much further than what is around it a block is indented; zero stands for nothing said. -/
def increment : Reading Nat := do
  match ← rest with
  | c :: _ =>
    if !Text.isDigit c then pure 0
    else if c = '0' then failure
    else do
      move 1
      pure (Text.digitValue c)
  | [] => pure 0

def blockHeader : Reading (Chomping × Nat) := do
  match ← chomping? with
  | some chomping => do pure (chomping, ← increment)
  | none => do
    let n ← increment
    if n = 0 then pure (.clip, 0) else pure ((← chomping?).getD .clip, n)

def moveSpaces (limit : Nat) : Reading Unit := do
  let c ← get
  moveBlanks ((c.text.takeWhile (· == ' ')).take (limit - c.column)).length

/-- Passes over the indentation of the next line with text and counts the empty lines before. -/
def blockIndent (indent : Nat) : Nat → Nat → Reading Nat
  | 0, breaks => pure breaks
  | fuel + 1, breaks => do
    moveSpaces indent
    match ← rest with
    | '\n' :: _ => do
      moveBreak
      blockIndent indent fuel (breaks + 1)
    | _ => pure breaks

/-- The same where the indentation is that of the widest of these lines. -/
def firstIndent : Nat → Nat → Nat → Reading (Nat × Nat)
  | 0, widest, breaks => pure (widest, breaks)
  | fuel + 1, widest, breaks => do
    let text ← rest
    moveBlanks (text.takeWhile (· == ' ')).length
    let widest := max widest (← get).column
    match ← rest with
    | '\n' :: _ => do
      moveBreak
      firstIndent fuel widest (breaks + 1)
    | _ => pure (widest, breaks)

/-- What was read of a block: its text, whether its last line began with a blank, whether a line
end stands behind that line, and how many empty lines follow. -/
structure Block where
  text : List Char
  afterBlank : Bool
  ended : Bool
  breaks : Nat

def Block.between (b : Block) (isLiteral isIndented : Bool) : List Char :=
  let empty := List.replicate b.breaks '\n'
  if !isLiteral && b.ended && !b.afterBlank && !isIndented then
    if b.breaks = 0 then [' '] else empty
  else (if b.ended then ['\n'] else []) ++ empty

/-- Reads the lines of a block that are indented as far as its first. -/
def blockLines (isLiteral : Bool) (indent : Nat) : Nat → Block → Reading Block
  | 0, b => pure b
  | fuel + 1, b => do
    let c ← get
    if c.column ≠ indent ∨ c.text.isEmpty ∨ (indent = 0 ∧ isDocumentEnd c.text) then pure b
    else do
      let isIndented := (c.text.take 1).any isBlank
      let line ← takeWhile (· != '\n')
      let text := b.text ++ b.between isLiteral isIndented ++ line
      if (← rest).isEmpty then pure ⟨text, isIndented, false, 0⟩
      else do
        moveBreak
        let breaks ← blockIndent indent ((← rest).length + 1) 0
        blockLines isLiteral indent fuel ⟨text, isIndented, true, breaks⟩

/-- The text of a block with what is kept of the line ends at its end. -/
def Block.finish (b : Block) (chomping : Chomping) (indent : Nat) : Reading (List Char) := do
  let c ← get
  let ending := (if b.ended then ['\n'] else []) ++
    (if c.text.isEmpty ∧ max indent 1 ≤ c.column then ['\n'] else [])
  let empty := List.replicate b.breaks '\n'
  match chomping with
  | .strip => pure b.text
  | .clip => pure (b.text ++ ending)
  | .keep => pure (b.text ++ ending ++ empty)

def emptyBlock (chomping : Chomping) (isOneLine ended : Bool) (breaks : Nat) : List Char :=
  let first := if ended then ['\n'] else []
  match chomping with
  | .strip => []
  | .clip => if isOneLine then [] else first
  | .keep => if isOneLine then [] else if breaks = 0 then first else List.replicate breaks '\n'

def blockScalar (isLiteral : Bool) : Reading Token := do
  let start ← get
  move 1
  unrollOne
  let (chomping, increment) ← blockHeader
  let _ ← skipToLineEnd
  if !endsLine (← rest) then failure
  let ended := !(← rest).isEmpty
  if ended then moveBreak
  if (← rest).head? = some '\t' then failure
  let c ← get
  let fuel := c.text.length + 1
  let (indent, breaks) ← if increment = 0 then do
      let (widest, breaks) ← firstIndent fuel 0 0
      pure (max widest (c.indent + 1).toNat, breaks)
    else do
      let indent := c.indent.toNat + increment
      pure (indent, ← blockIndent indent fuel 0)
  let c ← get
  if c.text.isEmpty then
    pure (.scalar false (String.ofList (emptyBlock chomping (c.line == start.line) ended breaks)))
  else if c.column < indent ∧ c.indent < c.column then failure
  else do
    let b ← blockLines isLiteral indent fuel ⟨[], false, false, breaks⟩
    pure (.scalar false (String.ofList (← b.finish chomping indent)))

end Yaml
end PagedList
