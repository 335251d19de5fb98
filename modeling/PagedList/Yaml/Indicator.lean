import PagedList.Yaml.Tag
import PagedList.Yaml.Text

/-! What the indicators of YAML text mean where they stand, and the tokens of a whole text. A
token that turns out to be a key gets its mark, and the beginning of its mapping, put before it
when the colon is found. -/
namespace PagedList
namespace Yaml

/-! Documents -/

def leaveDocument : Reading Unit := do
  unroll (-1)
  removeCandidate
  allowKey false

def documentMarker : Reading Unit := do
  leaveDocument
  if isDocumentStart (← rest) then do
    move 3
    push .documentStart
  else do
    move 3
    push .documentEnd
    let _ ← skipToLineEnd
    if !endsLine (← rest) then failure

/-- At the end no key may be missing. -/
def finishText : Reading Unit := do
  let c ← get
  if c.candidates.any fun k => k.possible && k.required then failure
  set { c with candidates := c.candidates.map Candidate.reject }
  leaveDocument

/-! Brackets and braces -/

def maxFlowDepth : Nat := 255

def openFlow (t : Token) : Reading Unit := do
  saveCandidate
  rollOne
  let c ← get
  if maxFlowDepth ≤ c.flowDepth then failure
  let isBrace := t == .braceOpen
  set { c with
    candidates := Candidate.absent :: c.candidates, flowDepth := c.flowDepth + 1
    keyAllowed := true, braced := c.braced || isBrace
    pairs := if isBrace then c.pairs else false :: c.pairs }
  move 1
  let _ ← skipToLineEnd
  push t

/-- A pair without braces ends with its item. -/
def endPair : Reading Unit := do
  let c ← get
  match c.pairs with
  | true :: outer => do
    set { c with pairs := false :: outer, braced := false }
    push .braceClose
  | _ => pure ()

def closeFlow (t : Token) : Reading Unit := do
  removeCandidate
  modify fun c =>
    if c.inFlow then { c with flowDepth := c.flowDepth - 1, candidates := c.candidates.drop 1 }
    else c
  allowKey false
  if t == .bracketClose then do
    endPair
    modify fun c => { c with pairs := c.pairs.drop 1 }
  move 1
  let _ ← skipToLineEnd
  modify fun c => if c.inFlow then { c with adjacentAt := c.index } else c
  push t

def comma : Reading Unit := do
  removeCandidate
  allowKey true
  endPair
  move 1
  let _ ← skipToLineEnd
  push .comma

/-! Items, keys and values -/

/-- Whether tabs alone lead to a dash that begins another item. -/
def isTabbedDash (blanks : Blanks) : List Char → Bool
  | '-' :: rest => blanks.tabs && endsWord rest
  | _ => false

def dash : Reading Unit := do
  let c ← get
  if c.inFlow || !c.keyAllowed then failure
  match c.tokens.back? with
  | some (.anchor _) | some (.tag ..) =>
    if c.column = 0 ∧ c.propertyColumn = 0 ∧ -1 < c.indent then failure
  | _ => pure ()
  move 1
  roll c.column c.tokens.size .sequenceStart
  let blanks ← skipToLineEnd
  let text ← rest
  if isTabbedDash blanks text then failure
  if text.head? = some '\n' ∨ beginsFlow text then rollOne
  removeCandidate
  allowKey true
  push .dash

/-- Passes over spaces, line ends and comments behind the mark of a key, of which there has to be
at least one. -/
def skipBehindKey : Nat → Bool → Reading Unit
  | 0, _ => pure ()
  | fuel + 1, found => do
    let c ← get
    match c.text with
    | ' ' :: _ => do
      moveBlanks 1
      skipBehindKey fuel true
    | '\n' :: _ => do
      moveBreak
      if !c.inFlow then allowKey true
      skipBehindKey fuel true
    | '#' :: _ => do
      skipComment
      skipBehindKey fuel found
    | '\t' :: _ => failure
    | _ => if found then pure () else failure

def markedKey : Reading Unit := do
  let c ← get
  if c.inFlow then modify fun c => { c with braced := true }
  else if c.keyAllowed then roll c.column c.tokens.size .mappingStart
  else failure
  removeCandidate
  allowKey !c.inFlow
  move 1
  skipBehindKey ((← rest).length + 1) false
  push .key

/-- Behind a colon and tabs alone no word or dash may stand. -/
def skipBehindValue : Reading Unit := do
  match ← rest with
  | '\t' :: _ => do
    let blanks ← skipToLineEnd
    if !blanks.spaces && ((← rest).take 1).any isHandleChar then failure
  | _ => pure ()

/-- A colon makes a key of the latest candidate; without one the key is explicit or empty. Within
brackets the pair may need no braces, and then its key stands on the line of the colon. -/
def colon : Reading Unit := do
  let c ← get
  let k := c.candidates.headD Candidate.absent
  let isPair := !c.pairs.isEmpty && !c.braced
  if isPair then set { c with pairs := true :: c.pairs.drop 1 }
  move 1
  skipBehindValue
  if k.possible then do
    insert k.token .key
    if isPair then do
      if k.line < c.line then failure
      insert k.token .braceOpen
    roll k.column k.token .mappingStart
    rollOne
    modify fun c => { c with candidates := k.reject :: c.candidates.drop 1 }
    allowKey false
  else do
    if isPair then push .braceOpen
    if !c.inFlow then do
      if !c.keyAllowed then failure
      roll c.column (← get).tokens.size .mappingStart
    rollOne
    allowKey !c.inFlow
  push .value

/-! Whole texts -/

def candidate (read : Reading Token) (keyAfter : Bool) : Reading Unit := do
  saveCandidate
  allowKey keyAfter
  push (← read)

def property (read : Reading Token) : Reading Unit := do
  let column := (← get).column
  candidate read false
  modify fun c => { c with propertyColumn := column }

/-- A quoted scalar as a key inside brackets needs no blank behind its colon. -/
def quoted (quote : Char) : Reading Unit := do
  saveCandidate
  allowKey false
  let t ← quotedScalar quote
  toNextToken
  modify fun c => { c with adjacentAt := c.index }
  push t

def Cursor.atColon (c : Cursor) : Bool :=
  let text := c.text.drop 1
  endsWord text || (c.inFlow && (beginsFlow text || c.index == c.adjacentAt))

def readToken (first : Char) : Reading Unit := do
  let c ← get
  let isWord := endsWord (c.text.drop 1)
  match first with
  | '[' => openFlow .bracketOpen
  | '\x7b' => openFlow .braceOpen
  | ']' => closeFlow .bracketClose
  | '\x7d' => closeFlow .braceClose
  | ',' => comma
  | '-' => if isWord then dash else candidate plainScalar false
  | '?' => if isWord then markedKey else candidate plainScalar false
  | ':' => if c.atColon then colon else candidate plainScalar false
  | '*' => property do pure (.alias (← anchorName))
  | '&' => property do pure (.anchor (← anchorName))
  | '!' => property tag
  | '|' =>
    if c.inFlow then candidate plainScalar false else candidate (blockScalar true) true
  | '>' =>
    if c.inFlow then candidate plainScalar false else candidate (blockScalar false) true
  | '\'' => quoted '\''
  | '"' => quoted '"'
  | '%' | '@' | '\x60' => failure
  | _ => candidate plainScalar false

def step : Reading Bool := do
  toNextToken
  dropOldCandidates
  unroll (← get).column
  let c ← get
  match c.text with
  | [] => do
    finishText
    pure false
  | first :: _ => do
    if c.column = 0 ∧ first = '%' then do
      leaveDocument
      push (← directive)
    else if c.column = 0 ∧ isMarker c.text then documentMarker
    else if (c.column : Int) < c.indent then failure
    else readToken first
    pure true

def steps : Nat → Reading Unit
  | 0 => pure ()
  | fuel + 1 => do
    if ← step then steps fuel

def tokens? (text : String) : Option (List Token) := do
  let text := readable text.toList
  let (_, c) ← (steps (text.length + 1)).run (Cursor.start text)
  some c.tokens.toList

end Yaml
end PagedList
