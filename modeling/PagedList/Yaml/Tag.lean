import PagedList.Yaml.Cursor

/-! Names in YAML text: anchors and aliases, tags, and the lines before a document that say what
handles of tags stand for. -/
namespace PagedList
namespace Yaml

def anchorName : Reading String := do
  move 1
  match ← takeWhile isAnchorChar with
  | [] => failure
  | name => pure (String.ofList name)

/-! Escapes -/

/-- The bytes of one escaped character, and what is left: the first byte says how many belong to
it. Every byte counts in full. -/
def escapedBytes : Nat → Nat → List Char → Option (Nat × List Char)
  | 0, code, text => some (code, text)
  | n + 1, code, '%' :: a :: b :: rest =>
    if Text.isHexDigit a && Text.isHexDigit b then
      let byte := Text.baseValue 16 [a, b]
      if 0x80 ≤ byte ∧ byte < 0xC0 then escapedBytes n (code * 256 + byte) rest else none
    else none
  | _, _, _ => none

def followers? (byte : Nat) : Option Nat :=
  if byte < 0x80 then some 0
  else if byte < 0xC0 then none
  else if byte < 0xE0 then some 1
  else if byte < 0xF0 then some 2
  else if byte < 0xF8 then some 3
  else none

def uriEscape : Reading Char := do
  let text ← rest
  match text with
  | '%' :: a :: b :: more =>
    if Text.isHexDigit a && Text.isHexDigit b then do
      let byte := Text.baseValue 16 [a, b]
      let some n := followers? byte | failure
      let some (code, _) := escapedBytes n byte more | failure
      move (3 * (n + 1))
      if code.isValidChar then pure (Char.ofNat code) else failure
    else failure
  | _ => failure

def uriPart (p : Char → Bool) : Nat → Reading (List Char)
  | 0 => pure []
  | fuel + 1 => do
    match ← rest with
    | c :: _ =>
      if !p c then pure []
      else do
        let c ← if c = '%' then uriEscape else do
          move 1
          pure c
        pure (c :: (← uriPart p fuel))
    | [] => pure []

def uriText (p : Char → Bool) : Reading (List Char) := do uriPart p ((← rest).length + 1)

/-! Tags -/

/-- A handle: what stands between two exclamation marks, or one of them with what follows it. -/
def tagHandle : Reading (List Char) := do
  match ← rest with
  | '!' :: _ => do
    move 1
    let name ← takeWhile isHandleChar
    match ← rest with
    | '!' :: _ => do
      move 1
      pure ('!' :: (name ++ ['!']))
    | _ => pure ('!' :: name)
  | _ => failure

def isClosedHandle (handle : List Char) : Bool :=
  1 < handle.length && handle.getLast? == some '!'

def verbatimTag : Reading Token := do
  move 2
  let uri ← uriText isUriChar
  match ← rest with
  | '>' :: _ => do
    move 1
    pure (.tag "" (String.ofList uri))
  | _ => failure

/-- A tag with a handle, or with an exclamation mark alone. -/
def shortTag : Reading Token := do
  let handle ← tagHandle
  if isClosedHandle handle then do
    match ← uriText isTagChar with
    | [] => failure
    | suffix => pure (.tag (String.ofList handle) (String.ofList suffix))
  else do
    match handle.drop 1 ++ (← uriText isTagChar) with
    | [] => pure (.tag "" "!")
    | suffix => pure (.tag "!" (String.ofList suffix))

def tag : Reading Token := do
  let t ← match ← rest with
    | '!' :: '<' :: _ => verbatimTag
    | _ => shortTag
  let c ← get
  if endsWord c.text || (c.inFlow && beginsFlow c.text) then pure t else failure

/-! Lines before a document -/

def versionNumber : Reading Unit := do
  let digits ← takeWhile Text.isDigit
  if digits.isEmpty ∨ 9 < digits.length then failure

def versionLine : Reading Token := do
  moveBlanks ((← rest).takeWhile isBlank).length
  versionNumber
  match ← rest with
  | '.' :: _ => do
    move 1
    versionNumber
    pure .version
  | _ => failure

/-- What the handle of a line stands for: an exclamation mark or a character of tags first. -/
def handleMeaning : Reading (List Char) := do
  match ← rest with
  | '!' :: _ => do
    move 1
    pure ('!' :: (← uriText isUriChar))
  | c :: _ => if isTagChar c then uriText isUriChar else failure
  | [] => failure

def handleLine : Reading Token := do
  moveBlanks ((← rest).takeWhile isBlank).length
  let handle ← tagHandle
  if handle ≠ ['!'] ∧ !isClosedHandle handle then failure
  moveBlanks ((← rest).takeWhile isBlank).length
  let meaning ← handleMeaning
  if endsWord (← rest) then pure (.handle (String.ofList handle) (String.ofList meaning))
  else failure

/-- A line behind a percent sign. One of an unknown kind says nothing. -/
def directive : Reading Token := do
  move 1
  let name ← takeWhile isHandleChar
  if name.isEmpty || !endsWord (← rest) then failure
  let t ← match String.ofList name with
    | "YAML" => versionLine
    | "TAG" => handleLine
    | _ => do
      skipComment
      pure (.handle "" "")
  let _ ← skipToLineEnd
  match ← rest with
  | [] => pure t
  | '\n' :: _ => do
    moveBreak
    pure t
  | _ => failure

end Yaml
end PagedList
