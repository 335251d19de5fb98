import PagedList.LogFilter.Pattern
import PagedList.Number.DecimalReader
import PagedList.Number.Integer
import PagedList.Text.Alphanumeric
import PagedList.Text.Blank

/-! Which events are written down: directives with commas between them, each a level, a target, or
a target with a level; a span with a field may stand in brackets behind the target. -/
namespace PagedList
namespace LogFilter

inductive Error where
  | unreadable
  /-- A piece of it would begin or end within a character. -/
  | splitCharacter
  deriving DecidableEq, Repr

def levelNames : List String := ["error", "warn", "info", "debug", "trace", "off"]

def lowerAscii (text : List Char) : String := String.ofList (text.map Char.toLower)

def isLevel (text : List Char) : Bool :=
  match Integer.readCount Integer.maxCount text with
  | .ok n => n ≤ 5
  | .error _ => levelNames.contains (lowerAscii text)

def isNumber (text : List Char) : Bool :=
  (Decimal.read? text).isSome ||
    ["inf", "infinity", "nan"].contains (lowerAscii (Decimal.splitSign text).2)

/-- A field by its name, perhaps with a number or a pattern for its value. What follows a second
equals sign does not count. -/
def isField (text : List Char) : Bool :=
  match text.splitOn '=' with
  | _ :: value :: _ => isNumber value || isPattern value
  | _ => !text.isEmpty

/-! Pieces of a text, by how many bytes are before them -/

def dropBytes? : Nat → List Char → Option (List Char)
  | 0, text => some text
  | _ + 1, [] => none
  | n + 1, c :: rest => if c.utf8Size ≤ n + 1 then dropBytes? (n + 1 - c.utf8Size) rest else none

def takeBytes? : Nat → List Char → Option (List Char)
  | 0, _ => some []
  | _ + 1, [] => none
  | n + 1, c :: rest =>
    if c.utf8Size ≤ n + 1 then (takeBytes? (n + 1 - c.utf8Size) rest).map (c :: ·) else none

def piece (whole : List Char) (first last : Nat) : Except Error (List Char) :=
  match (dropBytes? first whole).bind (takeBytes? (last - first)) with
  | some text => .ok text
  | none => .error .splitCharacter

/-- Which part of a directive comes next, and behind how many bytes it begins. -/
inductive Part where
  | start
  | target
  | span (first : Nat)
  /-- A field in braces. -/
  | field (first : Nat)
  | afterField
  | afterSpan
  | level (first : Nat)
  deriving DecidableEq, Repr

/-- Whether a directive may begin with this character, brackets apart. -/
def beginsTarget (c : Char) : Bool :=
  c == '-' || c == ':' || c == '_' || Text.isAlphanumeric c

/-- The part behind one more character, before which `index` bytes come. -/
def step (whole : List Char) (index : Nat) (c : Char) : Part → Except Error Part
  | .start =>
    if c = '[' then .ok (.span (index + 1))
    else if beginsTarget c then .ok .target
    else .error .unreadable
  | .target =>
    if c = '=' then do
      let _ ← piece whole 0 index
      .ok (.level (index + 1))
    else if c = '[' then do
      let _ ← piece whole 0 index
      .ok (.span (index + 1))
    else .ok .target
  | .span first =>
    if c = ']' then do
      let _ ← piece whole first index
      .ok .afterSpan
    else if c = '\x7b' then do
      let _ ← piece whole first index
      .ok (.field (index + 1))
    else .ok (.span first)
  | .field first =>
    if c = '\x7d' then do
      if isField (← piece whole first index) then .ok .afterField else .error .unreadable
    else .ok (.field first)
  | .afterField => if c = ']' then .ok .afterSpan else .error .unreadable
  | .afterSpan => if c = '=' then .ok (.level (index + 1)) else .error .unreadable
  | .level first => .ok (.level first)

def lastPart (whole : List Char) : Nat → Part → List Char → Except Error Part
  | _, part, [] => .ok part
  | index, part, c :: rest => do
    lastPart whole (index + c.utf8Size) (← step whole index c part) rest

/-- Reads a directive. Its parts are told apart without the blanks around it, but they are what
stands at those places in the whole of it. -/
def checkDirective (whole : List Char) : Except Error Unit := do
  match ← lastPart whole 0 .start (Text.trim whole) with
  | .target | .afterSpan => .ok ()
  | .level first =>
    match dropBytes? first whole with
    | none => .error .splitCharacter
    | some level => if level.isEmpty || isLevel level then .ok () else .error .unreadable
  | _ => .error .unreadable

/-- Reads all directives; empty ones do not count. -/
def check (s : String) : Except Error Unit :=
  ((s.toList.splitOn ',').filter (· ≠ [])).forM checkDirective

def standard : String := "listkeeper=info"

/-- The filter that variables ask for; a blank one asks for nothing. -/
def ofVariables (vars : List (String × String)) : String :=
  match vars.lookup "RUST_LOG" <|> vars.lookup "LISTKEEPER_LOGLEVEL" with
  | some s => if (Text.trim s.toList).isEmpty then standard else s
  | none => standard

end LogFilter
end PagedList
