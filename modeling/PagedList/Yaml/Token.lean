import PagedList.Text.Digit

/-! Tokens of YAML text, and the classes of characters that tell them apart. -/
namespace PagedList
namespace Yaml

inductive Token where
  /-- A line that names the version. -/
  | version
  /-- A line that says what a handle before tags stands for. -/
  | handle (name meaning : String)
  | documentStart
  | documentEnd
  /-- Items or pairs begin that belong together by their indentation. -/
  | sequenceStart
  | mappingStart
  | blockEnd
  | bracketOpen
  | bracketClose
  | braceOpen
  | braceClose
  | dash
  | comma
  | key
  | value
  | alias (name : String)
  | anchor (name : String)
  | tag (handle suffix : String)
  | scalar (isPlain : Bool) (text : String)
  deriving DecidableEq, Repr

def isBlank (c : Char) : Bool := c == ' ' || c == '\t'

def endsLine : List Char → Bool
  | [] => true
  | c :: _ => c == '\n'

def endsWord : List Char → Bool
  | [] => true
  | c :: _ => isBlank c || c == '\n'

def isFlowIndicator (c : Char) : Bool :=
  c == ',' || c == '[' || c == ']' || c == '\x7b' || c == '\x7d'

def beginsFlow (text : List Char) : Bool := (text.take 1).any isFlowIndicator

def isWordChar (c : Char) : Bool :=
  ('a' ≤ c && c ≤ 'z') || ('A' ≤ c && c ≤ 'Z') || Text.isDigit c || c == '-'

def isHandleChar (c : Char) : Bool := isWordChar c || c == '_'

def isUriChar (c : Char) : Bool := isWordChar c || "#;/?:@&=+$,_.!~*'()[]%".contains c

/-- What may stand in a tag without being its end. -/
def isTagChar (c : Char) : Bool := isUriChar c && !isFlowIndicator c && c != '!'

def isAnchorChar (c : Char) : Bool :=
  !isBlank c && c != '\n' && c != '\uFEFF' && !isFlowIndicator c

def isDocumentStart : List Char → Bool
  | '-' :: '-' :: '-' :: rest => endsWord rest
  | _ => false

def isDocumentEnd : List Char → Bool
  | '.' :: '.' :: '.' :: rest => endsWord rest
  | _ => false

def isMarker (text : List Char) : Bool := isDocumentStart text || isDocumentEnd text

/-- The text up to the first NUL, where it ends, with one kind of line end instead of three. -/
def readable : List Char → List Char
  | [] => []
  | '\x00' :: _ => []
  | '\r' :: '\n' :: rest => '\n' :: readable rest
  | c :: rest => (if c = '\r' then '\n' else c) :: readable rest

end Yaml
end PagedList
