import PagedList.Json5.Document

/-! What is said about JSON5 text that cannot be read. A break of the grammar is shown with its
line, a pointer to its place, and the parts of the grammar that would have fitted there. -/
namespace PagedList
namespace Json5

def Part.name : Part → String
  | .endOfText => "EOI"
  | .array => "array"
  | .boolean => "boolean"
  | .charEscape => "char_escape_sequence"
  | .character => "char_literal"
  | .hexEscape => "hex_escape_sequence"
  | .identifier => "identifier"
  | .nulEscape => "nul_escape_sequence"
  | .null => "null"
  | .number => "number"
  | .object => "object"
  | .string => "string"
  | .unicodeEscape => "unicode_escape_sequence"

def alternatives : List String → String
  | [] => ""
  | [a] => a
  | [a, b] => a ++ " or " ++ b
  | names => String.intercalate ", " names.dropLast ++ ", or " ++ names.getLastD ""

def Attempts.expected (a : Attempts) : String :=
  match Part.all.filter a.parts.contains with
  | [] => "unknown parsing error"
  | parts => "expected " ++ alternatives (parts.map Part.name)

def lineAndColumn : Nat × Nat → List Char → Nat × Nat
  | place, [] => place
  | (line, _), '\r' :: '\n' :: rest => lineAndColumn (line + 1, 1) rest
  | (line, _), '\n' :: rest => lineAndColumn (line + 1, 1) rest
  | (line, column), _ :: rest => lineAndColumn (line, column + 1) rest

def lineAround (before after : List Char) : List Char :=
  let start := (before.reverse.takeWhile (· != '\n')).reverse
  let rest := after.takeWhile (· != '\n')
  start ++ rest ++ (if rest.length < after.length then ['\n'] else [])

def showLineEnd (c : Char) : Char :=
  if c = '\r' then '␍' else if c = '\n' then '␊' else c

/-- Line ends are shown only if the place is at one. -/
def shownLine (before after : List Char) : List Char :=
  let line := lineAround before after
  match after with
  | '\n' :: _ | '\r' :: _ => line.map showLineEnd
  | _ => line.filter fun c => c != '\r' && c != '\n'

def report (text : List Char) (a : Attempts) : String :=
  let before := text.take (text.length - a.left)
  let after := text.drop (text.length - a.left)
  let (line, column) := lineAndColumn (1, 1) before
  let shown := shownLine before after
  let number := toString line
  let margin := String.ofList (List.replicate number.length ' ')
  let pointer := (shown.take (column - 1)).map fun c => if c = '\t' then '\t' else ' '
  margin ++ "--> " ++ number ++ ":" ++ toString column ++ "\n" ++
    margin ++ " |\n" ++
    number ++ " | " ++ String.ofList shown ++ "\n" ++
    margin ++ " | " ++ String.ofList pointer ++ "^---\n" ++
    margin ++ " |\n" ++
    margin ++ " = " ++ a.expected

def Error.message : Error → String
  | .grammar text attempts => report text attempts
  | .integer => "error parsing integer"
  | .hex => "error parsing hex"
  | .number => "error parsing number"
  | .tooLarge => "error parsing number: too large"
  | .missingTrailSurrogate => "missing unicode trail surrogate"
  | .expectedTrailSurrogate => "expecting unicode trail surrogate"
  | .unexpectedTrailSurrogate => "unexpected unicode trail surrogate"

end Json5
end PagedList
