import PagedList.Text.Blank
import PagedList.Text.Digit
import PagedList.Text.Letter

/-! The grammar of JSON5 as files of records follow it: comments, trailing commas, names without
quotes, single quotes and numbers in more than one notation. Reading gives a tree in which numbers and escapes are still
spelled out. When nothing fits, what is reported is the furthest place where a part of the grammar
was tried, with all the parts tried there. -/
namespace PagedList
namespace Json5

open Text (isDigit isHexDigit)

/-- The parts of the grammar that reports speak of, in the order in which they are listed. -/
inductive Part where
  | endOfText
  | array
  | boolean
  | charEscape
  | character
  | hexEscape
  | identifier
  | nulEscape
  | null
  | number
  | object
  | string
  | unicodeEscape
  deriving DecidableEq, Repr

def Part.all : List Part :=
  [.endOfText, .array, .boolean, .charEscape, .character, .hexEscape, .identifier, .nulEscape,
    .null, .number, .object, .string, .unicodeEscape]

/-- The furthest place of a failed attempt, by how many characters are left there. -/
structure Attempts where
  left : Nat
  parts : List Part

def Attempts.add (a : Attempts) (left : Nat) (part : Part) : Attempts :=
  if left < a.left then ⟨left, [part]⟩
  else if left = a.left then ⟨left, part :: a.parts⟩
  else a

inductive Piece where
  | literal (c : Char)
  /-- A backslash before this character. -/
  | escaped (c : Char)
  | nul
  | hex (digits : List Char)
  | unicode (digits : List Char)
  deriving DecidableEq, Repr

inductive Tree where
  | null
  | bool (b : Bool)
  | number (text : List Char)
  | string (pieces : List Piece)
  | array (items : List Tree)
  | object (members : List (List Piece × Tree))
  deriving Inhabited

/-- Reads from the characters that are left; attempts are remembered also where reading fails. -/
abbrev Reading := StateT (List Char) (OptionT (StateM Attempts))

namespace Reading

variable {α : Type}

def fail : Reading α := fun _ => OptionT.fail

def note (left : Nat) (part : Part) : Reading Unit :=
  fun text => OptionT.lift (do modify (·.add left part); pure ((), text))

def orElse (first second : Reading α) : Reading α :=
  fun text => OptionT.mk do
    match ← (first text).run with
    | some r => pure (some r)
    | none => (second text).run

/-- A named part, whose failure is noted where it began. -/
def named (part : Part) (r : Reading α) : Reading α := do
  let left := (← get).length
  orElse r (do note left part; fail)

def charIf (p : Char → Bool) : Reading Char := do
  match ← get with
  | c :: rest => if p c then do set rest; pure c else fail
  | [] => fail

def char (c : Char) : Reading Unit := do
  let _ ← charIf (· == c)

def word (w : List Char) : Reading Unit := do
  let text ← get
  if w.isPrefixOf text then set (text.drop w.length) else fail

def peek? : Reading (Option Char) := do pure (← get).head?

def many (r : Reading α) : Nat → Reading (List α)
  | 0 => pure []
  | fuel + 1 =>
    orElse (do
      let a ← r
      pure (a :: (← many r fuel))) (pure [])

end Reading

open Reading

def isLineEnd (c : Char) : Bool :=
  c == '\n' || c == '\r' || c == '\u2028' || c == '\u2029'

def isBlank (c : Char) : Bool :=
  c == '\t' || c == '\x0b' || c == '\x0c' || c == '\uFEFF' || isLineEnd c ||
    Text.isSpaceSeparator c

def afterBlockComment? : List Char → Option (List Char)
  | '*' :: '/' :: rest => some rest
  | _ :: rest => afterBlockComment? rest
  | [] => none

def skipBlanks : Nat → List Char → List Char
  | 0, text => text
  | fuel + 1, text =>
    match text.dropWhile isBlank with
    | '/' :: '*' :: rest =>
      match afterBlockComment? rest with
      | some rest => skipBlanks fuel rest
      | none => '/' :: '*' :: rest
    | '/' :: '/' :: rest => skipBlanks fuel (rest.dropWhile fun c => !isLineEnd c)
    | rest => rest

def skip : Reading Unit := modify fun text => skipBlanks (text.length + 1) text

def digits : Reading (List Char) := do
  let text ← get
  set (text.dropWhile isDigit)
  pure (text.takeWhile isDigit)

def someDigits (p : Char → Bool) : Reading (List Char) := do
  let text ← get
  match text.takeWhile p with
  | [] => fail
  | ds => do
    set (text.dropWhile p)
    pure ds

def hexDigits (n : Nat) : Reading (List Char) := do
  let text ← get
  let ds := text.take n
  if ds.length = n ∧ ds.all isHexDigit then do
    set (text.drop n)
    pure ds
  else fail

/-! Strings and names -/

/-- Whether a backslash before this character has a meaning of its own that takes more than it. -/
def beginsLongEscape (c : Char) : Bool := isDigit c || c == 'x' || c == 'u'

def escape : Reading Piece :=
  orElse (named .charEscape (do
    pure (.escaped (← charIf fun c => !beginsLongEscape c && !isLineEnd c))))
  (orElse (named .nulEscape (do char '0'; pure .nul))
  (orElse (do char 'x'; pure (.hex (← named .hexEscape (hexDigits 2))))
    (do char 'u'; pure (.unicode (← named .unicodeEscape (hexDigits 4))))))

/-- A line end after a backslash, which stands for nothing. -/
def lineContinuation : Reading Unit := do
  char '\\'
  orElse (word ['\r', '\n']) (do let _ ← charIf isLineEnd)

def anyCharacter : Reading Char := named .character (charIf fun _ => true)

def stringPiece (quote : Char) : Reading (Option Piece) :=
  orElse (do char '\\'; pure (some (← escape)))
  (orElse (do lineContinuation; pure none)
  (do
    match ← peek? with
    | some c => if c == quote || c == '\\' || isLineEnd c then fail else pure ()
    | none => pure ()
    pure (some (.literal (← anyCharacter)))))

def quotedString (quote : Char) : Reading (List Piece) := do
  char quote
  let fuel := (← get).length + 1
  let pieces ← many (stringPiece quote) fuel
  char quote
  pure (pieces.filterMap id)

def string : Reading (List Piece) :=
  named .string (orElse (quotedString '"') (quotedString '\''))

def beginsName (c : Char) : Bool := Text.isLetter c || c == '$' || c == '_'

def continuesName (c : Char) : Bool :=
  beginsName c || Text.isNameMark c

def namePiece (p : Char → Bool) : Reading Piece :=
  orElse (do pure (.literal (← charIf p)))
    (do
      word ['\\', 'u']
      pure (.unicode (← named .unicodeEscape (hexDigits 4))))

def identifier : Reading (List Piece) :=
  named .identifier (do
    let first ← namePiece beginsName
    let fuel := (← get).length + 1
    pure (first :: (← many (namePiece continuesName) fuel)))

def key : Reading (List Piece) := orElse identifier string

/-! Numbers, which keep their text -/

def optional (r : Reading (List Char)) : Reading (List Char) := orElse r (pure [])

def sign : Reading (List Char) :=
  optional (do pure [← charIf fun c => c == '+' || c == '-'])

def exponent : Reading (List Char) := do
  let e ← charIf fun c => c == 'e' || c == 'E'
  let s ← sign
  pure (e :: (s ++ (← someDigits isDigit)))

def wholePart : Reading (List Char) := do
  match ← peek? with
  | some '0' => do
    char '0'
    pure ['0']
  | _ => someDigits isDigit

def hexNumber : Reading (List Char) := do
  char '0'
  let x ← charIf fun c => c == 'x' || c == 'X'
  pure ('0' :: x :: (← someDigits isHexDigit))

def decimalNumber : Reading (List Char) :=
  orElse (do
    let whole ← wholePart
    char '.'
    let fraction ← digits
    pure (whole ++ '.' :: (fraction ++ (← optional exponent))))
  (orElse (do
    char '.'
    let fraction ← someDigits isDigit
    pure ('.' :: (fraction ++ (← optional exponent))))
  (do
    let whole ← wholePart
    pure (whole ++ (← optional exponent))))

def literalWord (w : String) : Reading (List Char) := do
  word w.toList
  pure w.toList

def number : Reading (List Char) :=
  named .number (do
    let s ← sign
    pure (s ++ (← orElse hexNumber (orElse decimalNumber
      (orElse (literalWord "Infinity") (literalWord "NaN"))))))

/-! Values -/

mutual
def value : Nat → Reading Tree
  | 0 => fail
  | fuel + 1 =>
    orElse (named .null (do word "null".toList; pure .null))
    (orElse (named .boolean (orElse (do word "true".toList; pure (.bool true))
      (do word "false".toList; pure (.bool false))))
    (orElse (do pure (.string (← string)))
    (orElse (do pure (.number (← number)))
    (orElse (named .object (object fuel)) (named .array (array fuel))))))

def array : Nat → Reading Tree
  | 0 => fail
  | fuel + 1 => do
    char '['
    skip
    orElse (do char ']'; pure (.array []))
      (do
        let first ← value fuel
        let rest ← moreItems fuel
        skip
        orElse (char ',') (pure ())
        skip
        char ']'
        pure (.array (first :: rest)))

/-- Further items, each after a comma; a comma with no item behind it is left alone. -/
def moreItems : Nat → Reading (List Tree)
  | 0 => pure []
  | fuel + 1 =>
    orElse (do
      skip
      char ','
      skip
      let item ← value fuel
      pure (item :: (← moreItems fuel))) (pure [])

def object : Nat → Reading Tree
  | 0 => fail
  | fuel + 1 => do
    char '\x7b'
    skip
    orElse (do char '\x7d'; pure (.object []))
      (do
        let first ← member fuel
        let rest ← moreMembers fuel
        skip
        orElse (char ',') (pure ())
        skip
        char '\x7d'
        pure (.object (first :: rest)))

def member : Nat → Reading (List Piece × Tree)
  | 0 => fail
  | fuel + 1 => do
    let k ← key
    skip
    char ':'
    skip
    pure (k, ← value fuel)

def moreMembers : Nat → Reading (List (List Piece × Tree))
  | 0 => pure []
  | fuel + 1 =>
    orElse (do
      skip
      char ','
      skip
      let m ← member fuel
      pure (m :: (← moreMembers fuel))) (pure [])
end

def wholeText : Reading Tree := do
  skip
  let text ← get
  let tree ← value (4 * text.length + 4)
  skip
  named .endOfText (do if (← get).isEmpty then pure () else fail)
  pure tree

/-- The tree of a text, or the furthest attempts at one. -/
def Tree.parse (text : List Char) : Except Attempts Tree :=
  match ((wholeText text).run.run ⟨text.length, []⟩) with
  | (some (tree, _), _) => .ok tree
  | (none, attempts) => .error attempts

end Json5
end PagedList
