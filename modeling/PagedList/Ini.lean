import PagedList.Text.Blank
import PagedList.Text.Digit
import PagedList.Value

/-! Sections of keys and values. A key goes up to the next equals sign or colon, even over line
ends; a value goes to the end of its line; a backslash begins an escape in either. A comment or a
header begins its line: behind a blank there, anything is a key. -/
namespace PagedList
namespace Ini

inductive Error where
  /-- A key, a section name or a quoted value does not end. -/
  | endedEarly
  /-- A comment behind something else on its line. -/
  | inlineComment
  | missingKey
  /-- Four digits that stand for no character, or that are broken off before this character. -/
  | badEscape (last : Char) (rest : List Char)
  deriving DecidableEq, Repr

structure Rest where
  text : List Char
  lineStart : Bool

def Rest.after (c : Char) (text : List Char) : Rest := ⟨text, c == '\n'⟩

def isLineEnd (c : Char) : Bool := c == '\n' || c == '\r'

def isSpace (c : Char) : Bool := c == ' ' || c == '\t'

/-- Passes over line ends, and over blanks that do not begin a line. -/
def skipLines : List Char → Bool → Rest
  | [], lineStart => ⟨[], lineStart⟩
  | c :: rest, lineStart =>
    if isLineEnd c || (!lineStart && isSpace c) then skipLines rest (c == '\n')
    else ⟨c :: rest, lineStart⟩

def skipComment (text : List Char) : List Char := (text.dropWhile (· != '\n')).drop 1

def escaped (c : Char) : Char :=
  if c = '0' then '\x00'
  else if c = 'a' then '\x07'
  else if c = 'b' then '\x08'
  else if c = 't' then '\t'
  else if c = 'r' then '\r'
  else if c = 'n' then '\n'
  else c

/-- The next `n` characters, with a line end in place of an escaped one; no other escape is let
through. -/
def readCode (n : Nat) (text code : List Char) : Except Error (List Char × List Char) :=
  match n, text with
  | 0, text => .ok (code.reverse, text)
  | _ + 1, [] => .error .endedEarly
  | n + 1, '\\' :: rest =>
    match rest with
    | [] => .error .endedEarly
    | '\n' :: rest => readCode n rest ('\n' :: code)
    | c :: rest => .error (.badEscape c rest)
  | n + 1, c :: rest => readCode n rest (c :: code)

/-- The character with a code of four digits, of which the first may be a sign. -/
def charOfCode? (code : List Char) : Option Char :=
  let digits := match code with
    | '+' :: rest => rest
    | code => code
  if digits.all Text.isHexDigit then
    let n := Text.baseValue 16 digits
    if n.isValidChar then some (Char.ofNat n) else none
  else none

/-- Reads up to one of some characters, which is left. Where the text may end as well, `atEnd`
holds. -/
def readUntil (stop : Char → Bool) (atEnd : Bool) :
    Nat → List Char → Except Error (List Char × List Char)
  | 0, text => .ok ([], text)
  | _ + 1, [] => if atEnd then .ok ([], []) else .error .endedEarly
  | fuel + 1, c :: rest =>
    if stop c then .ok ([], c :: rest)
    else if c = '\\' then
      match rest with
      | [] => if atEnd then .ok (['\\'], []) else .error .endedEarly
      | '\n' :: rest => readUntil stop atEnd fuel rest
      | 'x' :: rest => do
        let (code, rest) ← readCode 4 rest []
        match charOfCode? code with
        | none => .error (.badEscape (code.getLastD '\n') rest)
        | some c =>
          let (cs, rest) ← readUntil stop atEnd fuel rest
          .ok (c :: cs, rest)
      | e :: rest => do
        let (cs, rest) ← readUntil stop atEnd fuel rest
        .ok (escaped e :: cs, rest)
    else do
      let (cs, rest) ← readUntil stop atEnd fuel rest
      .ok (c :: cs, rest)

def readPart (stop : Char → Bool) (atEnd : Bool) (text : List Char) :
    Except Error (List Char × List Char) :=
  readUntil stop atEnd (text.length + 1) text

/-- A value: quoted parts one directly after the other, and then the rest of the line. Blanks at
its ends are dropped, but not those between a quoted part and what follows it. -/
def readValue : Nat → Bool → List Char → Except Error (List Char × List Char)
  | 0, _, text => .ok ([], text)
  | _, _, [] => .ok ([], [])
  | fuel + 1, isFirst, c :: text =>
    if c = '"' ∨ c = '\'' then do
      let (quoted, rest) ← readPart (· == c) false text
      let (more, rest) ← readValue fuel false (rest.drop 1)
      .ok (quoted ++ more, rest)
    else do
      let (line, rest) ← readPart isLineEnd true (c :: text)
      .ok (if isFirst then Text.trim line else Text.trimEnd line, rest)

structure Section where
  name : Option String
  entries : List (String × String)

def addEntry (sections : List Section) (key value : List Char) : List Section :=
  match sections with
  | [] => []
  | s :: rest => { s with entries := s.entries ++ [(String.ofList key, String.ofList value)] } :: rest

def readKey (text : List Char) : Except Error (List Char × List Char) := do
  let (key, rest) ← readPart (fun c => c == '=' || c == ':') false text
  .ok (Text.trim key, rest)

/-- Reads sections, the latest of them first. Behind a blank at the beginning of a line a key is
passed over if it is none. -/
def readSections : Nat → Rest → List Char → List Section → Except Error (List Section)
  | 0, _, _, sections => .ok sections
  | fuel + 1, r, key, sections =>
    let r := skipLines r.text r.lineStart
    match r.text with
    | [] => .ok sections
    | c :: text =>
      if isSpace c then
        match readKey text with
        | .ok (key, rest) => readSections fuel ⟨rest, false⟩ key sections
        | .error (.badEscape last rest) => readSections fuel (Rest.after last rest) key sections
        | .error _ => .ok sections
      else if c = ';' ∨ c = '#' then
        if r.lineStart then readSections fuel ⟨skipComment text, true⟩ key sections
        else .error .inlineComment
      else if c = '[' then do
        let (name, rest) ← readPart (· == ']') false text
        let name := String.ofList (Text.trim name)
        readSections fuel ⟨rest.drop 1, false⟩ key (⟨some name, []⟩ :: sections)
      else if c = '=' ∨ c = ':' then
        if key.isEmpty then .error .missingKey
        else do
          let text := text.dropWhile fun c => Text.isBlank c && !isLineEnd c
          let (value, rest) ← readValue (text.length + 1) true text
          readSections fuel ⟨rest, false⟩ [] (addEntry sections key value)
      else do
        let (key, rest) ← readKey (c :: text)
        readSections fuel ⟨rest, false⟩ key sections

def fieldsOf (s : Section) : List (String × Value) := s.entries.map fun (k, v) => (k, .string v)

/-- The sections of a text as objects within an object, and what stands before them beside them.
Of two sections with the same name only the later one counts. -/
def parse (text : String) : Except Error Value := do
  let cs := text.toList
  let sections ← readSections (2 * cs.length + 2) ⟨cs, true⟩ [] [⟨none, []⟩]
  .ok (.ofFields (sections.reverse.flatMap fun s =>
    match s.name with
    | none => fieldsOf s
    | some name => [(name, .ofFields (fieldsOf s))]))

end Ini
end PagedList
