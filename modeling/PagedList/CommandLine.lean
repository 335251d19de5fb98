import PagedList.FilterSet
import PagedList.Json.Reader
import PagedList.Number.Integer
import PagedList.Text.Blank

/-! The command line: options with their values, read from left to right. The value of an option
is looked at only when the next option begins or the line ends, so that an unknown word right
behind it is complained about first. -/
namespace PagedList
namespace CommandLine

inductive OutputFormat where
  /-- One line per loaded page plus totals. -/
  | summary
  /-- The final list as a JSON array. -/
  | json
  deriving DecidableEq, Repr

inductive Key where
  | fixture
  | limit
  | filter
  | maxPages
  | latency
  | output
  deriving DecidableEq, Repr

inductive Switch where
  | help
  | version
  deriving DecidableEq, Repr

inductive FilterError where
  | noSeparator (raw : String)
  | noKey (raw : String)
  deriving DecidableEq, Repr

def FilterError.message : FilterError → String
  | .noSeparator raw => "expected KEY=VALUE, got \x60" ++ raw ++ "\x60"
  | .noKey raw => "missing filter key in \x60" ++ raw ++ "\x60"

inductive ValueError where
  | emptyPath
  | unknownFormat (name : String)
  | number (error : IntegerError)
  | filter (error : FilterError)
  deriving DecidableEq, Repr

inductive Stop where
  /-- The help was asked for, in its long or its short form. -/
  | help (long : Bool)
  | version
  | unknown (word : String)
  /-- An option with nothing behind it. -/
  | missingValue (key : Key)
  | invalidValue (key : Key) (error : ValueError)
  /-- Only filters may be given more than once. -/
  | repeated (key : Key)
  /-- A switch takes no value. -/
  | unwantedValue (switch : Switch)
  deriving DecidableEq, Repr

structure Arguments where
  fixture : Option String
  limit : Option Nat
  filters : List (String × Value)
  maxPages : Option Nat
  latencyMs : Option Nat
  output : Option OutputFormat

namespace Arguments

def blank : Arguments := ⟨none, none, [], none, none, none⟩

/-- Without anything said, a page takes no time. -/
def latency (a : Arguments) : Nat := a.latencyMs.getD 0

def outputFormat (a : Arguments) : OutputFormat := a.output.getD .summary

/-- The filters of the command line; a later one for the same key wins. -/
def filterSet (a : Arguments) : FilterSet := FilterSet.ofList a.filters

def isTaken (a : Arguments) : Key → Bool
  | .fixture => a.fixture.isSome
  | .limit => a.limit.isSome
  | .filter => false
  | .maxPages => a.maxPages.isSome
  | .latency => a.latencyMs.isSome
  | .output => a.output.isSome

end Arguments

def splitPair (text : List Char) : Option (List Char × List Char) :=
  match text.dropWhile (· != '=') with
  | [] => none
  | _ :: value => some (text.takeWhile (· != '='), value)

/-- The value of a filter: a JSON value if it is the text of one, and else the text itself. -/
def filterValue (text : List Char) : Value :=
  match Json.parse (String.ofList text) with
  | .ok v => v
  | .error _ => .string (String.ofList text)

/-- A filter as `KEY=VALUE`, without the blanks around its key. -/
def parseFilter (raw : String) : Except FilterError (String × Value) :=
  match splitPair raw.toList with
  | none => .error (.noSeparator raw)
  | some (key, value) =>
    match Text.trim key with
    | [] => .error (.noKey raw)
    | key => .ok (String.ofList key, filterValue value)

def parseCount (text : String) : Except ValueError Nat :=
  (Integer.readCount Integer.maxCount text.toList).mapError .number

def parseFormat (text : String) : Except ValueError OutputFormat :=
  if text = "summary" then .ok .summary
  else if text = "json" then .ok .json
  else .error (.unknownFormat text)

def parsePath (text : String) : Except ValueError String :=
  if text.isEmpty then .error .emptyPath else .ok text

def Arguments.set (a : Arguments) (key : Key) (text : String) : Except ValueError Arguments :=
  match key with
  | .fixture => do .ok { a with fixture := some (← parsePath text) }
  | .limit => do .ok { a with limit := some (← parseCount text) }
  | .filter => do
    let f ← (parseFilter text).mapError .filter
    .ok { a with filters := a.filters ++ [f] }
  | .maxPages => do .ok { a with maxPages := some (← parseCount text) }
  | .latency => do .ok { a with latencyMs := some (← parseCount text) }
  | .output => do .ok { a with output := some (← parseFormat text) }

abbrev Name := Key ⊕ Switch

def longName? (name : String) : Option Name :=
  match name with
  | "fixture" => some (.inl .fixture)
  | "limit" => some (.inl .limit)
  | "filter" => some (.inl .filter)
  | "max-pages" => some (.inl .maxPages)
  | "latency-ms" => some (.inl .latency)
  | "output" => some (.inl .output)
  | "help" => some (.inr .help)
  | "version" => some (.inr .version)
  | _ => none

def shortName? (letter : Char) : Option Name :=
  match letter with
  | 'f' => some (.inl .fixture)
  | 'l' => some (.inl .limit)
  | 'o' => some (.inl .output)
  | 'h' => some (.inr .help)
  | 'V' => some (.inr .version)
  | _ => none

inductive Word where
  /-- Two dashes alone, behind which no option follows. -/
  | separator
  | long (name : String) (value : Option String)
  | short (letter : Char) (rest : List Char)
  | plain

def classify (word : String) : Word :=
  match word.toList with
  | ['-', '-'] => .separator
  | '-' :: '-' :: text =>
    match splitPair text with
    | some (name, value) => .long (String.ofList name) (some (String.ofList value))
    | none => .long (String.ofList text) none
  | '-' :: letter :: rest => .short letter rest
  | _ => .plain

def attachedValue : List Char → Option String
  | [] => none
  | '=' :: value => some (String.ofList value)
  | value => some (String.ofList value)

/-- Where reading stands: the options that are settled, one whose value is still to be looked at
or still to come, and whether the separator was seen. -/
structure Scan where
  settled : Arguments
  pending : Option (Key × Option String)
  separated : Bool

namespace Scan

def start : Scan := ⟨Arguments.blank, none, false⟩

def give (a : Arguments) (key : Key) (text : String) : Except Stop Arguments :=
  if a.isTaken key then .error (.repeated key)
  else (a.set key text).mapError (.invalidValue key)

def settle (s : Scan) : Except Stop Arguments :=
  match s.pending with
  | none => .ok s.settled
  | some (key, none) => .error (.missingValue key)
  | some (key, some text) => give s.settled key text

def beginKey (s : Scan) (key : Key) (value : Option String) : Except Stop Scan := do
  let settled ← s.settle
  match value with
  | some text => .ok { s with settled := ← give settled key text, pending := none }
  | none => .ok { s with settled, pending := some (key, none) }

def obey (s : Scan) (long : Bool) : Switch → Except Stop Scan
  | .help => do
    let _ ← s.settle
    .error (.help long)
  | .version => do
    let _ ← s.settle
    .error .version

def step (s : Scan) (word : String) : Except Stop Scan :=
  if s.separated then .error (.unknown word)
  else
    match classify word with
    | .separator => .ok { s with separated := true }
    | .long name value =>
      match longName? name, value with
      | none, _ => .error (.unknown word)
      | some (.inl key), value => s.beginKey key value
      | some (.inr switch), some _ => .error (.unwantedValue switch)
      | some (.inr switch), none => s.obey true switch
    | .short letter rest =>
      match shortName? letter with
      | none => .error (.unknown word)
      | some (.inl key) => s.beginKey key (attachedValue rest)
      | some (.inr switch) => s.obey false switch
    | .plain =>
      match s.pending with
      | some (key, none) => .ok { s with pending := some (key, some word) }
      | _ => .error (.unknown word)

end Scan

def parse (words : List String) : Except Stop Arguments := do
  let s ← words.foldlM Scan.step Scan.start
  s.settle

end CommandLine
end PagedList
