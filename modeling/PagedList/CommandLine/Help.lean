import PagedList.Folders
import PagedList.Number.Integer
import PagedList.Text.Wrapped

/-! What the program says about itself. The help comes in a short form, where the names of an
option and what it is for stand beside each other if there is room, and in a long form, where they
never do. -/
namespace PagedList
namespace CommandLine

open Text (wordsOf wrap spaces)

structure Screen where
  /-- The columns of a line. -/
  width : Nat
  /-- Whether names and headings are set off from other text. -/
  styled : Bool

namespace Screen

/-- The screen that variables speak of: by itself it has a hundred columns and no styles. -/
def ofVariables (vars : Variables) : Screen where
  width :=
    match (vars.lookup "COLUMNS").map fun s => Integer.readCount Integer.maxCount s.toList with
    | some (.ok n) => n
    | _ => 100
  styled := (vars.lookup "NO_COLOR").getD "" = "" && (vars.lookup "CLICOLOR_FORCE").getD "0" != "0"

def strong (screen : Screen) (s : String) : String :=
  if screen.styled then "\x1b[1m" ++ s ++ "\x1b[0m" else s

def heading (screen : Screen) (s : String) : String :=
  if screen.styled then "\x1b[1m\x1b[4m" ++ s ++ "\x1b[0m" else s

def plain : Screen := ⟨0, false⟩

end Screen

structure OptionHelp where
  letter : Option Char := none
  name : String
  /-- What its value is called. -/
  value : Option String := none
  purpose : String
  /-- What the long form says instead. -/
  longPurpose : String := purpose
  /-- The values it may have, with what they mean. -/
  choices : List (String × String) := []
  /-- The value it has if it is not given. -/
  standard : Option String := none

def optionHelp : List OptionHelp :=
  [{ letter := some 'f', name := "fixture", value := some "PATH"
     purpose := "JSON file with the records to page through (overrides the config file)" },
    { letter := some 'l', name := "limit", value := some "COUNT"
      purpose := "Page size (overrides the config file)" },
    { name := "filter", value := some "KEY=VALUE"
      purpose := "Filter as KEY=VALUE; VALUE is parsed as JSON when possible" },
    { name := "max-pages", value := some "COUNT", purpose := "Stop after this many pages" },
    { name := "latency-ms", value := some "MILLIS"
      purpose := "Simulated latency of every page load"
      standard := some "0" },
    { letter := some 'o', name := "output", value := some "OUTPUT"
      purpose := ""
      choices := [("summary", "One line per loaded page plus totals"),
        ("json", "The final list as a JSON array")]
      standard := some "summary" },
    { letter := some 'h', name := "help"
      purpose := "Print help (see more with '--help')"
      longPurpose := "Print help (see a summary with '-h')" },
    { letter := some 'V', name := "version", purpose := "Print version" }]

def maxLength (texts : List String) : Nat := (texts.map (·.length)).foldl max 0

def indented (n : Nat) (lines : List String) : List String := lines.map (spaces n ++ ·)

namespace OptionHelp

def names (screen : Screen) (o : OptionHelp) : String :=
  (match o.letter with
    | some c => screen.strong (String.ofList ['-', c]) ++ ", "
    | none => spaces 4) ++
    screen.strong ("--" ++ o.name) ++ (o.value.map fun v => " <" ++ v ++ ">").getD ""

def nameLength (o : OptionHelp) : Nat := (o.names Screen.plain).length

def standardText (o : OptionHelp) : List String :=
  o.standard.toList.map fun value => "[default: " ++ value ++ "]"

def summary (o : OptionHelp) : String :=
  let choices := match o.choices with
    | [] => []
    | cs => ["[possible values: " ++ String.intercalate ", " (cs.map (·.1)) ++ "]"]
  String.intercalate " " ((if o.purpose = "" then [] else [o.purpose]) ++ o.standardText ++ choices)

/-- A value that an option may have, in lines of a width; with no room for it the line is as long
as it has to be. -/
def choiceLines (screen : Screen) (width namesWidth : Nat) (choice : String × String) :
    List String :=
  let (name, meaning) := choice
  let words := ⟨name, 0⟩ :: ⟨":", namesWidth - name.length + 1⟩ :: wordsOf meaning
  match if width = 0 then Text.unwrapped words else wrap width words with
  | [] => []
  | first :: rest =>
    let behindName := String.ofList (first.toList.drop name.length)
    ("- " ++ screen.strong name ++ behindName) :: indented 2 rest

/-- What is said about an option below its names in lines of a width, with an empty line between
two matters. -/
def longLines (screen : Screen) (width : Nat) (o : OptionHelp) : List String :=
  let purpose := if o.longPurpose = "" then [] else [wrap width (wordsOf o.longPurpose)]
  let choices := match o.choices with
    | [] => []
    | cs =>
      ["Possible values:" ::
        cs.flatMap (choiceLines screen (width - 2) (maxLength (cs.map (·.1))))]
  let standard := o.standardText.map fun s => wrap width (wordsOf s)
  List.intercalate [""] (purpose ++ choices ++ standard)

end OptionHelp

def belowIndent : Nat := 10

def namesWidth : Nat := (optionHelp.map OptionHelp.nameLength).foldl max 0

def besideIndent : Nat := namesWidth + 4

/-- Whether in the short form text stands below the names: where twelve columns besides them are
more than two fifths of the width but no more than the width, and some text does not fit into what
is left. -/
def Screen.isNarrow (screen : Screen) : Bool :=
  let taken := namesWidth + 12
  taken ≤ screen.width && 4 * screen.width < 10 * taken &&
    optionHelp.any fun o => screen.width - taken < o.summary.length

namespace OptionHelp

def below (screen : Screen) (o : OptionHelp) (lines : List String) : String :=
  String.intercalate "\n" (("  " ++ o.names screen) :: indented belowIndent lines)

def beside (screen : Screen) (o : OptionHelp) (lines : List String) : String :=
  "  " ++ o.names screen ++ spaces (namesWidth - o.nameLength + 2) ++
    String.intercalate ("\n" ++ spaces besideIndent) lines

end OptionHelp

def longOptions (screen : Screen) : String :=
  String.intercalate "\n\n" (optionHelp.map fun o =>
    o.below screen (o.longLines screen (screen.width - belowIndent)))

def shortOptions (screen : Screen) : String :=
  String.intercalate "\n" (optionHelp.map fun o =>
    let words := wordsOf o.summary
    if screen.isNarrow then o.below screen (wrap (screen.width - belowIndent) words)
    else o.beside screen (wrap (screen.width - besideIndent) words))

def help (long : Bool) (screen : Screen) : String :=
  let about := wrap screen.width
    (wordsOf "Incremental, de-duplicated list loading over offset-paginated APIs")
  String.intercalate "\n" about ++ "\n\n" ++ screen.heading "Usage:" ++ " " ++
    screen.strong Folders.programName ++ " [OPTIONS]\n\n" ++ screen.heading "Options:" ++ "\n" ++
    (if long then longOptions screen else shortOptions screen) ++ "\n"

def version (configDir dataDir : String) : String :=
  Folders.programName ++ " 0.1.0\n\nAuthors: \n\nConfig directory: " ++ configDir ++
    "\nData directory: " ++ dataDir ++ "\n"

end CommandLine
end PagedList
