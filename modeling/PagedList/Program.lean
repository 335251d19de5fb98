import PagedList.CommandLine
import PagedList.CommandLine.Help
import PagedList.Fixture
import PagedList.Folders
import PagedList.LogFilter
import PagedList.Settings.Sources
import PagedList.Walk

/-! The whole program: it goes through the records of a file page by page and prints what it
loads. -/
namespace PagedList
namespace Program

/-- What the program finds when it is started. -/
structure World where
  words : List String
  vars : Variables
  files : FileTree
  /-- The names that lead to the folder it is started in. -/
  here : List String
  /-- The home folder, if it is known otherwise than by a variable. -/
  home : Option String

inductive Failure where
  /-- There is no place for the log, or no sense in what it should hold. -/
  | log
  /-- What the log should hold cannot be taken apart. -/
  | crash
  | usage (stop : CommandLine.Stop)
  | settings (error : Settings.Error)
  | zeroLimit
  | noFixture
  | fixture (error : Fixture.FileError)
  | load (logPath : String) (error : LoadError)

def Failure.chain : Failure → List String
  | .log | .crash | .usage _ => []
  | .settings e => [e.message]
  | .zeroLimit => ["--limit must be greater than zero"]
  | .noFixture => ["no fixture given; pass --fixture or set \x60fixture\x60 in the config file"]
  | .fixture e => e.chain
  | .load logPath e => ["see " ++ logPath ++ " for details", e.message]

def Failure.exitCode : Failure → Nat
  | .usage _ => 2
  | .crash => 101
  | _ => 1

inductive Ending where
  /-- With an answer about the program itself. -/
  | about (text : String)
  /-- With what was printed and perhaps a failure. -/
  | ran (output : String) (failure : Option Failure)

namespace Ending

def output : Ending → String
  | .about text => text
  | .ran output _ => output

def chain : Ending → List String
  | .ran _ (some f) => f.chain
  | _ => []

def exitCode : Ending → Nat
  | .ran _ (some f) => f.exitCode
  | _ => 0

/-- The exit code if nothing can be printed. Nobody minds that about the program itself. -/
def exitCodeWithoutOutput : Ending → Nat
  | .about _ => 0
  | .ran output failure =>
    if output.isEmpty then (Ending.ran output failure).exitCode else 1

end Ending

def openLog (w : World) : Except Failure FileTree :=
  let folder := Folders.data w.vars w.home
  match w.files.createFolders w.here folder with
  | .error _ => .error .log
  | .ok files =>
    match files.write w.here folder Folders.logName ByteArray.empty with
    | .error _ => .error .log
    | .ok files =>
      match LogFilter.check (LogFilter.ofVariables w.vars) with
      | .ok _ => .ok files
      | .error .unreadable => .error .log
      | .error .splitCharacter => .error .crash

structure Plan where
  records : List Record
  arguments : CommandLine.Arguments
  settings : ListSettings
  logPath : String

/-- What the command line, the settings and the files come to. -/
def plan (w : World) (files : FileTree) (arguments : CommandLine.Arguments) :
    Except Failure Plan := do
  let configDir := Folders.config w.vars w.home
  let dataDir := Folders.data w.vars w.home
  let settings ← (Settings.load files w.here configDir dataDir w.vars).mapError .settings
  if arguments.limit = some 0 then .error .zeroLimit
  match arguments.fixture <|> settings.fixture with
  | none => .error .noFixture
  | some path =>
    let records ← (Fixture.load files w.here path).mapError .fixture
    .ok {
      records, arguments
      settings := { settings.list with limit := arguments.limit.getD settings.list.limit }
      logPath := joinPath dataDir Folders.logName }

def Plan.start (p : Plan) : Walk :=
  Walk.start (Loader.ofRecords p.records p.arguments.latency) p.settings p.arguments.filterSet

def lines (ls : List String) : String := String.join (ls.map (· ++ "\n"))

def Plan.pageLine? (p : Plan) (w : Walk) : Option String :=
  match p.arguments.outputFormat with
  | .summary => some w.pageLine
  | .json => none

def Plan.endLine? (p : Plan) (w : Walk) : Option String :=
  match p.arguments.outputFormat with
  | .summary => w.endLine?
  | .json => some (Json.pretty (.array (w.state.list.map Record.document)))

/-- How a walk ends that has come to its last page. -/
def Plan.finish (p : Plan) (w : Walk) : Except Failure (Option String) :=
  match w.state.lastError with
  | some e => .error (.load p.logPath e)
  | none => .ok (p.endLine? w)

/-- The whole walk, of at most `pageLimit` further pages. -/
def Plan.run (p : Plan) (pageLimit : Nat) : Ending :=
  let walks := Walk.pagesFrom p.arguments.maxPages pageLimit p.start
  let printed := walks.filterMap p.pageLine?
  match p.finish (walks.getLastD p.start) with
  | .error f => .ran (lines printed) (some f)
  | .ok last => .ran (lines (printed ++ last.toList)) none

/-- What the program comes to before it loads the first page: an early end, or a plan. -/
def prepare (w : World) : Except Ending Plan := do
  let fail (f : Failure) : Ending := .ran "" (some f)
  let files ← (openLog w).mapError fail
  match CommandLine.parse w.words with
  | .error (.help long) =>
    .error (.about (CommandLine.help long (CommandLine.Screen.ofVariables w.vars)))
  | .error .version =>
    .error (.about (CommandLine.version (Folders.config w.vars w.home)
      (Folders.data w.vars w.home)))
  | .error stop => .error (fail (.usage stop))
  | .ok arguments => (plan w files arguments).mapError fail

def run (w : World) (pageLimit : Nat) : Ending :=
  match prepare w with
  | .error ending => ending
  | .ok p => p.run pageLimit

end Program
end PagedList
