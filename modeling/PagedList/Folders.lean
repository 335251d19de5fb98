import PagedList.Files

/-! Where the program keeps its files, as variables and the home folder say. -/
namespace PagedList

abbrev Variables := List (String × String)

namespace Folders

def programName : String := "listkeeper"

/-- The home folder, if a variable names it or it is known otherwise. -/
def home? (vars : Variables) (otherwise : Option String) : Option String :=
  match vars.lookup "HOME" with
  | some home => if home.isEmpty then otherwise else some home
  | none => otherwise

/-- A folder of the program: named by a variable of its own, else in the place that another
variable names by an absolute path, else at the usual place in the home folder, else here. -/
def find (vars : Variables) (home : Option String) (own place usual here : String) : String :=
  match vars.lookup own, home? vars home with
  | some folder, _ => folder
  | none, none => "./" ++ here
  | none, some home =>
    let base := match vars.lookup place with
      | some base => if base.startsWith "/" then base else joinPath home usual
      | none => joinPath home usual
    joinPath base programName

def data (vars : Variables) (home : Option String) : String :=
  find vars home "LISTKEEPER_DATA" "XDG_DATA_HOME" ".local/share" ".data"

def config (vars : Variables) (home : Option String) : String :=
  find vars home "LISTKEEPER_CONFIG" "XDG_CONFIG_HOME" ".config" ".config"

def logName : String := programName ++ ".log"

end Folders
end PagedList
