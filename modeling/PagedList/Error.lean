/-! What can go wrong when pages are loaded or entities are changed, and how it is said. -/
namespace PagedList

inductive LoadError where
  /-- The network failed. -/
  | transport (message : String)
  /-- The answer carried a status that is no success. -/
  | status (code : Nat) (message : String)
  /-- The answer could not be read as a page. -/
  | decode (message : String)
  /-- The request was given up before there was an answer. -/
  | cancelled
  deriving DecidableEq, Repr

def LoadError.message : LoadError → String
  | .transport m => "transport error: " ++ m
  | .status code m => "status " ++ toString code ++ ": " ++ m
  | .decode m => "decode error: " ++ m
  | .cancelled => "request cancelled"

inductive CrudError where
  /-- There is no such operation. -/
  | unsupported (operation : String)
  /-- The request was refused. -/
  | rejected (reason : String)
  /-- There is no such entity. -/
  | notFound (id : String)
  /-- The network failed. -/
  | transport (message : String)
  deriving DecidableEq, Repr

def CrudError.message : CrudError → String
  | .unsupported operation => operation ++ " is not supported"
  | .rejected reason => "request rejected: " ++ reason
  | .notFound id => "entity " ++ id ++ " not found"
  | .transport m => "transport error: " ++ m

end PagedList
