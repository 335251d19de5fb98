import PagedList.Service

/-! Games, a small kind of entity to try lists with, and those who keep them. -/
namespace PagedList

structure Game where
  id : Int64
  name : String
  deriving DecidableEq

instance : Entity Game where
  Id := Int64
  id := Game.id

namespace Game

def toValue (g : Game) : Value := .object [("id", .int g.id.toInt), ("name", .string g.name)]

def decodeId : Value → Except DecodeError Int64
  | .number (.integer n) =>
    if EntityId.fits n then .ok (Int64.ofInt n) else .error (.wrongValue (.integer n) .gameId)
  | v => .error (.wrongType v.found .gameId)

def decodeName : Value → Except DecodeError String
  | .string s => .ok s
  | v => .error (.wrongType v.found .string)

/-- A game may have no name. -/
def decode : Value → Except DecodeError Game
  | .object fields =>
    match KeyMap.lookup "id" fields with
    | none => .error (.missingField "id")
    | some id => do
      let id ← decodeId id
      let name ← (KeyMap.lookup "name" fields).mapM decodeName
      .ok ⟨id, name.getD ""⟩
  | v => .error (.wrongType v.found .game)

def named (id : Int64) (name : String) : Except CrudError Game :=
  if name.isEmpty then .error (.rejected "name is required") else .ok ⟨id, name⟩

def api (missing : List Int64) : CrudApi Game String String where
  create := named 1000
  edit := named
  delete id := if missing.contains id then .error (.notFound (toString id.toInt)) else .ok ()

end Game
end PagedList
