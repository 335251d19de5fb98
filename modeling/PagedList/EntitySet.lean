import Std.Data.HashMap
import PagedList.Record

/-! An ordered collection of entities without repeated identifiers.
New entities are appended; an entity whose identifier is already there takes the place of the
old one. An index gives the position of every identifier. -/
namespace PagedList

structure EntitySet (ε : Type) [Entity ε] where
  entities : Array ε
  positions : Std.HashMap (Entity.Id ε) Nat

inductive Upsert where
  | inserted (position : Nat)
  | updated (position : Nat)
  deriving DecidableEq, Repr

namespace EntitySet

variable {ε : Type} [Entity ε]

def empty : EntitySet ε := ⟨#[], ∅⟩

instance : EmptyCollection (EntitySet ε) := ⟨empty⟩

/-- Puts an entity in the place of the one with its identifier, or at the end. -/
def upsert (s : EntitySet ε) (e : ε) : EntitySet ε × Upsert :=
  match s.positions[Entity.id e]? with
  | some i => ({ s with entities := s.entities.setIfInBounds i e }, .updated i)
  | none =>
    let i := s.entities.size
    (⟨s.entities.push e, s.positions.insert (Entity.id e) i⟩, .inserted i)

/-- Puts in all entities in order and counts those that were new. -/
def merge (s : EntitySet ε) : List ε → EntitySet ε × Nat
  | [] => (s, 0)
  | e :: rest =>
    let (s, outcome) := s.upsert e
    let (s, count) := s.merge rest
    match outcome with
    | .inserted _ => (s, count + 1)
    | .updated _ => (s, count)

def extend (s : EntitySet ε) (es : List ε) : EntitySet ε :=
  es.foldl (fun s e => (s.upsert e).1) s

def ofList (es : List ε) : EntitySet ε := empty.extend es

/-- Puts an entity in the place of the one with its identifier; answers whether there was one. -/
def replace (s : EntitySet ε) (e : ε) : EntitySet ε × Bool :=
  match s.positions[Entity.id e]? with
  | some i => ({ s with entities := s.entities.setIfInBounds i e }, true)
  | none => (s, false)

def clear (s : EntitySet ε) : EntitySet ε := { s with entities := #[], positions := ∅ }

def contains (s : EntitySet ε) (id : Entity.Id ε) : Bool := s.positions.contains id

def position? (s : EntitySet ε) (id : Entity.Id ε) : Option Nat := s.positions[id]?

def get? (s : EntitySet ε) (id : Entity.Id ε) : Option ε :=
  match s.positions[id]? with
  | some i => s.entities[i]?
  | none => none

def toList (s : EntitySet ε) : List ε := s.entities.toList

def size (s : EntitySet ε) : Nat := s.entities.size

def isEmpty (s : EntitySet ε) : Bool := s.entities.isEmpty

def ids (s : EntitySet ε) : List (Entity.Id ε) := s.toList.map Entity.id

/-- The entity at a position, or the size that the position exceeds. -/
def at? (s : EntitySet ε) (i : Nat) : Except Nat ε :=
  if h : i < s.entities.size then .ok s.entities[i] else .error s.entities.size

def samePositions (p q : Std.HashMap (Entity.Id ε) Nat) : Bool :=
  p.size == q.size && p.toList.all fun (id, i) => q[id]? == some i

def same [BEq ε] (s t : EntitySet ε) : Bool :=
  s.entities == t.entities && samePositions s.positions t.positions

instance [BEq ε] : BEq (EntitySet ε) := ⟨same⟩

def describe (s : EntitySet ε) : String := "EntitySet[" ++ toString s.size ++ " entities]"

end EntitySet
end PagedList
