import PagedList.Yaml.Indicator
import PagedList.Yaml.Node

/-! Nodes from tokens, with the nodes that have names, and the value of a text. -/
namespace PagedList
namespace Yaml

/-- What is left of the tokens, what handles of tags stand for, and what was given a name. -/
structure Names where
  tokens : List Token
  handles : List (String × String)
  /-- The number of the node that a name stands for. -/
  numbers : List (String × Nat)
  /-- The nodes with numbers that are finished. -/
  nodes : List (Nat × Node)
  next : Nat

abbrev Building := StateT Names Option

def peek : Building (Option Token) := do pure (← get).tokens.head?

def skip : Building Unit := modify fun s => { s with tokens := s.tokens.drop 1 }

def isNext (ts : List Token) : Building Bool := do
  pure (match ← peek with
    | some t => ts.contains t
    | none => false)

def register (name : String) : Building Nat := do
  let s ← get
  set { s with numbers := (name, s.next) :: s.numbers, next := s.next + 1 }
  pure s.next

/-- The node of a name, which is a misfit while the node is not finished. -/
def resolve (name : String) : Building Node := do
  let s ← get
  match s.numbers.lookup name with
  | some n => pure ((s.nodes.lookup n).getD .misfit)
  | none => failure

def resolveTag (handle suffix : String) : Building (String × String) := do
  let s ← get
  if handle = "!!" then pure ((s.handles.lookup "!!").getD commonTags, suffix)
  else
    match s.handles.lookup handle with
    | some meaning => pure (meaning, suffix)
    | none => if isClosedHandle handle.toList then failure else pure (handle, suffix)

/-- The number of the next node if it is given a name, and its tag. -/
structure Properties where
  number : Option Nat
  tag : Option (String × String)

def anchor? : Building (Option Nat) := do
  match ← peek with
  | some (.anchor name) => do
    skip
    pure (some (← register name))
  | _ => pure none

def tag? : Building (Option (String × String)) := do
  match ← peek with
  | some (.tag handle suffix) => do
    skip
    pure (some (← resolveTag handle suffix))
  | _ => pure none

def properties : Building Properties := do
  match ← anchor? with
  | some n => do pure ⟨some n, ← tag?⟩
  | none =>
    match ← tag? with
    | some t => do pure ⟨← anchor?, some t⟩
    | none => pure ⟨none, none⟩

def Properties.keep (p : Properties) (n : Node) : Building Node := do
  match p.number with
  | some number => modify fun s => { s with nodes := (number, n) :: s.nodes }
  | none => pure ()
  pure n

def ofOption {α : Type} (o : Option α) : Building α := fun s => o.map (·, s)

mutual
/-- A node. Only outside of brackets it may be a collection by indentation, and only as the value
of a pair a sequence in the column of the pair. -/
def node (inBlock inPair : Bool) : Nat → Building Node
  | 0 => failure
  | fuel + 1 => do
    match ← peek with
    | some (.alias name) => do
      skip
      resolve name
    | _ => do
      let p ← properties
      match ← peek with
      | some (.scalar isPlain text) => do
        skip
        p.keep (.scalar (.ofText isPlain p.tag text))
      | some .bracketOpen => do
        skip
        p.keep (.sequence (← flowItems true fuel))
      | some .braceOpen => do
        skip
        p.keep (← ofOption (Node.mapping? (← flowPairs true fuel)))
      | some .sequenceStart =>
        if inBlock then do
          skip
          p.keep (.sequence (← blockItems fuel))
        else p.nothing
      | some .mappingStart =>
        if inBlock then do
          skip
          p.keep (← ofOption (Node.mapping? (← blockPairs fuel)))
        else p.nothing
      | some .dash =>
        if inPair then do p.keep (.sequence (← plainItems fuel)) else p.nothing
      | _ => p.nothing

/-- The node of properties with no text behind them. -/
def Properties.nothing (p : Properties) : Building Node :=
  if p.number.isSome || p.tag.isSome then p.keep (.scalar (.ofText true p.tag "")) else failure

def nodeUnless (stops : List Token) (inPair : Bool) : Nat → Building Node
  | 0 => failure
  | fuel + 1 => do
    if ← isNext stops then pure .null else node true inPair fuel

def blockItems : Nat → Building (List Node)
  | 0 => failure
  | fuel + 1 => do
    match ← peek with
    | some .blockEnd => do
      skip
      pure []
    | some .dash => do
      skip
      let n ← nodeUnless [.dash, .blockEnd] false fuel
      pure (n :: (← blockItems fuel))
    | _ => failure

def plainItems : Nat → Building (List Node)
  | 0 => failure
  | fuel + 1 => do
    match ← peek with
    | some .dash => do
      skip
      let n ← nodeUnless [.dash, .key, .value, .blockEnd] false fuel
      pure (n :: (← plainItems fuel))
    | _ => pure []

def blockPairs : Nat → Building (List Node)
  | 0 => failure
  | fuel + 1 => do
    match ← peek with
    | some .blockEnd => do
      skip
      pure []
    | some .key => do
      skip
      let k ← nodeUnless [.key, .value, .blockEnd] true fuel
      let v ← blockValue fuel
      pure (k :: v :: (← blockPairs fuel))
    | some .value => do
      let v ← blockValue fuel
      pure (.null :: v :: (← blockPairs fuel))
    | _ => failure

def blockValue : Nat → Building Node
  | 0 => failure
  | fuel + 1 => do
    match ← peek with
    | some .value => do
      skip
      nodeUnless [.key, .value, .blockEnd] true fuel
    | _ => pure .null

def flowItems (isFirst : Bool) : Nat → Building (List Node)
  | 0 => failure
  | fuel + 1 => do
    match ← peek with
    | some .bracketClose => do
      skip
      pure []
    | some .comma => if isFirst then failure else do
      skip
      flowItem fuel
    | _ => if isFirst then flowItem fuel else failure

/-- An item between brackets and the items behind it. An explicit key begins a pair. -/
def flowItem : Nat → Building (List Node)
  | 0 => failure
  | fuel + 1 => do
    match ← peek with
    | some .bracketClose => do
      skip
      pure []
    | some .key => do
      skip
      let k ← if ← isNext [.value, .comma, .bracketClose] then do
          skip
          pure .null
        else node false false fuel
      let v ← flowValue [.comma, .bracketClose] fuel
      let n ← ofOption (Node.mapping? [k, v])
      pure (n :: (← flowItems false fuel))
    | _ => do
      let n ← node false false fuel
      pure (n :: (← flowItems false fuel))

def flowValue (stops : List Token) : Nat → Building Node
  | 0 => failure
  | fuel + 1 => do
    match ← peek with
    | some .value => do
      skip
      if ← isNext stops then pure .null else node false false fuel
    | _ => pure .null

def flowPairs (isFirst : Bool) : Nat → Building (List Node)
  | 0 => failure
  | fuel + 1 => do
    match ← peek with
    | some .braceClose => do
      skip
      pure []
    | some .comma => if isFirst then flowPair fuel else do
      skip
      flowPair fuel
    | _ => if isFirst then flowPair fuel else failure

/-- A pair between braces and the pairs behind it. -/
def flowPair : Nat → Building (List Node)
  | 0 => failure
  | fuel + 1 => do
    match ← peek with
    | some .braceClose => do
      skip
      pure []
    | some .key => do
      skip
      let k ← if ← isNext [.value, .comma, .braceClose] then pure .null
        else node false false fuel
      let v ← flowValue [.comma, .braceClose] fuel
      pure (k :: v :: (← flowPairs false fuel))
    | some .value => do
      let v ← flowValue [.comma, .braceClose] fuel
      pure (.null :: v :: (← flowPairs false fuel))
    | _ => do
      let k ← node false false fuel
      pure (k :: .null :: (← flowPairs false fuel))
end

/-! Documents -/

/-- Passes over the lines before a document. Only the last of them says something about handles,
and the version is named at most once. -/
def directives : Nat → Bool → Building Unit
  | 0, _ => pure ()
  | fuel + 1, versioned => do
    match ← peek with
    | some .version => do
      if versioned then failure
      modify fun s => { s with handles := [] }
      skip
      directives fuel true
    | some (.handle name meaning) => do
      modify fun s => { s with handles := [(name, meaning)] }
      skip
      directives fuel versioned
    | _ => pure ()

def isDirective : Option Token → Bool
  | some .version | some (.handle ..) => true
  | _ => false

def skipDocumentEnds : Nat → Building Unit
  | 0 => pure ()
  | fuel + 1 => do
    if ← isNext [.documentEnd] then do
      skip
      skipDocumentEnds fuel

/-- A document; `mayBegin` holds where it needs no mark before it. -/
def document (mayBegin : Bool) (fuel : Nat) : Building Node := do
  let t ← peek
  if isDirective t || t == some .documentStart || !mayBegin then do
    directives fuel false
    if !(← isNext [.documentStart]) then failure
    skip
    let t ← peek
    if isDirective t || t.isNone || t == some .documentStart || t == some .documentEnd then
      pure .null
    else node true false fuel
  else node true false fuel

/-- The documents of a text. Lines before a document stand only behind the mark that ends the one
before. -/
def documents : Nat → Bool → Building (List Node)
  | 0, _ => failure
  | fuel + 1, mayBegin => do
    let steps := 4 * (← get).tokens.length + 4
    skipDocumentEnds steps
    if (← peek).isNone then pure []
    else do
      let n ← document mayBegin steps
      if ← isNext [.documentEnd] then do
        skip
        modify fun s => { s with handles := [], numbers := [] }
        pure (n :: (← documents fuel true))
      else if isDirective (← peek) then failure
      else do
        modify fun s => { s with handles := [], numbers := [] }
        pure (n :: (← documents fuel false))

/-- The value of a text with one document. A text without any is an empty object. -/
def parse? (text : String) : Option Value := do
  let tokens ← tokens? text
  let (documents, _) ← (documents (tokens.length + 1) true).run ⟨tokens, [], [], [], 1⟩
  match documents with
  | [] => some (.object [])
  | [root] => root.toValue?
  | _ => none

end Yaml
end PagedList
