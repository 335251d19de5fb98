/-! Text laid out in lines of a bounded width. -/
namespace PagedList
namespace Text

/-- Characters that are not parted, and how many blanks follow them if their line goes on. -/
structure Word where
  text : String
  blanks : Nat

def spaces (n : Nat) : String := String.ofList (List.replicate n ' ')

def wordsOf (s : String) : List Word := (s.splitOn " ").map fun w => ⟨w, 1⟩

/-- Lines from here on, behind what the current one holds already and the blanks after it. A word
that would go beyond the width begins a new line. -/
def fillLines (width : Nat) (line : String) (blanks : Nat) : List Word → List String
  | [] => [line]
  | w :: rest =>
    if width < line.length + blanks + w.text.length then
      line :: fillLines width w.text w.blanks rest
    else fillLines width (line ++ spaces blanks ++ w.text) w.blanks rest

/-- Words in lines, each as full as the width allows; a word wider than that has its own. -/
def wrap (width : Nat) : List Word → List String
  | [] => []
  | w :: rest => fillLines width w.text w.blanks rest

def unwrapped (words : List Word) : List String :=
  wrap (words.foldr (fun w n => w.text.length + w.blanks + n) 0) words

end Text
end PagedList
