/-! Sets of code points, given as a list of closed ranges. -/
namespace PagedList
namespace Text

abbrev Ranges := List (Nat × Nat)

def Ranges.has (ranges : Ranges) (c : Char) : Bool :=
  ranges.any fun r => r.1 ≤ c.toNat && c.toNat ≤ r.2

end Text
end PagedList
