/-! Text from bytes that may be no text: what cannot be decoded is replaced. -/
namespace PagedList
namespace Text

/-- The bounds of the byte behind a first byte, and how many more bytes follow it. -/
def continuation? (b : UInt8) : Option (UInt8 × UInt8 × Nat) :=
  if 0xC2 ≤ b ∧ b ≤ 0xDF then some (0x80, 0xBF, 0)
  else if b = 0xE0 then some (0xA0, 0xBF, 1)
  else if b = 0xED then some (0x80, 0x9F, 1)
  else if 0xE1 ≤ b ∧ b ≤ 0xEF then some (0x80, 0xBF, 1)
  else if b = 0xF0 then some (0x90, 0xBF, 2)
  else if b = 0xF4 then some (0x80, 0x8F, 2)
  else if 0xF1 ≤ b ∧ b ≤ 0xF3 then some (0x80, 0xBF, 2)
  else none

def leadBits (b : UInt8) : Nat :=
  if b < 0xE0 then b.toNat - 0xC0 else if b < 0xF0 then b.toNat - 0xE0 else b.toNat - 0xF0

/-- Inside a character: its bits so far, the bounds of the next byte, and how many follow that. -/
structure Pending where
  bits : Nat
  low : UInt8
  high : UInt8
  more : Nat

def replacement : Char := '\uFFFD'

/-- The characters that a byte outside of any other character begins. -/
def beginChar (b : UInt8) : List Char × Option Pending :=
  if b < 0x80 then ([Char.ofNat b.toNat], none)
  else
    match continuation? b with
    | some (low, high, more) => ([], some ⟨leadBits b, low, high, more⟩)
    | none => ([replacement], none)

def decodeFrom : Option Pending → List UInt8 → List Char
  | none, [] => []
  | some _, [] => [replacement]
  | none, b :: rest =>
    let (cs, pending) := beginChar b
    cs ++ decodeFrom pending rest
  | some p, b :: rest =>
    if p.low ≤ b ∧ b ≤ p.high then
      let bits := p.bits * 64 + (b.toNat - 0x80)
      if p.more = 0 then Char.ofNat bits :: decodeFrom none rest
      else decodeFrom (some ⟨bits, 0x80, 0xBF, p.more - 1⟩) rest
    else
      let (cs, pending) := beginChar b
      replacement :: cs ++ decodeFrom pending rest

/-- The text of some bytes. The longest beginning of a character that breaks off is replaced as
a whole. -/
def decodeLossy (bytes : ByteArray) : String := String.ofList (decodeFrom none bytes.toList)

end Text
end PagedList
