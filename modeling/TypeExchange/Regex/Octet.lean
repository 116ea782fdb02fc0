import TypeExchange.Regex.Interval

/-! Code points by the octets that encode them. -/
namespace TypeExchange

structure OctetRange where
  first : UInt8
  last : UInt8
  deriving DecidableEq, Repr

namespace Interval

/-- Parts of an interval, in order, each of which lies in one block of every given size or is made
of whole blocks of it. The sizes ascend, each a multiple of the one before. -/
def alignedParts : List Nat → Interval → List Interval
  | [], i => [i]
  | size :: sizes, i =>
    if i.first / size = i.last / size then alignedParts sizes i
    else
      let start := (i.first + size - 1) / size * size
      let head := if i.first = start then [] else [⟨i.first, start - 1⟩]
      if start / size = i.last / size ∨ (i.last + 1) % size = 0 then
        head ++ alignedParts sizes ⟨start, i.last⟩
      else
        let tail := i.last / size * size
        head ++ alignedParts sizes ⟨start, tail - 1⟩ ++ [⟨tail, i.last⟩]

/-- The code points that are encoded in one, two, three and four octets. -/
def encoded : List Interval :=
  [⟨0, 0x7f⟩, ⟨0x80, 0x7ff⟩, ⟨0x800, 0xd7ff⟩, ⟨0xe000, 0xffff⟩, ⟨0x10000, 0x10ffff⟩]

def meet? (i j : Interval) : Option Interval :=
  let first := max i.first j.first
  let last := min i.last j.last
  if first ≤ last then some ⟨first, last⟩ else none

def octetsOf (n : Nat) : List UInt8 := String.utf8EncodeChar (Char.ofNat n)

/-- The ranges that the octets of the members run through, where each does so on its own. -/
def octetRanges (i : Interval) : List OctetRange :=
  List.zipWith OctetRange.mk (octetsOf i.first) (octetsOf i.last)

/-- Sequences of ranges of octets that together encode the interval. -/
def octetSequences (i : Interval) : List (List OctetRange) :=
  (encoded.filterMap i.meet?).flatMap fun part =>
    if part.last < 0x80 then [part.octetRanges]
    else (alignedParts [0x40, 0x1000, 0x40000] part).map octetRanges

end Interval
end TypeExchange
