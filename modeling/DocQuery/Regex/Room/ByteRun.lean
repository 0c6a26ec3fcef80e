import DocQuery.Unicode.CharSet

/-!
# Byte runs

The characters of a set as sequences of byte ranges: a character is in the set
when the bytes of its UTF-8 lie in the ranges of one sequence, place by place.
-/

namespace DocQuery

-- Powers are those of the core library, whatever algebra is imported beside them.
attribute [local instance (high)] instPowNat

namespace Regex

abbrev ByteRun := List (Nat × Nat)

namespace ByteRun

/-- The runs of a range of code points that are written with `more` bytes after the
first, in ascending order.  A byte counts by the bits of the code point that it holds. -/
def ofBits : Nat → Nat → Nat → List ByteRun
  | 0, first, last => [[(first, last)]]
  | more + 1, first, last =>
      let block := 64 ^ (more + 1)
      let under (lead first last : Nat) : List ByteRun :=
        (ofBits more first last).map ((lead, lead) :: ·)
      if first / block = last / block then
        under (first / block) (first % block) (last % block)
      else
        let start := (first + (block - 1)) / block
        let stop := (last + 1) / block
        (if start * block = first then []
          else under (first / block) (first % block) (block - 1))
        ++ (if start < stop then
            [(start, stop - 1) :: List.replicate (more + 1) (0, 63)]
          else [])
        ++ (if stop * block = last + 1 then [] else under (last / block) 0 (last % block))

/-- Lengths of UTF-8: the code points that have one, how many bytes follow the first,
and the mark of the first byte.  Surrogates are not written. -/
def encodings : List ((Nat × Nat) × Nat × Nat) :=
  [((0, 0x7F), 0, 0), ((0x80, 0x7FF), 1, 0xC0), ((0x800, 0xD7FF), 2, 0xE0),
    ((0xE000, 0xFFFF), 2, 0xE0), ((0x10000, 0x10FFFF), 3, 0xF0)]

def mark (bits : Nat) (range : Nat × Nat) : Nat × Nat :=
  (bits + range.1, bits + range.2)

def marked (lead : Nat) : ByteRun → ByteRun
  | [] => []
  | first :: more => mark lead first :: more.map (mark 0x80)

def ofSet (set : CharSet) : List ByteRun :=
  set.flatMap fun range =>
    encodings.flatMap fun (bounds, more, lead) =>
      let first := max range.1 bounds.1
      let last := min range.2 bounds.2
      if first ≤ last then (ofBits more first last).map (marked lead) else []

end ByteRun

end Regex

end DocQuery
