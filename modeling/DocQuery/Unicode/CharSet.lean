import DocQuery.Text.Digits

/-!
# Sets of characters

Sets of code points as ranges in ascending order with gaps between them.  Sets
are closed under the Boolean operations, so that one list of ranges answers for
every class of a pattern.
-/

namespace DocQuery

/-- Ranges of code points, both ends included. -/
abbrev CharSet := List (Nat × Nat)

namespace CharSet

def top : Nat := 0x10FFFF

def has (set : CharSet) (code : Nat) : Bool :=
  set.any fun range => range.1 ≤ code && code ≤ range.2

def single (code : Nat) : CharSet :=
  [(code, code)]

def full : CharSet :=
  [(0, top)]

/-- Put a range before ascending ranges that start no earlier, joining it with
those that touch it. -/
def join (range : Nat × Nat) : CharSet → CharSet
  | [] => [range]
  | next :: rest =>
      if next.1 ≤ range.2 + 1 then join (range.1, max range.2 next.2) rest
      else range :: next :: rest

def ofRanges (ranges : List (Nat × Nat)) : CharSet :=
  (ranges.mergeSort fun a b => a.1 ≤ b.1).foldr join []

def union (a b : CharSet) : CharSet :=
  ofRanges (a ++ b)

/-- The gaps between ascending ranges, from a code point on. -/
def gapsFrom (start : Nat) : CharSet → CharSet
  | [] => if start ≤ top then [(start, top)] else []
  | range :: rest =>
      if start < range.1 then (start, range.1 - 1) :: gapsFrom (range.2 + 1) rest
      else gapsFrom (range.2 + 1) rest

def complement (set : CharSet) : CharSet :=
  gapsFrom 0 set

def inter (a b : CharSet) : CharSet :=
  complement (union (complement a) (complement b))

def diff (a b : CharSet) : CharSet :=
  inter a (complement b)

def symmDiff (a b : CharSet) : CharSet :=
  diff (union a b) (inter a b)

def withoutSurrogates (set : CharSet) : CharSet :=
  set.flatMap fun range =>
    (if range.1 < 0xD800 then [(range.1, min range.2 0xD7FF)] else [])
      ++ (if 0xDFFF < range.2 then [(max range.1 0xE000, range.2)] else [])

/-! ## Ranges in text -/

/-- Ranges read so far, newest first, and the two ends of the current one, once
they have digits. -/
structure RangeReader where
  done : List (Nat × Nat) := []
  first : Option Nat := none
  current : Option Nat := none

namespace RangeReader

def close (reader : RangeReader) : List (Nat × Nat) :=
  match reader.current with
  | some last => (reader.first.getD last, last) :: reader.done
  | none => reader.done

def step (reader : RangeReader) (c : Char) : RangeReader :=
  if c = ' ' || c = '\n' then { done := reader.close }
  else if c = '-' then { done := reader.done, first := reader.current }
  else { reader with current := some (16 * reader.current.getD 0 + (Text.hexValue? c).getD 0) }

end RangeReader

/-- The ranges that a text lists in hexadecimal with blanks between them, such as
`41-5A AA`. -/
def ofText (text : String) : CharSet :=
  (text.toList.foldl RangeReader.step {}).close.reverse

end CharSet

end DocQuery
