/-!
# Blanks and lines

The white space that separates documents in a text, which is that of the Unicode
standard and not only that of ASCII, and the division of a text into lines.
-/

namespace DocQuery

namespace Text

/-- White space. -/
def isBlank (c : Char) : Bool :=
  let code := c.toNat
  (0x09 ≤ code && code ≤ 0x0D) || code == 0x20 || code == 0x85 || code == 0xA0
    || code == 0x1680 || (0x2000 ≤ code && code ≤ 0x200A) || code == 0x2028
    || code == 0x2029 || code == 0x202F || code == 0x205F || code == 0x3000

def dropBlanks (cs : List Char) : List Char :=
  cs.dropWhile isBlank

def isBlankLine (cs : List Char) : Bool :=
  cs.all isBlank

/-- The lines of a text, given the mark that ends a line.  A return in front of the mark
belongs to the end of the line.  What follows the last mark is a line if it is not empty, and
a return at its end stays. -/
def splitLines {α : Type} [DecidableEq α] (mark ret : α) : List α → List (List α)
  | [] => []
  | c :: rest =>
      if c = mark then [] :: splitLines mark ret rest
      else if c = ret ∧ rest.head? = some mark then splitLines mark ret rest
      else
        match splitLines mark ret rest with
        | [] => [[c]]
        | line :: more => (c :: line) :: more

def lines (cs : List Char) : List (List Char) :=
  splitLines '\n' '\r' cs

end Text

end DocQuery
