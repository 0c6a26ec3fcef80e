import DocQuery.Text.Repertoire

/-!
# Lower case of texts

Letter by letter, with two rules that letters alone do not give: a capital I
with a dot becomes two characters, and a capital sigma takes its final form at
the end of a word.
-/

namespace DocQuery

namespace Text

def lowerChar (c : Char) : List Char :=
  if c = 'İ' then ['i', '\u0307'] else [Char.ofNat (lowerCode c.toNat)]

/-- Whether a cased character comes first, apart from those that words ignore. -/
def meetsLetter (cs : List Char) : Bool :=
  match cs.dropWhile fun c => isCaseIgnorable c.toNat with
  | [] => false
  | c :: _ => isCased c.toNat

/-- The lower case of a capital sigma between what comes before it, nearest
first, and what comes after it. -/
def lowerSigma (before after : List Char) : Char :=
  if meetsLetter before && !meetsLetter after then 'ς' else 'σ'

def lowerFrom (before : List Char) : List Char → List Char
  | [] => []
  | c :: rest =>
      (if c = 'Σ' then [lowerSigma before rest] else lowerChar c)
        ++ lowerFrom (c :: before) rest

def lowercase (cs : List Char) : List Char :=
  lowerFrom [] cs

def contains (needle : List Char) : List Char → Bool
  | [] => needle.isEmpty
  | c :: rest => needle.isPrefixOf (c :: rest) || contains needle rest

end Text

end DocQuery
