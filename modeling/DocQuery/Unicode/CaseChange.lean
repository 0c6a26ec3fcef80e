import DocQuery.Unicode.GeneralCategory
import DocQuery.Unicode.LetterCase

/-!
# Characters that change with case

The characters that become others when a text is put into one case or is folded.
Mostly these are the letters with a partner; the exceptions are characters that
become several, and title-case letters, which every other case changes.
-/

namespace DocQuery

namespace Unicode

def codes (list : List Nat) : CharSet :=
  CharSet.ofRanges (list.map fun code => (code, code))

def titlecaseLetters : CharSet :=
  inCategories ["lt"]

def changesLowercased : CharSet :=
  CharSet.union (CharSet.single 0x130) (codes ((lowerRuns.flatMap CaseRun.pairs).map (·.1)))

def expandingLetters : CharSet :=
  CharSet.ofText
    "131 149 1F0 587 1E96-1E9A 1F50 1F52 1F54 1F56 1FB2 1FB4 1FB6-1FB7 1FC2 1FC4 1FC6-1FC7 1FD2
    1FD6-1FD7 1FE2 1FE4 1FE6-1FE7 1FF2 1FF4 1FF6-1FF7 FB00-FB04 FB13-FB17"

/-- The characters that upper case changes: the letters that differ from another
one in case and are not capital, and those that become several. -/
def changesUppercased : CharSet :=
  let paired := codes (foldPairs.flatMap fun pair => [pair.1, pair.2])
  [CharSet.diff paired changesLowercased, titlecaseLetters, expandingLetters].foldr
    CharSet.union []

def smallGeorgian : CharSet :=
  [(0x10D0, 0x10FA), (0x10FD, 0x10FF)]

/-- The characters that title case changes: those that upper case changes, apart
from letters that are in title case or stay small, and the capital digraphs. -/
def changesTitlecased : CharSet :=
  CharSet.union (codes [0x1C4, 0x1C7, 0x1CA, 0x1F1])
    (CharSet.diff changesUppercased (CharSet.union titlecaseLetters smallGeorgian))

def changesCasemapped : CharSet :=
  CharSet.union changesLowercased (CharSet.union changesUppercased changesTitlecased)

def expandingFolds : CharSet :=
  CharSet.ofText
    "DF 130 149 587 1E9A 1F80-1F87 1F90-1F97 1FA0-1FA7 1FB2-1FB4 1FB7 1FC2-1FC4 1FC7 1FF2-1FF4
    1FF7 FB00-FB05 FB13-FB17"

/-- The characters that folding changes: those that fold to another one, apart from
three that are equivalent to what they fold to, and those that fold to several. -/
def changesCasefolded : CharSet :=
  CharSet.union expandingFolds
    (CharSet.diff (codes (foldPairs.map (·.1))) (codes [0x1FBE, 0x1FD3, 0x1FE3]))

end Unicode

end DocQuery
