import DocQuery.Unicode.Property
import DocQuery.Unicode.Script

/-!
# Break classes

The classes by which texts are divided into characters as users see them, into
words and into sentences.  Nearly all of them follow from other properties.
-/

namespace DocQuery

namespace Unicode

def unite (sets : List CharSet) : CharSet :=
  sets.foldr CharSet.union []

/-! ## Clusters -/

def prependedLetters : CharSet :=
  CharSet.ofText "D4E 111C2-111C3 113D1 1193F 11941 11A3A 11A84-11A89 11D46 11F02"

/-- The characters that a cluster starts with although others follow it. -/
def clusterPrepend : CharSet :=
  CharSet.union (listed "prependedconcatenationmark") prependedLetters

def clusterExtend : CharSet :=
  CharSet.union graphemeExtend (listed "emojimodifier")

def clusterControl : CharSet :=
  let ignorable := CharSet.diff (listed "defaultignorablecodepoint") assigned
  CharSet.diff
    (CharSet.union (inCategories ["cc", "cf", "zl", "zp"]) ignorable)
    (unite [[(0x0A, 0x0A), (0x0D, 0x0D), (0x200C, 0x200D)], clusterPrepend, clusterExtend])

/-- The spacing marks that start a cluster of their own. -/
def separateMarks : CharSet :=
  CharSet.ofText
    "102B-102C 1038 1062-1064 1067-106D 1083 1087-108C 108F 109A-109C 1A61 1A63-1A64 AA7B AA7D
    11720-11721"

def clusterSpacing : CharSet :=
  CharSet.union [(0xE33, 0xE33), (0xEB3, 0xEB3)]
    (CharSet.diff (inCategories ["mc"]) (CharSet.union clusterExtend separateMarks))

def openSyllables : CharSet :=
  (List.range 399).map fun k => (0xAC00 + 28 * k, 0xAC00 + 28 * k)

def closedSyllables : CharSet :=
  (List.range 399).map fun k => (0xAC01 + 28 * k, 0xAC1B + 28 * k)

def graphemeBreak? (name : String) : Option CharSet :=
  match name with
  | "control" | "cn" => some clusterControl
  | "cr" => some (CharSet.single 0x0D)
  | "lf" => some (CharSet.single 0x0A)
  | "extend" | "ex" => some clusterExtend
  | "prepend" | "pp" => some clusterPrepend
  | "spacingmark" | "sm" => some clusterSpacing
  | "regionalindicator" | "ri" => some (listed "regionalindicator")
  | "zwj" => some (CharSet.single 0x200D)
  | "l" => some [(0x1100, 0x115F), (0xA960, 0xA97C)]
  | "v" =>
      some [(0x1160, 0x11A7), (0xD7B0, 0xD7C6), (0x16D63, 0x16D63), (0x16D67, 0x16D6A)]
  | "t" => some [(0x11A8, 0x11FF), (0xD7CB, 0xD7FB)]
  | "lv" => some openSyllables
  | "lvt" => some closedSyllables
  | _ => none

/-! ## Words -/

/-- The characters that numbers are made of and that are no part of a word. -/
def numberMarks : CharSet :=
  CharSet.union [(0x19DA, 0x19DA)]
    (CharSet.diff (listed "prependedconcatenationmark") (CharSet.single 0x70F))

def breakExtend : CharSet :=
  CharSet.union graphemeExtend (inCategories ["mc"])

/-- Marks that belong to words like letters. -/
def letterMarks : CharSet :=
  CharSet.ofText
    "B8 2C2-2C5 2D2-2D7 2DE-2DF 2E5-2EB 2ED 2EF-2FF 55A-55C 55E 58A 5F3 70F A708-A716 A720-A721
    A789-A78A AB5B"

/-- The characters of scripts whose words only a dictionary tells apart. -/
def wordlessScripts : CharSet :=
  CharSet.ofText
    "E01-E3A E40-E4E E81-E82 E84 E86-E8A E8C-EA3 EA5 EA7-EBD EC0-EC4 EC6 EC8-ECE EDC-EDF
    1000-103F 1050-108F 109A-109F 1780-17D3 17D7 17DC-17DD 1950-196D 1970-1974 1980-19AB
    19B0-19C9 19DE-19DF 1A20-1A5E 1A60-1A7C 1AA0-1AAD A9E0-A9EF A9FA-A9FE AA60-AAC2 AADB-AADF
    11700-1171A 1171D-1172B 1173A-1173B 1173F-11746"

def wordKatakana : CharSet :=
  CharSet.union ((script? "kana").getD [])
    (CharSet.ofText "3031-3035 309B-309C 30A0 30FC FF70")

def wordHebrew : CharSet :=
  CharSet.inter ((script? "hebr").getD []) (inCategories ["lo"])

def wordNumeric : CharSet :=
  unite [inCategories ["nd"], [(0x66B, 0x66B)], numberMarks]

def wordExtend : CharSet :=
  CharSet.union breakExtend (listed "emojimodifier")

/-- The letters of words, apart from those of classes of their own. -/
def wordLetters : CharSet :=
  CharSet.diff (CharSet.union alphabetic letterMarks)
    (unite [listed "ideographic", wordKatakana, wordlessScripts, (script? "hira").getD [],
      wordExtend, wordHebrew, wordNumeric])

def wordFormat : CharSet :=
  CharSet.diff (inCategories ["cf"])
    (unite [[(0x200B, 0x200D)], wordExtend, wordNumeric, wordLetters])

def wordBreak? (name : String) : Option CharSet :=
  match name with
  | "cr" => some (CharSet.single 0x0D)
  | "lf" => some (CharSet.single 0x0A)
  | "newline" | "nl" => some [(0x0B, 0x0C), (0x85, 0x85), (0x2028, 0x2029)]
  | "extend" => some wordExtend
  | "zwj" => some (CharSet.single 0x200D)
  | "format" | "fo" => some wordFormat
  | "regionalindicator" | "ri" => some (listed "regionalindicator")
  | "katakana" | "ka" => some wordKatakana
  | "hebrewletter" | "hl" => some wordHebrew
  | "aletter" | "le" => some wordLetters
  | "singlequote" | "sq" => some (CharSet.single 0x27)
  | "doublequote" | "dq" => some (CharSet.single 0x22)
  | "midnumlet" | "mb" => some (CharSet.ofText "2E 2018-2019 2024 FE52 FF07 FF0E")
  | "midletter" | "ml" => some (CharSet.ofText "3A B7 387 55F 5F4 2027 FE13 FE55 FF1A")
  | "midnum" | "mn" =>
      some (CharSet.ofText
        "2C 3B 37E 589 60C-60D 66C 7F8 2044 FE10 FE14 FE50 FE54 FF0C FF1B")
  | "numeric" | "nu" => some wordNumeric
  | "extendnumlet" | "ex" =>
      some (CharSet.union (inCategories ["pc"]) (CharSet.single 0x202F))
  | "wsegspace" => some (CharSet.diff (inCategories ["zs"]) (CharSet.ofText "A0 2007 202F"))
  | _ => none

/-! ## Sentences -/

def paragraphEnds : CharSet :=
  [(0x85, 0x85), (0x2028, 0x2029)]

/-- The full stops that also stand inside words. -/
def sentenceStops : CharSet :=
  CharSet.ofText "2E 2024 FE52 FF0E"

def sentenceEnds : CharSet :=
  CharSet.diff (listed "sentenceterminal") sentenceStops

def sentenceExtend : CharSet :=
  CharSet.union breakExtend (CharSet.single 0x200D)

def sentenceLower : CharSet :=
  CharSet.diff lowercase (CharSet.union [(0x10D0, 0x10FA), (0x10FD, 0x10FF)] graphemeExtend)

def sentenceUpper : CharSet :=
  CharSet.diff (CharSet.union (inCategories ["lt"]) uppercase)
    [(0x1C90, 0x1CBA), (0x1CBD, 0x1CBF)]

def sentenceNumeric : CharSet :=
  unite [inCategories ["nd"], [(0x66B, 0x66C)], numberMarks]

/-- The letters of sentences that are neither small nor capital. -/
def sentenceLetters : CharSet :=
  CharSet.diff (CharSet.union alphabetic [(0x5F3, 0x5F3), (0x70F, 0x70F)])
    (unite [sentenceLower, sentenceUpper, sentenceExtend])

def sentenceFormat : CharSet :=
  CharSet.diff (inCategories ["cf"])
    (unite [[(0x200C, 0x200D)], sentenceExtend, sentenceNumeric, sentenceLetters])

/-- The quotation marks that neither open nor close by their category. -/
def plainQuotes : CharSet :=
  CharSet.ofText "22 27 275B-2760 2E00-2E01 2E06-2E08 2E0B 1F676-1F678"

def sentenceBreak? (name : String) : Option CharSet :=
  match name with
  | "cr" => some (CharSet.single 0x0D)
  | "lf" => some (CharSet.single 0x0A)
  | "extend" | "ex" => some sentenceExtend
  | "sep" | "se" => some paragraphEnds
  | "format" | "fo" => some sentenceFormat
  | "sp" =>
      some (CharSet.diff (listed "whitespace")
        (unite [[(0x0A, 0x0A), (0x0D, 0x0D)], paragraphEnds]))
  | "lower" | "lo" => some sentenceLower
  | "upper" | "up" => some sentenceUpper
  | "oletter" | "le" => some sentenceLetters
  | "numeric" | "nu" => some sentenceNumeric
  | "aterm" | "at" => some sentenceStops
  | "scontinue" | "sc" =>
      some (CharSet.ofText
        "2C-2D 3A-3B 37E 55D 60C-60D 7F8 1802 1808 2013-2014 3001 FE10-FE11 FE13-FE14 FE31-FE32
        FE50-FE51 FE54-FE55 FE58 FE63 FF0C-FF0D FF1A-FF1B FF64")
  | "sterm" | "st" => some sentenceEnds
  | "close" | "cl" =>
      some (CharSet.diff (CharSet.union (inCategories ["ps", "pe", "pi", "pf"]) plainQuotes)
        (unite [sentenceStops, sentenceEnds]))
  | _ => none

end Unicode

end DocQuery
