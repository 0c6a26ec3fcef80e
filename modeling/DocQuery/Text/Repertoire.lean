import DocQuery.Unicode.Property

/-!
# The repertoire of texts

Classes of patterns go by version 16.0 of the Unicode standard.  Letter case,
names of groups and quotation go by version 17.0: what it adds is listed here,
beside the one letter that is no longer cased.
-/

namespace DocQuery

namespace Text

/-! ## Letter case -/

def lowerRuns : List Unicode.CaseRun :=
  Unicode.lowerRuns ++
    [⟨0xA7CE, 0xA7CE, 1, 0xA7CF⟩, ⟨0xA7D2, 0xA7D2, 1, 0xA7D3⟩, ⟨0xA7D4, 0xA7D4, 1, 0xA7D5⟩,
      ⟨0x16EA0, 0x16EB8, 1, 0x16EBB⟩]

def lowerCode (code : Nat) : Nat :=
  (Unicode.partner? lowerRuns code).getD code

def newCased : CharSet := [
    (0xA7CE, 0xA7CF), (0xA7D2, 0xA7D2), (0xA7D4, 0xA7D4), (0xA7F1, 0xA7F1),
    (0x16EA0, 0x16EB8), (0x16EBB, 0x16ED3)]

def isCased (code : Nat) : Bool :=
  (Unicode.cased.has code && code != 0x295) || newCased.has code

def newIgnorable : CharSet := [
    (0x1ACF, 0x1ADD), (0x1AE0, 0x1AEB), (0xA7F1, 0xA7F1), (0x10EC5, 0x10EC5),
    (0x10EFA, 0x10EFB), (0x11B60, 0x11B60), (0x11B62, 0x11B64), (0x11B66, 0x11B66),
    (0x11DD9, 0x11DD9), (0x16FF2, 0x16FF3), (0x1E6E3, 0x1E6E3), (0x1E6E6, 0x1E6E6),
    (0x1E6EE, 0x1E6EF), (0x1E6F5, 0x1E6F5), (0x1E6FF, 0x1E6FF)]

/-- Whether a code point stands between letters of a word without being one. -/
def isCaseIgnorable (code : Nat) : Bool :=
  Unicode.caseIgnorable.has code || newIgnorable.has code

/-! ## Names -/

def letters : CharSet :=
  CharSet.union Unicode.alphabetic
    (CharSet.ofText
      "88F C5C CDC A7CE-A7CF A7D2 A7D4 A7F1 10940-10959 10EC5-10EC7 10EFA-10EFB 11B60-11B67
      11DB0-11DDB 16EA0-16EB8 16EBB-16ED3 16FF2-16FF6 187F8-187FF 18D09-18D1E 18D80-18DF2
      1E6C0-1E6DE 1E6E0-1E6F5 1E6FE-1E6FF 2B73A-2B73F 2CEA2-2CEAD 323B0-33479")

def lettersAndDigits : CharSet :=
  CharSet.union (CharSet.union letters (Unicode.inCategories ["nd", "nl", "no"]))
    [(0x11DE0, 0x11DE9)]

/-! ## Pictures -/

def assigned : CharSet :=
  CharSet.union Unicode.assigned
    (CharSet.ofText
      "88F C5C CDC 1ACF-1ADD 1AE0-1AEB 20C1 2B96 A7CE-A7CF A7D2 A7D4 A7F1 FBC3-FBD2 FD90-FD91
      FDC8-FDCE 10940-10959 10EC5-10EC7 10ED0-10ED8 10EFA-10EFB 11B60-11B67 11DB0-11DDB
      11DE0-11DE9 16EA0-16EB8 16EBB-16ED3 16FF2-16FF6 187F8-187FF 18D09-18D1E 18D80-18DF2
      1CCFA-1CCFC 1CEBA-1CED0 1CEE0-1CEF0 1E6C0-1E6DE 1E6E0-1E6F5 1E6FE-1E6FF 1F6D8 1F777-1F77A
      1F8D0-1F8D8 1FA54-1FA57 1FA8A 1FA8E 1FAC8 1FACD 1FAEA 1FAEF 1FBFA 2B73A-2B73F 2CEA2-2CEAD
      323B0-33479")

/-- The characters without a picture of their own: those that are unassigned,
controls, private, separators other than the space, and fillers. -/
def unseen : CharSet :=
  CharSet.diff
    (CharSet.union (CharSet.complement assigned)
      (CharSet.union (Unicode.inCategories ["cc", "cf", "co", "zl", "zp", "zs"])
        (Unicode.listed "otherdefaultignorablecodepoint")))
    (CharSet.single ' '.toNat)

/-- The marks that are drawn over the character before them.  Two marks of
half width stand beside it. -/
def overlaid : CharSet :=
  CharSet.diff
    (CharSet.union Unicode.graphemeExtend
      (CharSet.ofText
        "1ACF-1ADD 1AE0-1AEB 10EFA-10EFB 11B60 11B62-11B64 11B66 1E6E3 1E6E6 1E6EE-1E6EF 1E6F5"))
    [(0xFF9E, 0xFF9F)]

end Text

end DocQuery
