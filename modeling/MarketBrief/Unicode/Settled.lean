import MarketBrief.Unicode.Letter
import MarketBrief.Unicode.Number

/-!
# Settled classes

Tokens, words and glued sentences are told by classes that stay one edition of the standard behind the tables, so
that a script which has just been added does not change how texts are taken apart. A newcomer of the latest edition
belongs to none of these classes, and one letter keeps the category that it had before.

* `isNewcomer`: the letters, marks and numbers that only the latest edition has;
* `isSettledLetter`, `isSettledNumber`, `isSettledDigit`, `isSettledSmallLetter`, `isSettledCapitalLetter`: the
  classes without them.
-/

namespace MarketBrief.Unicode

/-- The letters, marks and numbers that the latest edition added. -/
def newcomerRuns : List Run :=
  [⟨0x88F, 0x88F, 1⟩, ⟨0xC5C, 0xC5C, 1⟩, ⟨0xCDC, 0xCDC, 1⟩, ⟨0x1ACF, 0x1ADD, 1⟩, ⟨0x1AE0, 0x1AEB, 1⟩,
   ⟨0xA7CE, 0xA7CF, 1⟩, ⟨0xA7D2, 0xA7D4, 2⟩, ⟨0xA7F1, 0xA7F1, 1⟩, ⟨0x10940, 0x10959, 1⟩, ⟨0x10EC5, 0x10EC7, 1⟩,
   ⟨0x10EFA, 0x10EFB, 1⟩, ⟨0x11B60, 0x11B67, 1⟩, ⟨0x11DB0, 0x11DDB, 1⟩, ⟨0x11DE0, 0x11DE9, 1⟩,
   ⟨0x16EA0, 0x16EB8, 1⟩, ⟨0x16EBB, 0x16ED3, 1⟩, ⟨0x16FF2, 0x16FF6, 1⟩, ⟨0x187F8, 0x187FF, 1⟩,
   ⟨0x18D09, 0x18D1E, 1⟩, ⟨0x18D80, 0x18DF2, 1⟩, ⟨0x1E6C0, 0x1E6DE, 1⟩, ⟨0x1E6E0, 0x1E6F5, 1⟩,
   ⟨0x1E6FE, 0x1E6FF, 1⟩, ⟨0x2B73A, 0x2B73F, 1⟩, ⟨0x2CEA2, 0x2CEAD, 1⟩, ⟨0x323B0, 0x33479, 1⟩]

/-- A letter, mark or number of the latest edition alone. -/
def isNewcomer (c : Char) : Bool := covers newcomerRuns c.toNat

def isSettledLetter (c : Char) : Bool := isLetter c && !isNewcomer c

/-- A number of the settled editions, category N. -/
def isSettledNumber (c : Char) : Bool := isNumber c && !isNewcomer c

/-- A decimal digit of the settled editions, category Nd. -/
def isSettledDigit (c : Char) : Bool := isDecimalDigit c && !isNewcomer c

/-- A small letter of the settled editions. The reversed glottal stop was one of them; since then it has no case. -/
def isSettledSmallLetter (c : Char) : Bool := (isSmallLetter c && !isNewcomer c) || c == '\u0295'

/-- A capital letter of the settled editions. -/
def isSettledCapitalLetter (c : Char) : Bool := isCapitalLetter c && !isNewcomer c

end MarketBrief.Unicode
