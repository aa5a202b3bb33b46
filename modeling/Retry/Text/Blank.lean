/-!
# Character classes and blanks

Classes of characters are given by ranges of code points.  Two sets of blank
characters are in use: mode names are trimmed of every blank, numbers only of
Unicode white space, which leaves out the four control characters that separate
records.
-/

namespace Retry
namespace Text

/-- Whether a character lies in one of the ranges of code points. -/
def inRanges
    (ranges : List (Nat × Nat))
    (c : Char) : Bool :=
  ranges.any fun range => range.1 ≤ c.toNat && c.toNat ≤ range.2

/-- The ranges of Unicode white space. -/
def whiteSpaceRanges : List (Nat × Nat) :=
  [(0x9, 0xd), (0x20, 0x20), (0x85, 0x85), (0xa0, 0xa0), (0x1680, 0x1680),
    (0x2000, 0x200a), (0x2028, 0x2029), (0x202f, 0x202f), (0x205f, 0x205f),
    (0x3000, 0x3000)]

/-- Unicode white space. -/
def isWhiteSpace (c : Char) : Bool :=
  inRanges whiteSpaceRanges c

/-- White space, or one of the control characters that separate files, groups,
records and units. -/
def isBlank (c : Char) : Bool :=
  isWhiteSpace c || inRanges [(0x1c, 0x1f)] c

/-- A text without the characters of a class at its two ends. -/
def trim
    (isTrimmed : Char → Bool)
    (chars : List Char) : List Char :=
  ((chars.dropWhile isTrimmed).reverse.dropWhile isTrimmed).reverse

end Text
end Retry
