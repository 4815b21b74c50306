/-!
Characters that only set others apart.
-/

namespace ApiLens

/-- Spaces of any width. -/
def isSpace (c : Char) : Bool :=
  [' ', '\xa0', '\u1680', '\u202f', '\u205f', '\u3000'].contains c || ('\u2000' ≤ c && c ≤ '\u200a')

/-- Spaces, tabs and all that starts another line or page. -/
def isWhite (c : Char) : Bool :=
  isSpace c || ('\t' ≤ c && c ≤ '\r') || ['\x85', '\u2028', '\u2029'].contains c

/-- A text without blanks at its end. -/
def trimEnd (cs : List Char) : List Char := (cs.reverse.dropWhile isWhite).reverse

/-- A text without blanks at both ends. -/
def trim (cs : List Char) : List Char := trimEnd (cs.dropWhile isWhite)

end ApiLens
