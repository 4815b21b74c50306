import ApiLens.Path.Basic

/-!
Percent-encoding: a byte outside of what a part of a URI may hold is written as `%` and two digits.
-/

namespace ApiLens

namespace Percent

def hexDigit (n : Nat) : Char :=
  if n < 10 then Char.ofNat ('0'.toNat + n) else Char.ofNat ('A'.toNat + n - 10)

def hexValue? (c : Char) : Option Nat :=
  if c.isDigit then some (c.toNat - '0'.toNat)
  else if 'a' ≤ c ∧ c ≤ 'f' then some (c.toNat - 'a'.toNat + 10)
  else if 'A' ≤ c ∧ c ≤ 'F' then some (c.toNat - 'A'.toNat + 10)
  else none

def byte (b : UInt8) : List Char :=
  ['%', hexDigit (b.toNat / 16), hexDigit (b.toNat % 16)]

/-- Controls and everything beyond ASCII. -/
def isControl (c : Char) : Bool := c.toNat < 0x20 || 0x7e < c.toNat

def isFragment (c : Char) : Bool := isControl c || [' ', '"', '<', '>', '\x60'].contains c

def isQuery (c : Char) : Bool := isControl c || [' ', '"', '#', '<', '>'].contains c

def isSpecialQuery (c : Char) : Bool := isQuery c || c == '\''

def isPath (c : Char) : Bool := isFragment c || ['#', '?', '\x7b', '\x7d'].contains c

/-- What is encoded in a single component of a path. -/
def isComponent (c : Char) : Bool := isPath c || ['/', '%', '\\'].contains c

def isUserinfo (c : Char) : Bool :=
  isPath c || ['/', ':', ';', '=', '@', '[', '\\', ']', '^', '|'].contains c

def char (reserved : Char → Bool) (c : Char) : List Char :=
  if reserved c then (String.utf8EncodeChar c).flatMap byte else [c]

def encode (reserved : Char → Bool) (cs : List Char) : String :=
  String.ofList (cs.flatMap (char reserved))

def encodeBytes (reserved : Char → Bool) (bytes : List UInt8) : String :=
  String.ofList (bytes.flatMap fun b =>
    if 128 ≤ b || reserved (Char.ofNat b.toNat) then byte b else [Char.ofNat b.toNat])

/-- The bytes of a text; a `%` without two digits stands for itself. -/
def decode : List Char → List UInt8
  | [] => []
  | '%' :: a :: b :: rest =>
    match hexValue? a, hexValue? b with
    | some x, some y => UInt8.ofNat (16 * x + y) :: decode rest
    | _, _ => '%'.toUInt8 :: decode (a :: b :: rest)
  | c :: rest => String.utf8EncodeChar c ++ decode rest

end Percent

def Segment.percentEncoded : Segment → String
  | .text s _ => Percent.encode Percent.isComponent s.toList
  | .raw bytes _ _ => Percent.encodeBytes Percent.isComponent bytes

end ApiLens
