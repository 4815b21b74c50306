import ApiLens.Json.Basic

/-!
Reading JSON text.

`Json.parse` answers the value of a text, or tells whether the text ended too early or holds something
that no JSON text has at that place. Containers nest at most `Json.depthLimit` deep. A repeated key
keeps the place of its first occurrence and the value of its last.
-/

namespace ApiLens.Json

inductive ReadError
  | endOfText
  | malformed
deriving DecidableEq, Repr

abbrev Scan (α : Type) := Except ReadError (α × List Char)

def depthLimit : Nat := 127

def isBlank (c : Char) : Bool :=
  c == ' ' || c == '\t' || c == '\n' || c == '\r'

def skipBlank (cs : List Char) : List Char :=
  cs.dropWhile isBlank

/-- The text must go on with `expected`, letter by letter. -/
def word (value : Json) : List Char → List Char → Scan Json
  | [], cs => .ok (value, cs)
  | _ :: _, [] => .error .endOfText
  | e :: es, c :: cs => if c = e then word value es cs else .error .malformed

section Numbers

def digitValue (c : Char) : Nat := c.toNat - '0'.toNat

/-- Appends digits to a significand while it stays below `2 ^ 64`; answers it, how many digits it took
and the digits left. -/
def absorb (significand taken : Nat) : List Char → Nat × Nat × List Char
  | [] => (significand, taken, [])
  | c :: cs =>
    let next := significand * 10 + digitValue c
    if fitsUnsigned 64 next then absorb next (taken + 1) cs else (significand, taken, c :: cs)

def isExponentMark (c : Char) : Bool := c == 'e' || c == 'E'

/-- Divides by the greatest power of ten until the exponent is within its range. -/
def divideDown : Nat → Binary64 → Nat → Option Binary64
  | 0, x, _ => some (.zero x.negative)
  | fuel + 1, x, e =>
    if e ≤ 308 then (Binary64.tenTo? e).bind x.div?
    else ((Binary64.tenTo? 308).bind x.div?).bind (divideDown fuel · (e - 308))

/-- The significand and the power of ten are rounded first, and their product or quotient again. -/
def floatOf (negative : Bool) (significand : Nat) (exponent : Int) : Except ReadError Binary64 :=
  let value? : Option Binary64 := do
    let s ← Binary64.ofNat? significand
    if s.isZero then return s
    match exponent with
    | .ofNat e   => if e ≤ 308 then (← Binary64.tenTo? e).mul? s else none
    | .negSucc e => divideDown 4 s (e + 1)
  match value? with
  | some x => .ok { x with negative }
  | none   => .error .malformed

/-- An optional exponent and the end of a float. -/
def exponentPart (negative : Bool) (significand : Nat) (exponent : Int) :
    List Char → Scan Json
  | [] => finish exponent []
  | c :: cs =>
    if isExponentMark c then
      match cs with
      | '+' :: cs => digits 1 cs
      | '-' :: cs => digits (-1) cs
      | cs => digits 1 cs
    else finish exponent (c :: cs)
where
  finish (exponent : Int) (rest : List Char) : Scan Json :=
    (floatOf negative significand exponent).map fun x => (num (.float x), rest)
  digits (sign : Int) (cs : List Char) : Scan Json :=
    match cs with
    | [] => .error .endOfText
    | c :: _ =>
      if c.isDigit then
        let value := (cs.takeWhile Char.isDigit).foldl (fun n c => n * 10 + digitValue c) 0
        finish (exponent + sign * value) (cs.dropWhile Char.isDigit)
      else .error .malformed

/-- A fraction after its point. Digits that no longer fit the significand are dropped. -/
def fractionPart (negative : Bool) (significand : Nat) (exponent : Int) (cs : List Char) : Scan Json :=
  match cs with
  | [] => .error .endOfText
  | c :: _ =>
    if c.isDigit then
      let (s, taken, _) := absorb significand 0 (cs.takeWhile Char.isDigit)
      exponentPart negative s (exponent - taken) (cs.dropWhile Char.isDigit)
    else .error .malformed

/-- What follows the digits of the whole part. -/
def afterWhole (negative : Bool) (digits rest : List Char) : Scan Json :=
  let (significand, _, excess) := absorb 0 0 digits
  match rest with
  | '.' :: cs => fractionPart negative significand excess.length cs
  | c :: _ =>
    if isExponentMark c then exponentPart negative significand excess.length rest
    else whole significand excess
  | [] => whole significand excess
where
  whole (significand : Nat) (excess : List Char) : Scan Json :=
    if !excess.isEmpty then (floatOf negative significand excess.length).map fun x => (num (.float x), rest)
    else if !negative then .ok (num (.int significand), rest)
    else if significand = 0 ∨ !fitsSigned 64 (-significand) then
      (floatOf true significand 0).map fun x => (num (.float x), rest)
    else .ok (num (.int (-significand)), rest)

/-- A number after its sign: no leading zero, and at least one digit. -/
def number (negative : Bool) : List Char → Scan Json
  | [] => .error .endOfText
  | '0' :: cs =>
    match cs with
    | c :: _ => if c.isDigit then .error .malformed else afterWhole negative ['0'] cs
    | [] => afterWhole negative ['0'] []
  | c :: cs =>
    if c.isDigit then
      afterWhole negative ((c :: cs).takeWhile Char.isDigit) ((c :: cs).dropWhile Char.isDigit)
    else .error .malformed

end Numbers

section Texts

def hexValue? (c : Char) : Option Nat :=
  if c.isDigit then some (c.toNat - '0'.toNat)
  else if 'a' ≤ c ∧ c ≤ 'f' then some (c.toNat - 'a'.toNat + 10)
  else if 'A' ≤ c ∧ c ≤ 'F' then some (c.toNat - 'A'.toNat + 10)
  else none

def hexUnit? (a b c d : Char) : Option Nat := do
  return ((← hexValue? a) * 16 + (← hexValue? b)) * 256 + (← hexValue? c) * 16 + (← hexValue? d)

def isLeading (unit : Nat) : Bool := 0xD800 ≤ unit && unit < 0xDC00

def isTrailing (unit : Nat) : Bool := 0xDC00 ≤ unit && unit < 0xE000

def pairValue (leading trailing : Nat) : Nat :=
  0x10000 + (leading - 0xD800) * 0x400 + (trailing - 0xDC00)

/-- Fewer than four characters follow `\u`: the text has ended when they take less than four bytes. -/
def shortUnit (cs : List Char) : ReadError :=
  if (String.ofList cs).utf8ByteSize < 4 then .endOfText else .malformed

def simpleEscape? : Char → Option Char
  | '"' => some '"'
  | '\\' => some '\\'
  | '/' => some '/'
  | 'b' => some '\x08'
  | 'f' => some '\x0c'
  | 'n' => some '\n'
  | 'r' => some '\r'
  | 't' => some '\t'
  | _ => none

/-- The rest of a string after its opening quote; `seen` holds what came before, last first. -/
def textBody (seen : List Char) : List Char → Scan String
  | [] => .error .endOfText
  | '"' :: rest => .ok (String.ofList seen.reverse, rest)
  | '\\' :: rest =>
    match rest with
    | [] => .error .endOfText
    | 'u' :: a :: b :: c :: d :: rest =>
      match hexUnit? a b c d with
      | none => .error .malformed
      | some unit =>
        if isTrailing unit then .error .malformed
        else if isLeading unit then
          match rest with
          | [] => .error .endOfText
          | '\\' :: rest =>
            match rest with
            | [] => .error .endOfText
            | 'u' :: e :: f :: g :: h :: rest =>
              match hexUnit? e f g h with
              | none => .error .malformed
              | some second =>
                if isTrailing second then textBody (Char.ofNat (pairValue unit second) :: seen) rest
                else .error .malformed
            | 'u' :: few => .error (shortUnit few)
            | _ :: _ => .error .malformed
          | _ :: _ => .error .malformed
        else textBody (Char.ofNat unit :: seen) rest
    | 'u' :: few => .error (shortUnit few)
    | c :: rest =>
      match simpleEscape? c with
      | some escaped => textBody (escaped :: seen) rest
      | none => .error .malformed
  | c :: rest => if c < ' ' then .error .malformed else textBody (c :: seen) rest

end Texts

mutual

/-- A value after blanks. `depth` is how many containers may still be opened. -/
def value : (fuel depth : Nat) → List Char → Scan Json
  | 0, _, _ => .error .malformed
  | fuel + 1, depth, cs =>
    match skipBlank cs with
    | [] => .error .endOfText
    | 'n' :: rest => word .null ['u', 'l', 'l'] rest
    | 't' :: rest => word (.bool true) ['r', 'u', 'e'] rest
    | 'f' :: rest => word (.bool false) ['a', 'l', 's', 'e'] rest
    | '-' :: rest => number true rest
    | '"' :: rest => (textBody [] rest).map fun (s, rest) => (.str s, rest)
    | '[' :: rest =>
      match depth with
      | 0 => .error .malformed
      | depth + 1 =>
        match skipBlank rest with
        | ']' :: rest => .ok (.arr [], rest)
        | rest => items fuel depth [] rest
    | '{' :: rest =>
      match depth with
      | 0 => .error .malformed
      | depth + 1 =>
        match skipBlank rest with
        | '}' :: rest => .ok (.obj [], rest)
        | rest => members fuel depth [] rest
    | c :: rest => if c.isDigit then number false (c :: rest) else .error .malformed

/-- The items of an array from the next one on; `seen` holds the former ones, last first. -/
def items : (fuel depth : Nat) → List Json → List Char → Scan Json
  | 0, _, _, _ => .error .malformed
  | fuel + 1, depth, seen, cs =>
    match value fuel depth cs with
    | .error e => .error e
    | .ok (v, rest) =>
      match skipBlank rest with
      | [] => .error .endOfText
      | ',' :: rest => items fuel depth (v :: seen) rest
      | ']' :: rest => .ok (.arr (v :: seen).reverse, rest)
      | _ :: _ => .error .malformed

/-- The fields of an object from the next one on. -/
def members : (fuel depth : Nat) → Fields → List Char → Scan Json
  | 0, _, _, _ => .error .malformed
  | fuel + 1, depth, seen, cs =>
    match skipBlank cs with
    | [] => .error .endOfText
    | '"' :: rest =>
      match textBody [] rest with
      | .error e => .error e
      | .ok (key, rest) =>
        match skipBlank rest with
        | [] => .error .endOfText
        | ':' :: rest =>
          match value fuel depth rest with
          | .error e => .error e
          | .ok (v, rest) =>
            match skipBlank rest with
            | [] => .error .endOfText
            | ',' :: rest => members fuel depth (seen.put key v) rest
            | '}' :: rest => .ok (.obj (seen.put key v), rest)
            | _ :: _ => .error .malformed
        | _ :: _ => .error .malformed
    | _ :: _ => .error .malformed

end

/-- The value of a whole text. Every call of `value` and its helpers is charged to a character, twice
at most, so the bound is never reached. -/
def parse (text : String) : Except ReadError Json :=
  let cs := text.toList
  match value (2 * cs.length + 2) depthLimit cs with
  | .error e => .error e
  | .ok (v, rest) =>
    match skipBlank rest with
    | [] => .ok v
    | _ :: _ => .error .malformed

end ApiLens.Json
