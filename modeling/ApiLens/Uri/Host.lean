import ApiLens.Uri.DomainName
import ApiLens.Uri.Percent

/-!
Hosts of URIs: names, which are lower-cased and made ASCII, and numeric addresses.
-/

namespace ApiLens

inductive UriError
  | noScheme
  | emptyHost
  | badDomain
  | badHostCharacter
  | badPort
  | badAddress4
  | badAddress6
deriving DecidableEq, Repr

def UriError.message : UriError → String
  | noScheme => "relative URL without a base"
  | emptyHost => "empty host"
  | badDomain => "invalid international domain name"
  | badHostCharacter => "invalid domain character"
  | badPort => "invalid port number"
  | badAddress4 => "invalid IPv4 address"
  | badAddress6 => "invalid IPv6 address"

inductive Host
  | absent
  | domain (name : String)
  | address4 (value : Nat)
  | address6 (groups : List Nat)
deriving DecidableEq, Repr

namespace Host

def numberIn? (base : Nat) (cs : List Char) : Option Nat :=
  if cs.all fun c => (Percent.hexValue? c).any (· < base) then
    some (cs.foldl (fun n c => n * base + (Percent.hexValue? c).getD 0) 0)
  else none

/-- A part of a numeric address: hexadecimal after `0x`, octal after `0`, decimal otherwise. -/
def part? : List Char → Option Nat
  | [] => none
  | '0' :: 'x' :: cs => numberIn? 16 cs
  | '0' :: 'X' :: cs => numberIn? 16 cs
  | '0' :: c :: cs => numberIn? 8 (c :: cs)
  | cs => numberIn? 10 cs

/-- The labels of a name without an empty one at the end. -/
def labels (name : List Char) : List (List Char) :=
  let parts := splitAt '.' name
  if 1 < parts.length && parts.getLast? == some [] then parts.dropLast else parts

def endsInNumber (name : List Char) : Bool :=
  match (labels name).getLast? with
  | some last => !last.isEmpty && (last.all Char.isDigit || (part? last).isSome)
  | none => false

def address4? (name : List Char) : Option Nat := do
  let parts := labels name
  if 4 < parts.length then none
  let numbers ← parts.mapM part?
  let front := numbers.dropLast
  let last ← numbers.getLast?
  let room := Nat.pow 256 (4 - front.length)
  if front.any (255 < ·) || room ≤ last then none
  return front.foldl (fun value n => value * 256 + n) 0 * room + last

/-- Groups of an IPv6 address between colons; the last one may be an IPv4 address. -/
def groups? (cs : List Char) : Option (List Nat) :=
  if cs.isEmpty then some []
  else go (splitAt ':' cs)
where
  group? (piece : List Char) : Option Nat :=
    if piece.isEmpty || 4 < piece.length then none else numberIn? 16 piece
  dotted? (piece : List Char) : Option (List Nat) := do
    let parts := splitAt '.' piece
    if parts.length ≠ 4 then none
    let numbers ← parts.mapM byte?
    match numbers with
    | [a, b, c, d] => return [a * 256 + b, c * 256 + d]
    | _ => none
  byte? (piece : List Char) : Option Nat := do
    if piece.isEmpty || 3 < piece.length then none
    if 1 < piece.length && piece.head? == some '0' then none
    let n ← numberIn? 10 piece
    if 255 < n then none else return n
  go : List (List Char) → Option (List Nat)
    | [] => some []
    | [piece] => if piece.contains '.' then dotted? piece else (group? piece).map ([·])
    | piece :: rest => do return (← group? piece) :: (← go rest)

/-- The two sides of the first `::`. -/
def gap? : List Char → Option (List Char × List Char)
  | ':' :: ':' :: rest => some ([], rest)
  | c :: rest => (gap? rest).map fun (left, right) => (c :: left, right)
  | [] => none

def address6? (cs : List Char) : Option (List Nat) := do
  match gap? cs with
  | some (left, right) =>
    if left.contains '.' then none
    let left ← groups? left
    let right ← groups? right
    if 7 < left.length + right.length then none
    return left ++ List.replicate (8 - left.length - right.length) 0 ++ right
  | none =>
    let groups ← groups? cs
    if groups.length = 8 then return groups else none

def parse (cs : List Char) : Except UriError Host :=
  match cs with
  | '[' :: rest =>
    match rest.getLast? with
    | some ']' =>
      match address6? rest.dropLast with
      | some groups => .ok (address6 groups)
      | none => .error .badAddress6
    | _ => .error .badAddress6
  | cs =>
    match (utf8Text? (Percent.decode cs)).bind fun name => DomainName.ascii? name.toList with
    | none => .error .badDomain
    | some name =>
      if name.isEmpty then .error .emptyHost
      else if endsInNumber name then
        match address4? name with
        | some value => .ok (address4 value)
        | none => .error .badAddress4
      else .ok (domain (String.ofList name))

/-- The host of a scheme without rules for hosts. -/
def parseOpaque (cs : List Char) : Except UriError Host :=
  match cs with
  | [] => .ok absent
  | '[' :: _ => parse cs
  | cs =>
    if cs.any fun c => c == '\x00' || [' ', '#', '/', ':', '<', '>', '?', '@', '[', '\\', ']', '^', '|'].contains c then
      .error .badHostCharacter
    else .ok (domain (Percent.encode Percent.isControl cs))

def hexGroup (n : Nat) : String := String.ofList (Nat.toDigits 16 n)

/-- Start and length of the first of the longest runs of zero groups, two at least. -/
def zeroRun (groups : List Nat) : Option (Nat × Nat) :=
  let runs := (List.range groups.length).map fun i => (i, ((groups.drop i).takeWhile (· == 0)).length)
  runs.foldl (fun best run => if 2 ≤ run.2 && best.all (·.2 < run.2) then some run else best) none

def address6Text (groups : List Nat) : String :=
  let join (gs : List Nat) := ":".intercalate (gs.map hexGroup)
  match zeroRun groups with
  | some (start, length) => join (groups.take start) ++ "::" ++ join (groups.drop (start + length))
  | none => join groups

def text : Host → String
  | absent => ""
  | domain name => name
  | address4 value => ".".intercalate ([3, 2, 1, 0].map fun i => toString (value / Nat.pow 256 i % 256))
  | address6 groups => "[" ++ address6Text groups ++ "]"

end Host
end ApiLens
