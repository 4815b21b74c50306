import ApiLens.Decimal.Shortest
import ApiLens.Decimal.Width

/-!
JSON values whose objects keep their fields in the order in which they were written.
-/

namespace ApiLens

/-- A literal without point and exponent that fits 64 bits is whole; every other one is a float. -/
inductive Number
  | int (value : Int)
  | float (value : Binary64)
deriving DecidableEq

inductive Json
  | null
  | bool (value : Bool)
  | num (value : Number)
  | str (value : String)
  | arr (items : List Json)
  | obj (fields : List (String × Json))

namespace Json

abbrev Fields := List (String × Json)

/-- Writes a field: a new one goes to the end, an old one keeps its place and takes the new value. -/
def Fields.put (key : String) (value : Json) : Fields → Fields
  | [] => [(key, value)]
  | (k, v) :: rest => if k = key then (k, value) :: rest else (k, v) :: put key value rest

def Fields.get? (fields : Fields) (key : String) : Option Json :=
  fields.lookup key

/-- The fields without the first one named `key`. -/
def Fields.without (key : String) : Fields → Fields
  | [] => []
  | (k, v) :: rest => if k = key then rest else (k, v) :: without key rest

def fields? : Json → Option Fields
  | obj fields => some fields
  | _ => none

def items? : Json → Option (List Json)
  | arr items => some items
  | _ => none

def text? : Json → Option String
  | str s => some s
  | _ => none

/-- A field of an object; other values have none. -/
def get? (v : Json) (key : String) : Option Json :=
  v.fields?.bind (Fields.get? · key)

def isNull : Json → Bool
  | null => true
  | _ => false

/-- The whole number of a literal that fits 32 bits without a sign. -/
def word? : Json → Option UInt32
  | num (.int i) => if fitsUnsigned 32 i then some (UInt32.ofNat i.toNat) else none
  | _ => none

def ofNat (n : Nat) : Json := num (.int n)

def ofWord (n : UInt32) : Json := ofNat n.toNat

/-- `null` for nothing. -/
def ofOption (f : α → Json) : Option α → Json
  | some a => f a
  | none => null

end Json
end ApiLens
