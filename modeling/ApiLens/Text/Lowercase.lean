import ApiLens.Text.CaseTable

/-!
Lower-casing of text by the full Unicode mapping.

Every character is mapped on its own but the capital sigma, which becomes a final sigma at the end of
a word. `compareNames` orders names without regard to case first and by code point after that.
-/

namespace ApiLens

def inRanges (table : Array (Nat × Nat)) (c : Char) : Bool :=
  table.any fun (first, last) => first ≤ c.toNat && c.toNat ≤ last

namespace Lowercase

def isCased (c : Char) : Bool := inRanges CaseTable.cased c

def isCaseIgnorable (c : Char) : Bool := inRanges CaseTable.caseIgnorable c

/-- The partner by the table, if a run covers the character. -/
def partner? (c : Char) : Option Char :=
  (CaseTable.lowercase.find? covers).map fun (_, _, _, offset) => Char.ofNat (c.toNat + offset).toNat
where
  covers : Nat × Nat × Nat × Int → Bool
    | (first, last, step, _) =>
      first ≤ c.toNat && c.toNat ≤ last && (c.toNat - first) % step == 0

/-- Only the dotted capital I becomes two characters. -/
def char (c : Char) : List Char :=
  if c.toNat < 128 then [c.toLower]
  else if c = 'İ' then ['i', '\u0307']
  else [(partner? c).getD c]

/-- Whether the next character that is not case-ignorable is cased. -/
def meetsCased (cs : List Char) : Bool :=
  match cs.dropWhile isCaseIgnorable with
  | [] => false
  | c :: _ => isCased c

/-- `before` holds the characters already mapped, nearest first. -/
def go (before : List Char) : List Char → List Char
  | [] => []
  | c :: after =>
    if c = 'Σ' then
      (if meetsCased before && !meetsCased after then 'ς' else 'σ') :: go (c :: before) after
    else char c ++ go (c :: before) after

end Lowercase

def lowercase (s : String) : String :=
  String.ofList (Lowercase.go [] s.toList)

/-- Order of names: by their lower-cased forms, and names that differ only in case by themselves. -/
def compareNames (a b : String) : Ordering :=
  (compare (lowercase a) (lowercase b)).then (compare a b)

def namesLe (a b : String) : Bool := (compareNames a b).isLE

end ApiLens
