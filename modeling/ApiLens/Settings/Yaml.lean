import ApiLens.Settings.Yaml.Node

/-!
Settings in YAML.
-/

namespace ApiLens.Yaml

namespace Node

/-- The word for a key of a settings file, which is a text or a whole number. -/
def key? : Node → Option String
  | text s => some s
  | int i => some (toString i)
  | _ => none

mutual

/-- What a value counts as in a settings file. Numbers must have a value of their own. -/
def datum? : Node → Option Datum
  | null | unfit => some .nothing
  | bool b => some (.bool b)
  | int i => some (.int i)
  | real word => (Real.ofText? word.toList).map .real
  | text s => some (.text s)
  | list items => (itemData? items).map .list
  | table entries => (entryData? entries []).map .table

def itemData? : List Node → Option (List Datum)
  | [] => some []
  | v :: rest => do return (← datum? v) :: (← itemData? rest)

/-- Keys of one word are one entry, and the later value counts. -/
def entryData? : List (Node × Node) → (seen : List (String × Datum)) → Option (List (String × Datum))
  | [], seen => some seen
  | (k, v) :: rest, seen => do entryData? rest (Datum.put (← k.key?) (← datum? v) seen)

end

end Node

def parse (text : String) : Option Datum := do
  let tokens ← Tokens.ofText (text.toList.takeWhile (· != endMark))
  (← Node.ofTokens? tokens).datum?

end ApiLens.Yaml
