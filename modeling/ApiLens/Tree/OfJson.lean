import ApiLens.Json.Decode
import ApiLens.Tree.Node

/-!
The syntax tree in a JSON value.

An object with a text under `kind` is a node; its label is read from its own fields, and its children
are the nodes among its field values in order, arrays of any depth included. `Node.ofJson` asks only
that the root is such an object. Below it everything else is passed over, with all it holds.
-/

namespace ApiLens

/-- What stands where a node should be. -/
inductive Found
  | null
  | boolean
  | number
  | text
  | array
  | untaggedObject
deriving DecidableEq, Repr

structure NotANode where
  found : Found
deriving DecidableEq, Repr

def Found.words : Found → String
  | null => "null"
  | boolean => "a boolean"
  | number => "a number"
  | text => "a string"
  | array => "an array"
  | untaggedObject => "an object without a kind"

def NotANode.message (e : NotANode) : String :=
  "expected a syntax node object with a " ++ ticked "kind" ++ " tag, found " ++ e.found.words

open Json (Fields)

/-- The text under `kind`. -/
def tag? (fields : Fields) : Option String :=
  (fields.get? "kind").bind Json.text?

/-- The text under `value` of a token. -/
def tokenText? (token : Json) : Option String :=
  (token.get? "value").bind Json.text?

def TypeShape.ofFields (fields : Fields) : TypeShape :=
  match ((fields.get? "typeDescriptor").bind (·.get? "kind")).bind Json.text? with
  | some "RecordTypeDesc" => .record
  | some "ObjectTypeDesc" => .object
  | _ => .other

def NodeKind.ofTag (tag : String) (fields : Fields) : NodeKind :=
  match tag with
  | "ModulePart" => .modulePart
  | "FunctionDefinition" => .functionDefinition
  | "TypeDefinition" => .typeDefinition (.ofFields fields)
  | "ClassDefinition" => .classDefinition
  | "MethodDeclaration" => .methodDeclaration
  | "ObjectMethodDefinition" => .objectMethodDefinition
  | tag => .other tag

/-- Each number is read on its own: one that is missing or out of range leaves the others. -/
def Span.ofJson (position : Json) : Span where
  startLine := (position.get? "startLine").bind Json.word?
  startColumn := (position.get? "startColumn").bind Json.word?
  endLine := (position.get? "endLine").bind Json.word?
  endColumn := (position.get? "endColumn").bind Json.word?

namespace Label

/-- Fields that may hold the name token; the first with a text counts. -/
def nameFields : List String := ["functionName", "typeName", "className", "methodName"]

def ofFields (tag : String) (fields : Fields) : Label where
  kind := .ofTag tag fields
  span := ((fields.get? "position").map Span.ofJson).getD .unknown
  documented := ((fields.get? "metadata").map fun metadata => !metadata.isNull).getD false
  qualifiers := (((fields.get? "qualifierList").bind Json.items?).getD []).filterMap tokenText?
  visibility := (fields.get? "visibilityQualifier").bind tokenText?
  name := nameFields.findSome? fun field => (fields.get? field).bind tokenText?

end Label

namespace Node

mutual

/-- The outermost nodes of a value, in order. -/
def within : Json → List Node
  | .obj fields =>
    match tag? fields with
    | some tag => [.mk (.ofFields tag fields) (withinFields fields)]
    | none => []
  | .arr items => withinItems items
  | _ => []

def withinItems : List Json → List Node
  | [] => []
  | v :: rest => within v ++ withinItems rest

def withinFields : List (String × Json) → List Node
  | [] => []
  | (_, v) :: rest => within v ++ withinFields rest

end

def ofFields (tag : String) (fields : Fields) : Node :=
  .mk (.ofFields tag fields) (withinFields fields)

def ofJson : Json → Except NotANode Node
  | .obj fields =>
    match tag? fields with
    | some tag => .ok (.ofFields tag fields)
    | none => .error ⟨.untaggedObject⟩
  | .null => .error ⟨.null⟩
  | .bool _ => .error ⟨.boolean⟩
  | .num _ => .error ⟨.number⟩
  | .str _ => .error ⟨.text⟩
  | .arr _ => .error ⟨.array⟩

end Node
end ApiLens
