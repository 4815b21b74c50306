/-!
Nodes of a syntax tree: what the documentation passes need to know of each, and its children in source
order.
-/

namespace ApiLens

/-- What a type definition defines. -/
inductive TypeShape
  | record
  | object
  | other
deriving DecidableEq, Repr

inductive NodeKind
  | modulePart
  | functionDefinition
  | typeDefinition (shape : TypeShape)
  | classDefinition
  | methodDeclaration
  | objectMethodDefinition
  /-- Any other tag, kept as it is. -/
  | other (tag : String)
deriving DecidableEq, Repr

/-- A range of the source, counted from zero; each of its four numbers may be missing. -/
structure Span where
  startLine : Option UInt32
  startColumn : Option UInt32
  endLine : Option UInt32
  endColumn : Option UInt32
deriving DecidableEq, Repr

namespace Span

def unknown : Span := ⟨none, none, none, none⟩

def isComplete (s : Span) : Bool :=
  s.startLine.isSome && s.startColumn.isSome && s.endLine.isSome && s.endColumn.isSome

end Span

/-- A node without its children. -/
structure Label where
  kind : NodeKind
  span : Span
  /-- A documentation block is attached. -/
  documented : Bool
  qualifiers : List String
  visibility : Option String
  name : Option String
deriving DecidableEq, Repr

namespace Label

/-- The word that makes a declaration public. -/
def publicWord : String := "public"

def isPublic (l : Label) : Bool :=
  l.visibility == some publicWord || l.qualifiers.contains publicWord

def isApi (l : Label) : Bool :=
  l.isPublic && l.documented

end Label

inductive Node
  | mk (label : Label) (children : List Node)

namespace Node

def label : Node → Label
  | mk label _ => label

def children : Node → List Node
  | mk _ children => children

def kind (n : Node) : NodeKind := n.label.kind

def name (n : Node) : Option String := n.label.name

end Node
end ApiLens
