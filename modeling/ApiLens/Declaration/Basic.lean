import ApiLens.Tree.Walk

/-!
The declarations of a syntax tree that have API documentation.

A function outside of all containers counts when it is public and documented, and is listed where the
walk enters it. A container (a type or class definition) counts when it is public and documented
itself, or when one of its own members does; it is listed where the walk leaves it, after everything
inside. A container that is listed counts as a documented member of the next one around it.
-/

namespace ApiLens

/-- Section of the API documentation. -/
inductive Category
  | function
  | classDefinition
  | record
  | abstractObject
deriving DecidableEq, Repr

namespace Category

def directory : Category → String
  | function => "functions"
  | classDefinition => "classes"
  | record => "records"
  | abstractObject => "abstractobjects"

def ofContainer? : NodeKind → Option Category
  | .typeDefinition .record => some record
  | .typeDefinition _ => some abstractObject
  | .classDefinition => some classDefinition
  | _ => none

end Category

structure Declaration where
  span : Span
  displayName : String
  moduleName : String
  category : Category
deriving DecidableEq, Repr

structure Policy where
  /-- A documented function in a container counts only if it is public too. -/
  innerFunctionsRequirePublic : Bool := false
deriving DecidableEq, Repr

/-- The state of the walk. -/
structure Outline where
  /-- For each container around the current place, innermost first: has it a documented member? -/
  frames : List Bool := []
  found : List Declaration := []
deriving DecidableEq, Repr

namespace Outline

def isInside (o : Outline) : Bool := !o.frames.isEmpty

/-- Marks the innermost container. -/
def mark (o : Outline) : Outline :=
  match o.frames with
  | [] => o
  | _ :: outer => { o with frames := true :: outer }

def push (o : Outline) : Outline := { o with frames := false :: o.frames }

/-- Takes the innermost frame off. -/
def pop (o : Outline) : Bool × Outline :=
  match o.frames with
  | [] => (false, o)
  | frame :: outer => (frame, { o with frames := outer })

def add (o : Outline) (d : Declaration) : Outline := { o with found := o.found ++ [d] }

variable (moduleName : String) (policy : Policy)

def declare? (node : Node) (category : Category) : Option Declaration :=
  node.name.map fun name => ⟨node.label.span, name, moduleName, category⟩

def visitFunction (node : Node) (o : Outline) : Outline :=
  if o.isInside then
    if node.label.documented && (node.label.isPublic || !policy.innerFunctionsRequirePublic) then o.mark
    else o
  else if node.label.isApi then
    match declare? moduleName node .function with
    | some d => o.add d
    | none => o
  else o

def visitMethod (node : Node) (o : Outline) : Outline :=
  if node.label.isApi then o.mark else o

/-- Without a name nothing is listed, and then the container around does not hear of it. -/
def close (node : Node) (o : Outline) : Outline :=
  let (hasMember, o) := o.pop
  if hasMember || node.label.isApi then
    match (Category.ofContainer? node.kind).bind (declare? moduleName node) with
    | some d => (o.add d).mark
    | none => o
  else o

def visitor : Visitor Outline where
  enterFunctionDefinition node _ := visitFunction moduleName policy node
  enterTypeDefinition _ _ := push
  leaveTypeDefinition node _ := close moduleName node
  enterClassDefinition _ _ := push
  leaveClassDefinition node _ := close moduleName node
  enterMethodDeclaration node _ := visitMethod node
  enterObjectMethodDefinition node _ := visitMethod node

end Outline

/-- The documented declarations under a node, in the order in which the walk meets them. -/
def declarations (moduleName : String) (policy : Policy) (root : Node) : List Declaration :=
  ((Outline.visitor moduleName policy).walk root {}).found

end ApiLens
