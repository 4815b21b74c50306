import ApiLens.Tree.Node

/-!
Walking a syntax tree depth first.

A visitor has two hooks for each of the six known kinds of nodes, one for entering a node and one for
leaving it, which are told the node and its direct parent. Other nodes are passed through in silence.
-/

namespace ApiLens

/-- What is done with a state, given a node and its parent. -/
abbrev Hook (σ : Type u) := Node → Option Node → σ → σ

/-- The hooks of a visitor, each of which does nothing unless it is given. -/
structure Visitor (σ : Type u) where
  enterModulePart : Hook σ := fun _ _ s => s
  leaveModulePart : Hook σ := fun _ _ s => s
  enterFunctionDefinition : Hook σ := fun _ _ s => s
  leaveFunctionDefinition : Hook σ := fun _ _ s => s
  enterTypeDefinition : Hook σ := fun _ _ s => s
  leaveTypeDefinition : Hook σ := fun _ _ s => s
  enterClassDefinition : Hook σ := fun _ _ s => s
  leaveClassDefinition : Hook σ := fun _ _ s => s
  enterMethodDeclaration : Hook σ := fun _ _ s => s
  leaveMethodDeclaration : Hook σ := fun _ _ s => s
  enterObjectMethodDefinition : Hook σ := fun _ _ s => s
  leaveObjectMethodDefinition : Hook σ := fun _ _ s => s

namespace Visitor

variable {σ : Type u} (v : Visitor σ)

def entering (node : Node) (parent : Option Node) (s : σ) : σ :=
  match node.kind with
  | .modulePart => v.enterModulePart node parent s
  | .functionDefinition => v.enterFunctionDefinition node parent s
  | .typeDefinition _ => v.enterTypeDefinition node parent s
  | .classDefinition => v.enterClassDefinition node parent s
  | .methodDeclaration => v.enterMethodDeclaration node parent s
  | .objectMethodDefinition => v.enterObjectMethodDefinition node parent s
  | .other _ => s

def leaving (node : Node) (parent : Option Node) (s : σ) : σ :=
  match node.kind with
  | .modulePart => v.leaveModulePart node parent s
  | .functionDefinition => v.leaveFunctionDefinition node parent s
  | .typeDefinition _ => v.leaveTypeDefinition node parent s
  | .classDefinition => v.leaveClassDefinition node parent s
  | .methodDeclaration => v.leaveMethodDeclaration node parent s
  | .objectMethodDefinition => v.leaveObjectMethodDefinition node parent s
  | .other _ => s

mutual

def walkUnder (parent : Option Node) : Node → σ → σ
  | .mk label children, s =>
    let node := Node.mk label children
    v.leaving node parent (walkAll node children (v.entering node parent s))

def walkAll (parent : Node) : List Node → σ → σ
  | [], s => s
  | n :: rest, s => walkAll parent rest (walkUnder (some parent) n s)

end

def walk (root : Node) (s : σ) : σ :=
  v.walkUnder none root s

end Visitor

/-- Kinds of nodes that a visitor hears of. -/
inductive Landmark
  | modulePart
  | functionDefinition
  | typeDefinition
  | classDefinition
  | methodDeclaration
  | objectMethodDefinition
deriving DecidableEq, Repr

inductive Moment
  | entered
  | left
deriving DecidableEq, Repr

/-- One call of a visitor. -/
structure Event where
  moment : Moment
  landmark : Landmark
  node : Node
  parent : Option Node

namespace Visitor

/-- Writes down every call, the last one first. -/
def recorder : Visitor (List Event) where
  enterModulePart := note .entered .modulePart
  leaveModulePart := note .left .modulePart
  enterFunctionDefinition := note .entered .functionDefinition
  leaveFunctionDefinition := note .left .functionDefinition
  enterTypeDefinition := note .entered .typeDefinition
  leaveTypeDefinition := note .left .typeDefinition
  enterClassDefinition := note .entered .classDefinition
  leaveClassDefinition := note .left .classDefinition
  enterMethodDeclaration := note .entered .methodDeclaration
  leaveMethodDeclaration := note .left .methodDeclaration
  enterObjectMethodDefinition := note .entered .objectMethodDefinition
  leaveObjectMethodDefinition := note .left .objectMethodDefinition
where
  note (moment : Moment) (landmark : Landmark) : Hook (List Event) :=
    fun node parent seen => ⟨moment, landmark, node, parent⟩ :: seen

def silent : Visitor σ := {}

end Visitor
end ApiLens
