import ApiLens.Declaration.Basic
import ApiLens.Proofs.Tree.Address

/-!
What the walk of a subtree adds to an outline.

The walk carries a frame for each container around a node, but of these a subtree only sees whether
there are any, and only the innermost hears of it. So its part of the walk comes down to a list of
declarations and a flag, and both are plain recursions on the tree.
-/

namespace ApiLens

def NodeKind.isContainer : NodeKind → Bool
  | typeDefinition _ | classDefinition => true
  | _ => false

theorem Category.isSome_ofContainer? : (ofContainer? kind).isSome = kind.isContainer := by
  cases kind
  case typeDefinition shape => cases shape <;> rfl
  all_goals rfl

namespace Node

variable (moduleName : String) (policy : Policy)

-- A documented member in its own right of the container around it.
def isMember (n : Node) : Bool :=
  match n.kind with
  | .functionDefinition =>
    n.label.documented && (n.label.isPublic || !policy.innerFunctionsRequirePublic)
  | .methodDeclaration | .objectMethodDefinition => n.label.isApi
  | _ => false

mutual

-- Whether the container around a node hears of a documented member in it. Of what lies in an inner
-- container it only hears if that container is listed itself.
def counts : Node → Bool
  | .mk label children =>
    if label.kind.isContainer then (anyCounts children || label.isApi) && label.name.isSome
    else isMember policy (.mk label children) || anyCounts children

def anyCounts : List Node → Bool
  | [] => false
  | n :: rest => counts n || anyCounts rest

end

theorem anyCounts_eq_any : anyCounts policy cs = cs.any (counts policy) := by
  induction cs <;> simp_all [anyCounts]

def functionRecord? (inside : Bool) (n : Node) : Option Declaration :=
  if n.kind = .functionDefinition ∧ inside = false ∧ n.label.isApi then
    Outline.declare? moduleName n .function
  else none

def containerRecord? (n : Node) : Option Declaration :=
  if anyCounts policy n.children || n.label.isApi then
    (Category.ofContainer? n.kind).bind (Outline.declare? moduleName n)
  else none

mutual

def listing (inside : Bool) : Node → List Declaration
  | .mk label children =>
    (functionRecord? moduleName inside (.mk label children)).toList
      ++ listingAll (inside || label.kind.isContainer) children
      ++ (containerRecord? moduleName policy (.mk label children)).toList

def listingAll (inside : Bool) : List Node → List Declaration
  | [] => []
  | n :: rest => listing inside n ++ listingAll inside rest

end

theorem functionRecord?_of_container (inside) (h : n.kind.isContainer) :
    functionRecord? moduleName inside n = none := by
  cases hk : n.kind <;> simp_all [functionRecord?, NodeKind.isContainer]

theorem containerRecord?_of_not_container (h : n.kind.isContainer = false) :
    containerRecord? moduleName policy n = none := by
  rw [← Category.isSome_ofContainer?, Option.isSome_eq_false_iff, Option.isNone_iff_eq_none] at h
  simp [containerRecord?, h]

end Node

namespace Outline

-- The outline after a part of the walk that listed `ds` and, if `counts`, marked the innermost
-- frame.
def take (o : Outline) (ds : List Declaration) (counts : Bool) : Outline where
  frames := match o.frames with
    | [] => []
    | frame :: outer => (frame || counts) :: outer
  found := o.found ++ ds

section Take

variable {o : Outline}

theorem take_nil_false : o.take [] false = o := by
  cases o with | mk frames found => cases frames <;> simp [take]

theorem take_take : (o.take ds b).take es c = o.take (ds ++ es) (b || c) := by
  cases o with | mk frames found => cases frames <;> simp [take, Bool.or_assoc]

-- A mark that finds no frame is lost.
theorem take_of_outside (h : o.isInside = false) : o.take ds b = o.take ds c := by
  cases o with | mk frames found => cases frames <;> simp_all [isInside, take]

theorem isInside_take : (o.take ds b).isInside = o.isInside := by
  cases o with | mk frames found => cases frames <;> simp [take, isInside]

theorem isInside_push : o.push.isInside = true := rfl

theorem pop_push_take : (o.push.take ds b).pop = (b, o.take ds false) := by
  cases o with | mk frames found => cases frames <;> simp [push, take, pop]

theorem mark_eq_take : o.mark = o.take [] true := by
  cases o with | mk frames found => cases frames <;> simp [take, mark]

theorem add_eq_take : o.add d = o.take [d] false := by
  cases o with | mk frames found => cases frames <;> simp [take, add]

end Take

variable {moduleName : String} {policy : Policy} {o : Outline}

theorem visitFunction_eq_take (h : n.kind = .functionDefinition) :
    visitFunction moduleName policy n o =
      o.take (n.functionRecord? moduleName o.isInside).toList (n.isMember policy) := by
  simp only [visitFunction, Node.functionRecord?, Node.isMember, h]
  cases hi : o.isInside
  case false =>
    rw [take_of_outside hi (c := false)]
    cases n.label.isApi <;> cases declare? moduleName n .function
    all_goals simp [take_nil_false, add_eq_take]
  case true =>
    cases n.label.documented && (n.label.isPublic || !policy.innerFunctionsRequirePublic)
    all_goals simp [take_nil_false, mark_eq_take]

theorem visitMethod_eq_take : visitMethod n o = o.take [] n.label.isApi := by
  cases hi : n.label.isApi <;> simp [visitMethod, hi, take_nil_false, mark_eq_take]

-- The frame of a container only takes up what its children bring, so closing it gives the outline
-- back as it was before the container, but for the record of the container itself.
theorem close_push_take (h : l.kind.isContainer) :
    close moduleName (.mk l cs) (o.push.take ds (Node.anyCounts policy cs)) =
      o.take (ds ++ (Node.containerRecord? moduleName policy (.mk l cs)).toList)
        ((Node.anyCounts policy cs || l.isApi) && l.name.isSome) := by
  have ⟨category, hc⟩ := Option.isSome_iff_exists.mp <| Category.isSome_ofContainer?.trans h
  simp only [close, pop_push_take, Node.containerRecord?, Node.children_mk, Node.label_mk,
    Node.kind_mk, hc, Option.bind_some, declare?, Node.name_mk]
  cases Node.anyCounts policy cs || l.isApi <;> cases l.name
  case true.some => simp [add_eq_take, mark_eq_take, take_take]
  all_goals simp

theorem entering_of_container (h : n.kind.isContainer) :
    (visitor moduleName policy).entering n parent o = o.push := by
  cases hk : n.kind
  case typeDefinition | classDefinition =>
    simp [Visitor.entering, hk, visitor]
  all_goals simp [hk, NodeKind.isContainer] at h

theorem entering_of_not_container (h : n.kind.isContainer = false) :
    (visitor moduleName policy).entering n parent o =
      o.take (n.functionRecord? moduleName o.isInside).toList (n.isMember policy) := by
  cases hk : n.kind
  case functionDefinition =>
    simp [Visitor.entering, hk, visitor, visitFunction_eq_take hk]
  case typeDefinition | classDefinition => simp [hk, NodeKind.isContainer] at h
  all_goals
    simp [Visitor.entering, hk, visitor, Node.functionRecord?, Node.isMember, visitMethod_eq_take,
      take_nil_false]

theorem leaving_of_container (h : n.kind.isContainer) :
    (visitor moduleName policy).leaving n parent o = close moduleName n o := by
  cases hk : n.kind
  case typeDefinition | classDefinition =>
    simp [Visitor.leaving, hk, visitor]
  all_goals simp [hk, NodeKind.isContainer] at h

theorem leaving_of_not_container (h : n.kind.isContainer = false) :
    (visitor moduleName policy).leaving n parent o = o := by
  cases hk : n.kind
  case typeDefinition | classDefinition => simp [hk, NodeKind.isContainer] at h
  all_goals simp [Visitor.leaving, hk, visitor]

theorem walkAll_eq_take (parent o)
    (h : ∀ c ∈ cs, ∀ parent o, (visitor moduleName policy).walkUnder parent c o =
      o.take (c.listing moduleName policy o.isInside) (c.counts policy)) :
    (visitor moduleName policy).walkAll parent cs o =
      o.take (Node.listingAll moduleName policy o.isInside cs) (Node.anyCounts policy cs) := by
  induction cs generalizing o
  case nil => simp [Visitor.walkAll, Node.listingAll, Node.anyCounts, take_nil_false]
  case cons c rest ih =>
    have ⟨hc, hr⟩ := List.forall_mem_cons.mp h
    simp [Visitor.walkAll, Node.listingAll, Node.anyCounts, hc, ih _ hr, take_take, isInside_take]

-- The walk under a node, wherever it starts: what it lists depends on the outline before only in
-- whether there is a container around, and of the frames at most the innermost changes.
theorem walkUnder_eq_take (n : Node) (parent o) :
    (visitor moduleName policy).walkUnder parent n o =
      o.take (n.listing moduleName policy o.isInside) (n.counts policy) := by
  induction n generalizing parent o
  case mk l cs ih =>
    simp only [Visitor.walkUnder, Node.listing, Node.counts]
    cases hk : (Node.mk l cs).kind.isContainer
    case false =>
      have hr := Node.containerRecord?_of_not_container moduleName policy hk
      rw [entering_of_not_container hk, walkAll_eq_take _ _ ih, leaving_of_not_container hk]
      rw [Node.kind_mk] at hk
      simp [take_take, isInside_take, hk, hr]
    case true =>
      have hr := Node.functionRecord?_of_container moduleName o.isInside hk
      rw [entering_of_container hk, walkAll_eq_take _ _ ih, leaving_of_container hk, isInside_push,
        close_push_take (l := l) hk]
      rw [Node.kind_mk] at hk
      simp [hk, hr]

end Outline

theorem declarations_eq_listing (root : Node) :
    declarations moduleName policy root = root.listing moduleName policy false := by
  simp [declarations, Visitor.walk, Outline.walkUnder_eq_take, Outline.take, Outline.isInside]

end ApiLens
