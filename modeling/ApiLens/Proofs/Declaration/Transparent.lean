import ApiLens.Proofs.Declaration.Composed

/-!
Nodes that the declarations of a tree do not hear of: module parts, and nodes of an unknown kind.

Such a node may give its place to its children, and one may be put around any children that stand
together, at any depth.
-/

namespace ApiLens

def NodeKind.isTransparent : NodeKind → Bool
  | modulePart | other _ => true
  | _ => false

theorem NodeKind.isTransparent_iff {kind : NodeKind} :
    kind.isTransparent ↔ kind = .modulePart ∨ ∃ tag, kind = .other tag := by
  cases kind <;> simp [isTransparent]

namespace Node

mutual

-- What stands in place of a node when the transparent nodes among the chosen ones are taken away,
-- and their children are not.
def opened (chosen : Address → Bool) : Node → List Node
  | mk l cs =>
    if chosen [] && l.kind.isTransparent then openedFrom chosen 0 cs
    else [mk l (openedFrom chosen 0 cs)]

def openedFrom (chosen : Address → Bool) (i : Nat) : List Node → List Node
  | [] => []
  | n :: rest => opened (fun p => chosen (i :: p)) n ++ openedFrom chosen (i + 1) rest

end

-- The root stays, whatever is chosen.
def dissolve (chosen : Address → Bool) (n : Node) : Node :=
  mk n.label (openedFrom chosen 0 n.children)

-- Some children that stand together lie in a new transparent node, at some depth.
inductive Wrapped : Node → Node → Prop
  | here before run after : w.kind.isTransparent →
    Wrapped (mk l (before ++ run ++ after)) (mk l (before ++ mk w run :: after))
  | child before after : Wrapped c d →
    Wrapped (mk l (before ++ c :: after)) (mk l (before ++ d :: after))

-- A walk lists the same of both, wherever it comes to them, and marks the container around them for
-- both or for neither.
structure Alike (cs ds : List Node) : Prop where
  counts policy : anyCounts policy cs = anyCounts policy ds
  listing moduleName policy inside :
    listingAll moduleName policy inside cs = listingAll moduleName policy inside ds

namespace Alike

theorem refl (cs : List Node) : Alike cs cs := ⟨fun _ => rfl, fun _ _ _ => rfl⟩

theorem symm (h : Alike cs ds) : Alike ds cs where
  counts policy := (h.counts policy).symm
  listing _ _ _ := (h.listing _ _ _).symm

theorem trans (h : Alike cs ds) (h' : Alike ds es) : Alike cs es where
  counts policy := (h.counts policy).trans (h'.counts policy)
  listing _ _ _ := (h.listing _ _ _).trans (h'.listing _ _ _)

theorem append (h : Alike cs ds) (h' : Alike cs' ds') : Alike (cs ++ cs') (ds ++ ds') where
  counts policy := by
    have hc := h.counts policy
    have hc' := h'.counts policy
    simp only [anyCounts_eq_any, List.any_append] at *
    rw [hc, hc']
  listing moduleName policy inside := by
    have hl := h.listing moduleName policy inside
    have hl' := h'.listing moduleName policy inside
    simp only [listingAll_eq_flatMap, List.flatMap_append] at *
    rw [hl, hl']

theorem within (h : Alike cs ds) (before after) :
    Alike (before ++ cs ++ after) (before ++ ds ++ after) :=
  ((refl before).append h).append (refl after)

theorem node (h : Alike cs ds) : Alike [.mk l cs] [.mk l ds] where
  counts policy := by simp [anyCounts, Node.counts, h.counts policy, isMember]
  listing moduleName policy inside := by
    simp only [listingAll, Node.listing, h.listing, containerRecord?_mk_eq (h.counts policy)]
    rfl

theorem transparent (hw : w.kind.isTransparent) (cs) : Alike [.mk w cs] cs where
  counts policy := by
    obtain hk | ⟨tag, hk⟩ := NodeKind.isTransparent_iff.mp hw
    all_goals simp [anyCounts, Node.counts, hk, NodeKind.isContainer, isMember]
  listing moduleName policy inside := by
    obtain hk | ⟨tag, hk⟩ := NodeKind.isTransparent_iff.mp hw
    all_goals
      simp [listingAll, Node.listing, hk, NodeKind.isContainer, functionRecord?, containerRecord?,
        Category.ofContainer?]

theorem declarations_eq {n m : Node} (h : Alike [n] [m]) (moduleName policy) :
    declarations moduleName policy n = declarations moduleName policy m := by
  simpa [declarations_eq_listing, listingAll] using h.listing moduleName policy false

end Alike

theorem alike_openedFrom (h : ∀ c ∈ cs, ∀ chosen, Alike (opened chosen c) [c]) (chosen i) :
    Alike (openedFrom chosen i cs) cs := by
  induction cs generalizing i
  case nil => exact .refl []
  case cons c rest ih =>
    have ⟨hc, hr⟩ := List.forall_mem_cons.mp h
    exact (hc _).append (ih hr (i + 1))

theorem alike_opened (n : Node) (chosen) : Alike (opened chosen n) [n] := by
  induction n generalizing chosen
  case mk l cs ih =>
    have hcs : Alike (openedFrom chosen 0 cs) cs := alike_openedFrom ih chosen 0
    rw [opened]
    split
    case isTrue h =>
      exact hcs.trans (Alike.transparent (by simp_all) cs).symm
    case isFalse => exact hcs.node

theorem alike_dissolve (chosen) (n : Node) : Alike [n.dissolve chosen] [n] := by
  cases n with | mk l cs =>
  exact (alike_openedFrom (fun c _ => alike_opened c) chosen 0).node

theorem Wrapped.alike (h : Wrapped n m) : Alike [n] [m] := by
  induction h
  case here l w before run after hw =>
    simpa using ((Alike.transparent hw run).symm.within before after).node
  case child before after _ ih => simpa using (ih.within before after).node

end Node

theorem transparent_nodes (moduleName : String) (policy : Policy) (n : Node) :
    (∀ chosen, declarations moduleName policy (n.dissolve chosen) =
      declarations moduleName policy n) ∧
    (∀ m, n.Wrapped m → declarations moduleName policy m = declarations moduleName policy n) ∧
    ∀ w : Label, w.kind.isTransparent →
      declarations moduleName policy (.mk w [n]) = declarations moduleName policy n := by
  refine ⟨fun chosen => ?_, fun m h => ?_, fun w hw => ?_⟩
  · exact (Node.alike_dissolve chosen n).declarations_eq moduleName policy
  · exact h.alike.symm.declarations_eq moduleName policy
  · exact (Node.Alike.transparent hw [n]).declarations_eq moduleName policy

-- A class in a function, listed only for its members.
def heldClass (members : List Node) : Node :=
  .mk (publicLabel .modulePart "p") [
    .mk (publicLabel .functionDefinition "f") [
      .mk { publicLabel .classDefinition "c" with documented := false } members]]

def soleMethod : Node := .mk (publicLabel .methodDeclaration "m") []

def fenceLabel : Label := publicLabel (.other "Fence") "x"

-- The class with its method again, and three nodes in between that the walk does not hear of.
def fencedClass : Node :=
  .mk (publicLabel .modulePart "p") [
    .mk fenceLabel [
      .mk (publicLabel .functionDefinition "f") [
        .mk { publicLabel .classDefinition "c" with documented := false } [
          .mk fenceLabel [.mk (publicLabel .modulePart "q") [soleMethod]]]]]]

theorem transparent_nodes_fencedClass :
    fencedClass.dissolve (fun _ => true) = heldClass [soleMethod] ∧
    (heldClass [soleMethod]).Wrapped (heldClass [.mk fenceLabel [soleMethod]]) ∧
    fenceLabel.kind.isTransparent ∧
    (declarations "m" {} fencedClass).map (·.displayName) = ["f", "c"] ∧
    declarations "m" {} (heldClass [soleMethod]) = declarations "m" {} fencedClass ∧
    declarations "m" {} (heldClass [.mk fenceLabel [soleMethod]]) =
      declarations "m" {} (heldClass [soleMethod]) ∧
    declarations "m" {} (.mk fenceLabel [fencedClass]) = declarations "m" {} fencedClass := by
  have hw : (heldClass [soleMethod]).Wrapped (heldClass [.mk fenceLabel [soleMethod]]) :=
    .child [] [] <| .child [] [] <| .here [] [soleMethod] [] rfl
  have ⟨hd, _, hr⟩ := transparent_nodes "m" {} fencedClass
  have ⟨_, hm, _⟩ := transparent_nodes "m" {} (heldClass [soleMethod])
  exact ⟨rfl, hw, rfl, by decide, hd fun _ => true, hm _ hw, hr fenceLabel rfl⟩

end ApiLens
