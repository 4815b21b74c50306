import ApiLens.Proofs.Declaration.Recorded

/-!
The declarations of a node, put together from those of its children.

Of what lies around a subtree its declarations only see whether it is a container at all, which takes
the free functions away and nothing else.
-/

namespace ApiLens

-- Whether a declaration has a place there: a container lists no free functions.
def Declaration.fits (inside : Bool) (d : Declaration) : Bool := !inside || d.category ≠ .function

namespace Declaration

variable {d : Declaration}

theorem fits_of_ne_function (h : d.category ≠ .function) : d.fits inside := by
  simp [fits, h]

theorem fits_or : d.fits (b || c) = (d.fits b && d.fits c) := by
  cases b <;> cases c <;> simp [fits]

end Declaration

namespace Node

variable {moduleName : String} {policy : Policy} {n : Node}

theorem listingAll_eq_flatMap :
    listingAll moduleName policy inside cs = cs.flatMap (listing moduleName policy inside) := by
  induction cs <;> simp_all [listingAll]

-- Of the children a record only takes whether one of them counts.
theorem containerRecord?_mk_eq (h : anyCounts policy cs = anyCounts policy ds) :
    containerRecord? moduleName policy (mk l cs) =
      containerRecord? moduleName policy (mk l ds) := by
  have hd : Outline.declare? moduleName (mk l cs) = Outline.declare? moduleName (mk l ds) := rfl
  simp [containerRecord?, h, hd]

theorem functionRecord?_eq_filter : n.functionRecord? moduleName inside =
    (n.functionRecord? moduleName false).filter (·.fits inside) := by
  ext d
  rw [functionRecord?_eq_some_iff_outside, Option.filter_eq_some_iff]
  cases inside <;> simp [Declaration.fits]

theorem containerRecord?_eq_filter (inside) : n.containerRecord? moduleName policy =
    (n.containerRecord? moduleName policy).filter (·.fits inside) := by
  ext d
  rw [Option.filter_eq_some_iff]
  refine (and_iff_left_of_imp fun h => ?_).symm
  exact Declaration.fits_of_ne_function <| ne_function_of_containerRecord? h

theorem listingAll_eq_filter (inside)
    (h : ∀ c ∈ cs, ∀ inside, listing moduleName policy inside c =
      (listing moduleName policy false c).filter (·.fits inside)) :
    listingAll moduleName policy inside cs =
      (listingAll moduleName policy false cs).filter (·.fits inside) := by
  induction cs
  case nil => rfl
  case cons c rest ih =>
    have ⟨hc, hr⟩ := List.forall_mem_cons.mp h
    rw [listingAll, listingAll, hc, ih hr, List.filter_append]

-- A subtree lists the same everywhere, free functions apart.
theorem listing_eq_filter (n : Node) (inside) : listing moduleName policy inside n =
    (listing moduleName policy false n).filter (·.fits inside) := by
  induction n generalizing inside
  case mk l cs ih =>
    simp only [listing, List.filter_append, ← Option.toList_filter, ← functionRecord?_eq_filter,
      ← containerRecord?_eq_filter]
    rw [listingAll_eq_filter _ ih, listingAll_eq_filter (false || _) ih, List.filter_filter]
    simp [Declaration.fits_or]

-- A container lists no free functions anyway.
theorem filter_listing_of_container (h : n.kind.isContainer) :
    (listing moduleName policy false n).filter (·.fits inside) =
      listing moduleName policy false n := by
  have ht (inside) : listing moduleName policy inside n = listing moduleName policy true n := by
    cases n with | mk l cs =>
    rw [kind_mk] at h
    simp [listing, functionRecord?_of_container moduleName _ (n := mk l cs) h, h]
  rw [← listing_eq_filter, ht, ht false]

end Node

section Declarations

variable {moduleName : String} {policy : Policy} {n root : Node}

theorem declarations_of_not_container (h : n.kind.isContainer = false) :
    declarations moduleName policy n = (n.functionRecord? moduleName false).toList ++
      n.children.flatMap (declarations moduleName policy) := by
  cases n with | mk l cs =>
  have hr := Node.containerRecord?_of_not_container moduleName policy h
  rw [Node.kind_mk] at h
  simp [funext declarations_eq_listing, Node.listing, Node.listingAll_eq_flatMap, h, hr]

theorem declarations_of_container (h : n.kind.isContainer) :
    declarations moduleName policy n =
      (n.children.flatMap (declarations moduleName policy)).filter (·.fits true) ++
        (n.containerRecord? moduleName policy).toList := by
  cases n with | mk l cs =>
  have hf := Node.functionRecord?_of_container moduleName false h
  have hi : Node.listingAll moduleName policy true cs =
      (Node.listingAll moduleName policy false cs).filter (·.fits true) :=
    Node.listingAll_eq_filter true fun c _ => Node.listing_eq_filter c
  rw [Node.kind_mk] at h
  simp [funext declarations_eq_listing, Node.listing, hi, Node.listingAll_eq_flatMap, h, hf]

theorem found_walkUnder_of_container (h : n.kind.isContainer) (parent o) :
    ((Outline.visitor moduleName policy).walkUnder parent n o).found =
      o.found ++ declarations moduleName policy n := by
  rw [Outline.walkUnder_eq_take, declarations_eq_listing, Node.listing_eq_filter,
    Node.filter_listing_of_container h]
  rfl

theorem filter_declarations_of_container (h : n.kind.isContainer) :
    (declarations moduleName policy n).filter (·.fits inside) =
      declarations moduleName policy n := by
  rw [declarations_eq_listing, Node.filter_listing_of_container h]

theorem declarations_infix_flatMap {cs : List Node} (h : c ∈ cs) :
    declarations moduleName policy c <:+: cs.flatMap (declarations moduleName policy) := by
  obtain ⟨before, after, rfl⟩ := List.append_of_mem h
  rw [List.flatMap_append, List.flatMap_cons]
  exact List.infix_append' ..

-- What is listed of a container stands together in what is listed of any tree around it.
theorem declarations_infix_of_at? (hn : n.kind.isContainer) (h : root.at? p = some n) :
    declarations moduleName policy n <:+: declarations moduleName policy root := by
  induction p generalizing root
  case nil => cases h; exact List.infix_rfl
  case cons i p ih =>
    have ⟨c, hc, hp⟩ := Node.at?_cons_eq_some_iff.mp h
    have hi := (ih hp).trans <| declarations_infix_flatMap <| List.mem_of_getElem? hc
    cases hk : root.kind.isContainer
    case false =>
      rw [declarations_of_not_container hk]
      exact hi.trans (List.suffix_append ..).isInfix
    case true =>
      rw [declarations_of_container hk, ← filter_declarations_of_container hn]
      exact (hi.filter _).trans (List.prefix_append ..).isInfix

end Declarations

-- How the declarations of `n` are put together, whatever there is around it.
structure Composed (moduleName : String) (policy : Policy) (n : Node) : Prop where
  -- A free function stands before all that it holds.
  free : n.kind.isContainer = false → ∃ own : Option Declaration,
    declarations moduleName policy n =
      own.toList ++ n.children.flatMap (declarations moduleName policy) ∧
    ∀ d, own = some d ↔ n.kind = .functionDefinition ∧ n.label.isApi ∧
      ∃ name, n.name = some name ∧ ⟨n.label.span, name, moduleName, .function⟩ = d
  -- A container stands after all that it holds, and free functions are not listed in it.
  container : n.kind.isContainer → ∃ own : Option Declaration,
    declarations moduleName policy n =
      (n.children.flatMap (declarations moduleName policy)).filter (·.category ≠ .function) ++
        own.toList ∧
    ∀ d, own = some d ↔ n.Listed policy ∧ ∃ name category,
      n.name = some name ∧ category.Holds n.kind ∧ ⟨n.label.span, name, moduleName, category⟩ = d
  -- A walk that comes to a container adds the same to what it has found, whatever that is and
  -- whichever containers it is in, and so it does in any tree.
  anywhere : n.kind.isContainer → ∀ parent o,
    ((Outline.visitor moduleName policy).walkUnder parent n o).found =
      o.found ++ declarations moduleName policy n
  embedded : n.kind.isContainer → ∀ (root : Node) p, root.at? p = some n →
    declarations moduleName policy n <:+: declarations moduleName policy root

theorem declarations_composed (moduleName : String) (policy : Policy) (n : Node) :
    Composed moduleName policy n where
  free h := by
    refine ⟨_, declarations_of_not_container h, fun d => ?_⟩
    simp [Node.functionRecord?_eq_some_iff]
  container h := by
    refine ⟨n.containerRecord? moduleName policy, ?_, fun d => Node.containerRecord?_eq_some_iff⟩
    simp [declarations_of_container h, Declaration.fits]
  anywhere h := found_walkUnder_of_container h
  embedded h _ _ := declarations_infix_of_at? h

-- A class of its own with a function in it and a record, both with documentation.
def publicLabel (kind : NodeKind) (name : String) : Label where
  kind := kind
  span := .unknown
  documented := true
  qualifiers := ["public"]
  visibility := none
  name := some name

def crate : Node :=
  .mk (publicLabel .classDefinition "c") [.mk (publicLabel .functionDefinition "f") [],
    .mk (publicLabel (.typeDefinition .record) "r") []]

theorem declarations_composed_crate :
    crate.children.flatMap (declarations "m" {}) =
      [⟨.unknown, "f", "m", .function⟩, ⟨.unknown, "r", "m", .record⟩] ∧
    declarations "m" {} crate =
      [⟨.unknown, "r", "m", .record⟩, ⟨.unknown, "c", "m", .classDefinition⟩] ∧
    declarations "m" {} crate <:+:
      declarations "m" {} (.mk (publicLabel .modulePart "p") [crate]) := by
  have hc : crate.children.flatMap (declarations "m" {}) =
      [⟨.unknown, "f", "m", .function⟩, ⟨.unknown, "r", "m", .record⟩] := by decide
  have composed := declarations_composed "m" {} crate
  have ⟨own, hd, ho⟩ := composed.container rfl
  have hown : own = some ⟨.unknown, "c", "m", .classDefinition⟩ :=
    (ho _).mpr ⟨.api rfl rfl rfl, "c", .classDefinition, rfl, .classDefinition, rfl⟩
  refine ⟨hc, ?_, composed.embedded rfl _ [0] rfl⟩
  rw [hd, hc, hown]
  rfl

end ApiLens
