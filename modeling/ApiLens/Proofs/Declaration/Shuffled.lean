import ApiLens.Proofs.Declaration.Composed
import ApiLens.Proofs.Tree.Edited
import Mathlib.Data.List.Perm.Basic

/-!
The declarations of a tree do not depend on the order of children, nor the tree on the order of
fields.
-/

namespace ApiLens

namespace Node

-- The same nodes with the same labels, but children may stand in another order, at any depth.
inductive Shuffled : Node → Node → Prop
  | refl : Shuffled n n
  | trans : Shuffled n m → Shuffled m k → Shuffled n k
  | here : cs.Perm ds → Shuffled (mk l cs) (mk l ds)
  | child : Shuffled c d → Shuffled (mk l (before ++ c :: after)) (mk l (before ++ d :: after))

instance : Std.Refl Shuffled := ⟨fun _ => .refl⟩

instance : IsTrans Node Shuffled := ⟨fun _ _ _ => .trans⟩

-- Each child takes its new place after those before it have.
theorem Shuffled.children (h : List.Forall₂ Shuffled cs ds) : Shuffled (mk l cs) (mk l ds) := by
  suffices ∀ before, Shuffled (mk l (before ++ cs)) (mk l (before ++ ds)) from this []
  induction h
  case nil => exact fun _ => .refl
  case cons c d cs ds hc _ ih =>
    intro before
    have hr : Shuffled (mk l (before ++ [d] ++ cs)) (mk l (before ++ [d] ++ ds)) := ih _
    rw [List.append_assoc, List.append_assoc] at hr
    exact .trans (.child hc) hr

section Listing

variable {policy : Policy} {moduleName : String} {n m : Node}

theorem Shuffled.counts_eq (h : n.Shuffled m) : n.counts policy = m.counts policy := by
  induction h
  case refl => rfl
  case trans ih₁ ih₂ => exact ih₁.trans ih₂
  case here hp => simp [counts, anyCounts_eq_any, hp.any_eq, isMember]
  case child ih => simp [counts, anyCounts_eq_any, ih, isMember]

theorem perm_listing_mk (ha : anyCounts policy cs = anyCounts policy ds)
    (hl : ∀ inside, (cs.flatMap (listing moduleName policy inside)).Perm
      (ds.flatMap (listing moduleName policy inside))) (inside) :
    (listing moduleName policy inside (mk l cs)).Perm
      (listing moduleName policy inside (mk l ds)) := by
  have hf : functionRecord? moduleName inside (mk l cs) =
      functionRecord? moduleName inside (mk l ds) := rfl
  rw [listing, listing, hf, containerRecord?_mk_eq ha, listingAll_eq_flatMap, listingAll_eq_flatMap]
  exact ((hl _).append_left _).append_right _

theorem Shuffled.perm_listing (h : n.Shuffled m) (inside) :
    (listing moduleName policy inside n).Perm (listing moduleName policy inside m) := by
  induction h generalizing inside
  case refl => exact .refl _
  case trans ih₁ ih₂ => exact (ih₁ _).trans (ih₂ _)
  case here hp =>
    refine perm_listing_mk ?_ (fun _ => hp.flatMap_right _) inside
    rw [anyCounts_eq_any, anyCounts_eq_any, hp.any_eq]
  case child hc ih =>
    refine perm_listing_mk ?_ (fun _ => ?_) inside
    case refine_1 => simp [anyCounts_eq_any, hc.counts_eq]
    case refine_2 =>
      simp only [List.flatMap_append, List.flatMap_cons]
      exact ((ih _).append_right _).append_left _

theorem Shuffled.perm_declarations (h : n.Shuffled m) :
    (declarations moduleName policy n).Perm (declarations moduleName policy m) := by
  rw [declarations_eq_listing, declarations_eq_listing]
  exact h.perm_listing false

end Listing

end Node

namespace Json

-- The fields of objects stand in another order, at any depth. An object has no key twice.
def Reordered : Json → Json → Prop :=
  Edited fun fields fields' => fields.Distinct ∧ fields.Perm fields'

namespace Fields

variable {fields fields' : Fields}

theorem shuffled_ofFields (h : fields.Distinct) (hp : fields.Perm fields') :
    (Node.ofFields tag fields).Shuffled (.ofFields tag fields') := by
  have hl : Label.ofFields tag fields = Label.ofFields tag fields' :=
    Label.ofFields_eq fun key _ => by rw [Match, get?_eq_of_perm h hp]
  simp only [Node.ofFields, hl, Node.withinFields_eq, withinItems_eq_flatMap]
  exact .here <| (hp.map _).flatMap_right _

end Fields

theorem Reordered.ofJson (h : Reordered v w) :
    (∃ e, Node.ofJson v = .error e ∧ Node.ofJson w = .error e) ∨
      ∃ n m, Node.ofJson v = .ok n ∧ Node.ofJson w = .ok m ∧ n.Shuffled m := by
  have ⟨ht, hw⟩ := Edited.reading (S := Node.Shuffled) h (fun _ _ _ => .children) ?_
  · exact ofJson_rel (congrArg Traits.found ht) hw
  · intro fields fields' ⟨hd, hp⟩
    have hm key : fields.Match fields' key := by rw [Fields.Match, Fields.get?_eq_of_perm hd hp]
    refine ⟨traits_obj_eq fun key _ _ => hm key, forall₂_within_obj (tag?_eq (hm _)) fun tag => ?_⟩
    exact Fields.shuffled_ofFields hd hp

end Json

theorem field_order_insensitive (h : v.Reordered w) :
    (∃ e, Node.ofJson v = .error e ∧ Node.ofJson w = .error e) ∨
      ∃ n m, Node.ofJson v = .ok n ∧ Node.ofJson w = .ok m ∧ n.Shuffled m ∧
        ∀ moduleName policy,
          (declarations moduleName policy n).Perm (declarations moduleName policy m) := by
  obtain he | ⟨n, m, hn, hm, hs⟩ := h.ofJson
  · exact .inl he
  · exact .inr ⟨n, m, hn, hm, hs, fun _ _ => hs.perm_declarations⟩

-- Two functions, in a value that is turned round at two depths.
def publicFunction (name : String) : Json.Fields :=
  [("kind", .str "FunctionDefinition"), ("functionName", .obj [("value", .str name)]),
    ("metadata", .obj []), ("visibilityQualifier", .obj [("value", .str "public")])]

def pair : Json :=
  .obj [("kind", .str "ModulePart"), ("first", .obj (publicFunction "f")),
    ("second", .obj (publicFunction "g"))]

def turnedPair : Json :=
  .obj [("second", .obj (publicFunction "g")), ("first", .obj (publicFunction "f").reverse),
    ("kind", .str "ModulePart")]

theorem reordered_pair : pair.Reordered turnedPair := by
  have hd (fields : Json.Fields) (h : (fields.map Prod.fst).Nodup) :
      fields.Distinct ∧ fields.Perm fields.reverse := ⟨h, fields.reverse_perm.symm⟩
  refine .trans (.field [("kind", .str "ModulePart")] "first" _ ?_) (.here (hd _ ?_))
  · exact .here (hd (publicFunction "f") (by decide))
  · decide

def shownNames (v : Json) : List String :=
  ((Node.ofJson v).toOption.map fun root => (declarations "m" {} root).map (·.displayName)).getD []

theorem field_order_insensitive_pair : ∃ n m,
    Node.ofJson pair = .ok n ∧ Node.ofJson turnedPair = .ok m ∧ n.Shuffled m ∧
    (declarations "m" {} n).Perm (declarations "m" {} m) ∧
    (declarations "m" {} n).map (·.displayName) = ["f", "g"] ∧
    (declarations "m" {} m).map (·.displayName) = ["g", "f"] := by
  have hp : shownNames pair = ["f", "g"] := by decide
  have ht : shownNames turnedPair = ["g", "f"] := by decide
  obtain ⟨e, he, -⟩ | ⟨n, m, hn, hm, hs, hd⟩ := field_order_insensitive reordered_pair
  · simp [shownNames, he, Except.toOption] at hp
  · simp only [shownNames, hn, hm, Except.toOption, Option.map_some, Option.getD_some] at hp ht
    exact ⟨n, m, hn, hm, hs, hd _ _, hp, ht⟩

end ApiLens
