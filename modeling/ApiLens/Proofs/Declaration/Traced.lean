import ApiLens.Proofs.Declaration.Unplaced
import ApiLens.Proofs.Tree.Mirrored

/-!
Where the declarations of a value come from: the objects in it that they stand for.
-/

namespace ApiLens

-- A declaration, the moment of the walk that it belongs to, and the place of its object in the
-- value.
structure Source where
  mark : Mark
  place : Address
  declaration : Declaration

-- All declarations of a value, each with the object that its node is read from.
structure Traced (v : Json) (root : Node) (moduleName : String) (policy : Policy)
    (sources : List Source) : Prop where
  declarations : sources.map Source.declaration = ApiLens.declarations moduleName policy root
  ordered : sources.Pairwise (·.mark.key < ·.mark.key)
  recorded s : s ∈ sources → Recorded moduleName policy root s.mark s.declaration
  mirrored : ∃ rows, Mirrors root v rows ∧ ∀ s ∈ sources, (s.mark.address, s.place) ∈ rows

theorem Recorded.exists_node {m : Mark} (h : Recorded moduleName policy root m d) :
    ∃ n, root.at? m.address = some n ∧ n.label.span = d.span := by
  obtain ⟨hn, -, -, -, -⟩ | ⟨hn, -, -, -⟩ := h
  all_goals exact ⟨_, hn, rfl⟩

theorem Recorded.moduleName_eq {m : Mark} (h : Recorded moduleName policy root m d) :
    d.moduleName = moduleName := by
  cases h <;> rfl

-- The position that the object at a place gives for itself.
def Json.positionAt? (v : Json) (place : Address) : Option Json :=
  (v.at? place).bind (·.get? "position")

theorem Traced.span_eq (h : Traced v root moduleName policy sources) (hs : s ∈ sources) :
    s.declaration.span = ((v.positionAt? s.place).map Span.ofJson).getD .unknown := by
  have ⟨rows, hm, hr⟩ := h.mirrored
  have ⟨n, fields, tag, hn, hp, _, hl⟩ := hm.label _ _ (hr s hs)
  have ⟨n', hn', hspan⟩ := (h.recorded s hs).exists_node
  cases hn.symm.trans hn'
  rw [← hspan, hl, Json.positionAt?, hp]
  rfl

namespace Json

-- The place of the object that the node at an address is read from.
def placeOf (v : Json) (p : Address) : Address := ((rows 0 v).lookup (0 :: p)).getD []

def sources (v : Json) (root : Node) (moduleName : String) (policy : Policy) : List Source :=
  (root.rows moduleName policy false).map fun r => ⟨r.1, v.placeOf r.1.address, r.2⟩

theorem mem_of_lookup {l : List (Address × Address)} (h : (p, j) ∈ l) :
    (p, (l.lookup p).getD []) ∈ l := by
  have hs : (l.lookup p).isSome := List.lookup_isSome_iff.mpr ⟨(p, j), h, by simp⟩
  have ⟨j', hj⟩ := Option.isSome_iff_exists.mp hs
  obtain ⟨before, after, rfl, -⟩ := List.lookup_eq_some_iff.mp hj
  simp [hj]

theorem mem_placeOf (h : tag? fields = some tag) (hp : (p, j) ∈ treeRows fields) :
    (p, (obj fields).placeOf p) ∈ treeRows fields := by
  rw [mem_treeRows_iff h] at hp ⊢
  exact mem_of_lookup hp

theorem traced_sources (h : Node.ofJson v = .ok root) :
    Traced v root moduleName policy (v.sources root moduleName policy) where
  declarations := by
    rw [declarations_eq_listing, ← Node.map_snd_rows, sources, List.map_map]
    rfl
  ordered := List.pairwise_map.mpr <| root.rows_pairwise false
  recorded s hs := by
    obtain ⟨⟨m, d⟩, hr, rfl⟩ := List.mem_map.mp hs
    exact (Node.mem_rows_iff.mp hr).1
  mirrored := by
    obtain ⟨fields, tag, rfl, ht, rfl⟩ := exists_of_ofJson h
    have hm := mirrors_treeRows ht
    refine ⟨treeRows fields, hm, fun s hs => ?_⟩
    obtain ⟨⟨m, d⟩, hr, rfl⟩ := List.mem_map.mp hs
    have ⟨n, hn, _⟩ := (Node.mem_rows_iff.mp hr).1.exists_node
    have ⟨j, hj⟩ := (hm.nodes m.address).mpr <| Option.isSome_of_eq_some hn
    exact mem_placeOf ht hj

end Json
end ApiLens
