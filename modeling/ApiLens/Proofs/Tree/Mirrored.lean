import ApiLens.Proofs.Tree.Rows

/-!
The tree in a JSON value is the tree of its visible objects.
-/

namespace ApiLens

-- The nodes of `root` stand for the visible objects of `v`, one for one.
structure Mirrors (root : Node) (v : Json) (rows : List Row) : Prop where
  preorder : rows.Pairwise (·.1 < ·.1)
  documentOrder : rows.Pairwise (·.2 < ·.2)
  nodes p : (∃ j, (p, j) ∈ rows) ↔ (root.at? p).isSome
  objects j : (∃ p, (p, j) ∈ rows) ↔ v.Visible j
  parent p i j : (p ++ [i], j) ∈ rows → ∃ k, (p, k) ∈ rows ∧ v.Encloses k j
  label p j : (p, j) ∈ rows → ∃ n fields tag, root.at? p = some n ∧ v.at? j = some (.obj fields) ∧
    Json.Fields.get? fields "kind" = some (.str tag) ∧ n.label = .ofFields tag fields

namespace Json

open Node (within)

-- The rows of a root, which has no number.
def treeRows (fields : Fields) : List Row := ([], []) :: rowsOfFields 0 0 fields

theorem map_treeRows (h : tag? fields = some tag) :
    (treeRows fields).map (fun r => (0 :: r.1, r.2)) = rows 0 (obj fields) := by
  simp [treeRows, rows_of_tagged h, rowsOfFields_eq, parts]

theorem mem_treeRows_iff (h : tag? fields = some tag) :
    (p, j) ∈ treeRows fields ↔ (0 :: p, j) ∈ rows 0 (obj fields) := by
  simp [← map_treeRows h]

theorem treeRows_pairwise (h : tag? fields = some tag) :
    (treeRows fields).Pairwise Row.Before := by
  have hr := rows_pairwise (obj fields) 0
  rw [← map_treeRows h, List.pairwise_map] at hr
  exact hr.imp fun ⟨hp, hj⟩ => ⟨List.cons_lt_cons_self.mp hp, hj⟩

theorem at?_of_mem_treeRows (h : tag? fields = some tag) (hr : (p, j) ∈ treeRows fields) :
    ∃ fields' tag', (Node.ofFields tag fields).at? p = some (.ofFields tag' fields') ∧
      (obj fields).at? j = some (obj fields') ∧ tag? fields' = some tag' := by
  rw [mem_treeRows_iff h] at hr
  have ⟨i, q, n, fields', tag', hp, hn, hq, hj, ht⟩ := at?_of_mem_rows hr
  obtain ⟨hi, rfl⟩ := List.cons.inj hp
  rw [Nat.zero_add] at hi
  subst hi
  simp only [within, h, List.getElem?_cons_zero, Option.some.injEq] at hn
  exact ⟨fields', tag', by rwa [Node.ofFields, hn], hj, ht⟩

theorem mirrors_treeRows (h : tag? fields = some tag) :
    Mirrors (.ofFields tag fields) (obj fields) (treeRows fields) where
  preorder := (treeRows_pairwise h).imp And.left
  documentOrder := (treeRows_pairwise h).imp And.right
  nodes p := by
    constructor
    case mp =>
      intro ⟨j, hr⟩
      obtain ⟨_, _, hp, _⟩ := at?_of_mem_treeRows h hr
      exact Option.isSome_of_eq_some hp
    case mpr =>
      intro hp
      obtain ⟨m, hm⟩ := Option.isSome_iff_exists.mp hp
      have hw : (within (obj fields))[0]? = some (.ofFields tag fields) := by
        simp [within, h, Node.ofFields]
      obtain ⟨j, hr⟩ := exists_mem_rows_of_at? hw hm (k := 0)
      exact ⟨j, (mem_treeRows_iff h).mpr hr⟩
  objects j := by
    rw [← exists_mem_rows_iff_visible (k := 0), ← map_treeRows h]
    simp
  parent p i j hr := by
    rw [mem_treeRows_iff h] at hr
    obtain ⟨k, hk, he⟩ := exists_mem_rows_encloses (p := 0 :: p) hr (by simp)
    exact ⟨k, (mem_treeRows_iff h).mpr hk, he⟩
  label p j hr := by
    obtain ⟨fields', tag', hp, hj, ht⟩ := at?_of_mem_treeRows h hr
    exact ⟨_, fields', tag', hp, hj, tag?_eq_some_iff.mp ht, rfl⟩

end Json

theorem ofJson_mirrors (v : Json) :
    match Node.ofJson v with
    | .ok root => v.Tagged ∧ ∃ rows, Mirrors root v rows
    | .error _ => ¬v.Tagged := by
  cases v
  case obj fields =>
    cases h : tag? fields
    case none   => simp [Node.ofJson, Json.tagged_obj_iff, h]
    case some t =>
      simp only [Node.ofJson, h]
      exact ⟨Json.tagged_obj_iff.mpr ⟨t, h⟩, _, Json.mirrors_treeRows h⟩
  all_goals simp [Node.ofJson, Json.Tagged]

-- The array hides nothing, the object without a tag hides what it holds.
example : Json.treeRows [("kind", .str "a"), ("x", .arr [.obj [("y", .obj [("kind", .str "b")])],
    .obj [("kind", .str "c")]])] = [([], []), ([0], [1, 1])] := rfl

end ApiLens
