import ApiLens.Proofs.Declaration.Recorded
import ApiLens.Proofs.Tree.Edited

/-!
What is declared in a tree does not depend on where it stands in the source.

A tree without its spans lists the same declarations at the same moments of the walk, without their
spans. So two values that differ in positions alone have the same declarations but for these.
-/

namespace ApiLens

def Declaration.unplaced (d : Declaration) : Declaration := { d with span := .unknown }

theorem Declaration.eq_of_unplaced_eq {d d' : Declaration} (h : d.unplaced = d'.unplaced)
    (hs : d.span = d'.span) : d = d' := by
  cases d; cases d'
  simp_all [unplaced]

namespace Node

def unplaced : Node → Node
  | mk l cs => mk l.unplaced (cs.map unplaced)

variable {moduleName : String} {policy : Policy} {n : Node}

@[simp]
theorem label_unplaced : n.unplaced.label = n.label.unplaced := by
  cases n; simp [unplaced]

@[simp]
theorem kind_unplaced : n.unplaced.kind = n.kind := by
  cases n; simp [unplaced, Label.unplaced]

@[simp]
theorem children_unplaced : n.unplaced.children = n.children.map unplaced := by
  cases n; simp [unplaced]

theorem isApi_unplaced {l : Label} : l.unplaced.isApi = l.isApi := rfl

theorem anyCounts_map_unplaced (h : ∀ c ∈ cs, c.unplaced.counts policy = c.counts policy) :
    anyCounts policy (cs.map unplaced) = anyCounts policy cs := by
  induction cs
  case nil => rfl
  case cons c rest ih =>
    have ⟨hc, hr⟩ := List.forall_mem_cons.mp h
    rw [List.map_cons, anyCounts, anyCounts, hc, ih hr]

theorem counts_unplaced (n : Node) : n.unplaced.counts policy = n.counts policy := by
  induction n
  case mk l cs ih =>
    have hm : isMember policy (mk l.unplaced (cs.map unplaced)) = isMember policy (mk l cs) := rfl
    rw [unplaced, counts, counts, anyCounts_map_unplaced ih, hm]
    rfl

theorem declare?_unplaced {category : Category} :
    Outline.declare? moduleName n.unplaced category =
      (Outline.declare? moduleName n category).map Declaration.unplaced := by
  cases n
  simp [Outline.declare?, unplaced, Label.unplaced, Declaration.unplaced, Function.comp_def]

theorem functionRecord?_unplaced : n.unplaced.functionRecord? moduleName inside =
    (n.functionRecord? moduleName inside).map Declaration.unplaced := by
  simp only [functionRecord?, kind_unplaced, label_unplaced, isApi_unplaced, declare?_unplaced]
  split <;> rfl

theorem containerRecord?_unplaced : n.unplaced.containerRecord? moduleName policy =
    (n.containerRecord? moduleName policy).map Declaration.unplaced := by
  have ha : anyCounts policy (n.children.map unplaced) = anyCounts policy n.children :=
    anyCounts_map_unplaced fun c _ => counts_unplaced c
  simp only [containerRecord?, kind_unplaced, label_unplaced, children_unplaced, isApi_unplaced, ha]
  split
  case isFalse => rfl
  case isTrue => simp [Option.map_bind, declare?_unplaced]

theorem rowsFrom_map_unplaced
    (h : ∀ c ∈ cs, ∀ inside, rows moduleName policy inside c.unplaced =
      (rows moduleName policy inside c).map (Prod.map id Declaration.unplaced)) :
    rowsFrom moduleName policy inside i (cs.map unplaced) =
      (rowsFrom moduleName policy inside i cs).map (Prod.map id Declaration.unplaced) := by
  induction cs generalizing i
  case nil => rfl
  case cons c rest ih =>
    have ⟨hc, hr⟩ := List.forall_mem_cons.mp h
    simp [rowsFrom, hc, ih hr]

theorem rows_unplaced (n : Node) (inside) : rows moduleName policy inside n.unplaced =
    (rows moduleName policy inside n).map (Prod.map id Declaration.unplaced) := by
  induction n generalizing inside
  case mk l cs ih =>
    have hk : l.unplaced.kind = l.kind := rfl
    have hf : functionRecord? moduleName inside (mk l.unplaced (cs.map unplaced)) =
        (functionRecord? moduleName inside (mk l cs)).map Declaration.unplaced := by
      rw [← functionRecord?_unplaced, unplaced]
    have hc : containerRecord? moduleName policy (mk l.unplaced (cs.map unplaced)) =
        (containerRecord? moduleName policy (mk l cs)).map Declaration.unplaced := by
      rw [← containerRecord?_unplaced, unplaced]
    simp only [unplaced, rows, hk, hf, hc, rowsFrom_map_unplaced ih, List.map_append]
    cases functionRecord? moduleName inside (mk l cs) <;>
      cases containerRecord? moduleName policy (mk l cs) <;> rfl

end Node

namespace Json

open Node (within withinItems)

-- Nothing in a value, nor the value itself, is an object with a tag.
def Plain (v : Json) : Prop := ∀ j w, v.at? j = some w → ¬w.Tagged

theorem plain_iff {v : Json} : v.Plain ↔ ¬v.Tagged ∧ ∀ u ∈ v.parts, u.Plain := by
  constructor
  case mp =>
    refine fun h => ⟨h [] v v.at?_nil, fun u hu j w hw => ?_⟩
    have ⟨i, hi⟩ := List.mem_iff_getElem?.mp hu
    exact h (i :: j) w <| at?_cons_eq_some_iff.mpr ⟨u, hi, hw⟩
  case mpr =>
    intro ⟨ht, hp⟩ j w hw
    cases j
    case nil => cases hw; exact ht
    case cons i j =>
      have ⟨u, hu, hw⟩ := at?_cons_eq_some_iff.mp hw
      exact hp u (List.mem_of_getElem? hu) j w hw

theorem Plain.rows_eq_nil {v : Json} (h : v.Plain) : rows k v = [] := by
  refine List.eq_nil_iff_forall_not_mem.mpr fun ⟨p, j⟩ hr => ?_
  have ⟨⟨w, hw, ht⟩, _⟩ := exists_mem_rows_iff_visible.mp ⟨p, hr⟩
  exact h j w hw ht

theorem Plain.within_eq_nil {v : Json} (h : v.Plain) : within v = [] := by
  refine List.eq_nil_iff_forall_not_mem.mpr fun n hn => ?_
  have ⟨i, hi⟩ := List.mem_iff_getElem?.mp hn
  have ⟨j, hr⟩ := exists_mem_rows_of_at? hi n.at?_nil (k := 0)
  rw [h.rows_eq_nil] at hr
  cases hr

-- The position of one object is another one.
inductive Fields.Repositioned : Fields → Fields → Prop
  | position before after : p.Plain → q.Plain →
    Repositioned (before ++ ("position", p) :: after) (before ++ ("position", q) :: after)

-- Nothing but positions has changed, at any depth.
def Repositioned : Json → Json → Prop := Edited Fields.Repositioned

namespace Fields

variable {fields fields' : Fields}

theorem Repositioned.match (h : fields.Repositioned fields') (hk : key ≠ "position") :
    fields.Match fields' key := by
  obtain ⟨before, after, -, -⟩ := h
  exact match_field fun he => absurd he hk

theorem Repositioned.unplaced_ofFields (h : fields.Repositioned fields') (tag) :
    (Node.ofFields tag fields).unplaced = (Node.ofFields tag fields').unplaced := by
  have hl : (Label.ofFields tag fields).unplaced = (Label.ofFields tag fields').unplaced :=
    Label.unplaced_ofFields_eq fun _ _ => h.match
  obtain ⟨before, after, hp, hq⟩ := h
  simp [Node.ofFields, Node.unplaced, hl, Node.withinFields_eq, withinItems_eq_flatMap,
    hp.within_eq_nil, hq.within_eq_nil]

end Fields

section Repositioned

variable {v w : Json}

theorem Repositioned.reading (h : v.Repositioned w) : v.traits = w.traits ∧
    List.Forall₂ (fun n m => n.unplaced = m.unplaced) (within v) (within w) := by
  have : Std.Refl fun n m : Node => n.unplaced = m.unplaced := ⟨fun _ => rfl⟩
  have : IsTrans Node fun n m => n.unplaced = m.unplaced := ⟨fun _ _ _ => .trans⟩
  refine Edited.reading h (fun l cs ds hc => ?node) fun fields fields' hf => ?edit
  case node =>
    have hm : cs.map Node.unplaced = ds.map Node.unplaced := by
      rwa [← List.forall₂_eq_eq_eq, List.forall₂_map_left_iff, List.forall₂_map_right_iff]
    rw [Node.unplaced, Node.unplaced, hm]
  case edit =>
    refine ⟨traits_obj_eq fun _ _ => hf.match, forall₂_within_obj ?_ hf.unplaced_ofFields⟩
    exact tag?_eq (hf.match (by decide))

theorem rowsOfItems_eq (hr : ∀ k, rows k v = rows k w)
    (hl : (within v).length = (within w).length) :
    rowsOfItems k i (before ++ v :: after) = rowsOfItems k i (before ++ w :: after) := by
  induction before generalizing k i
  case nil => simp only [List.nil_append, rowsOfItems, hr, hl]
  case cons u before ih => simp only [List.cons_append, rowsOfItems, ih]

theorem rows_obj_eq {fields fields' : Fields} (ht : tag? fields = tag? fields')
    (h : rowsOfItems 0 0 (obj fields).parts = rowsOfItems 0 0 (obj fields').parts) (k) :
    rows k (obj fields) = rows k (obj fields') := by
  simp only [rows, ht, rowsOfFields_eq]
  rw [show rowsOfItems 0 0 (fields.map Prod.snd) = rowsOfItems 0 0 (fields'.map Prod.snd) from h]

-- Every node still stands for the object at its place.
theorem Repositioned.rows_eq (h : v.Repositioned w) : ∀ k, rows k v = rows k w := by
  induction h
  case refl => exact fun _ => rfl
  case trans ih₁ ih₂ => exact fun k => (ih₁ k).trans (ih₂ k)
  case here hf =>
    refine rows_obj_eq (tag?_eq (hf.match (by decide))) ?_
    obtain ⟨before, after, hp, hq⟩ := hf
    simp only [parts, List.map_append, List.map_cons]
    refine rowsOfItems_eq (fun k => ?_) ?_
    · rw [hp.rows_eq_nil, hq.rows_eq_nil]
    · rw [hp.within_eq_nil, hq.within_eq_nil]
  case field v w before key after hv ih =>
    obtain ⟨ht, hl⟩ := Repositioned.reading hv
    refine rows_obj_eq (tag?_eq <| Fields.match_field fun _ => ht) ?_
    simp only [parts, List.map_append, List.map_cons]
    exact rowsOfItems_eq ih hl.length_eq
  case item hv ih =>
    obtain ⟨_, hl⟩ := Repositioned.reading hv
    exact fun k => rowsOfItems_eq ih hl.length_eq

end Repositioned

end Json
end ApiLens
