import ApiLens.Proofs.Declaration.Listed
import ApiLens.Proofs.Tree.Mark

/-!
The declarations of a tree, and their order, told by the tree alone.

The order is that of a walk in which a function stands where it is entered and a container where it
is left.
-/

namespace ApiLens

-- The record `d` belongs at the moment `m` of the walk.
inductive Recorded (moduleName : String) (policy : Policy) (root : Node) : Mark → Declaration → Prop
  | function :
    root.at? p = some f → f.kind = .functionDefinition → f.name = some name → f.label.isApi →
    (∀ q c, Above q p → root.at? q = some c → c.kind.isContainer = false) →
    Recorded moduleName policy root ⟨.entered, p⟩ ⟨f.label.span, name, moduleName, .function⟩
  | container :
    root.at? p = some c → c.Listed policy → c.name = some name → category.Holds c.kind →
    Recorded moduleName policy root ⟨.left, p⟩ ⟨c.label.span, name, moduleName, category⟩

section Recorded

variable {moduleName : String} {policy : Policy} {d : Declaration} {n : Node}

theorem recorded_entered_nil_iff :
    Recorded moduleName policy n ⟨.entered, []⟩ d ↔
      n.functionRecord? moduleName false = some d := by
  rw [Node.functionRecord?_eq_some_iff]
  constructor
  case mp =>
    rintro (⟨hf, hk, hn, ha, -⟩ | _)
    cases hf
    exact ⟨hk, rfl, ha, _, hn, rfl⟩
  case mpr =>
    rintro ⟨hk, -, ha, name, hn, rfl⟩
    exact .function rfl hk hn ha (by simp [not_above_nil])

theorem recorded_left_nil_iff :
    Recorded moduleName policy n ⟨.left, []⟩ d ↔ n.containerRecord? moduleName policy = some d := by
  rw [Node.containerRecord?_eq_some_iff]
  constructor
  case mp =>
    rintro (_ | ⟨hc, hl, hn, hk⟩)
    cases hc
    exact ⟨hl, _, _, hn, hk, rfl⟩
  case mpr =>
    rintro ⟨hl, name, category, hn, hc, rfl⟩
    exact .container rfl hl hn hc

theorem recorded_under_iff {m : Mark} :
    Recorded moduleName policy n (m.under i) d ↔ ∃ c, n.children[i]? = some c ∧
      Recorded moduleName policy c m d ∧ (n.kind.isContainer → d.category ≠ .function) := by
  constructor
  case mp =>
    cases m
    rintro (⟨hf, hk, hn, ha, ho⟩ | ⟨hf, hl, hn, hk⟩)
    case function =>
      have ⟨c, hc, hf⟩ := Node.at?_cons_eq_some_iff.mp hf
      have ⟨hn', ho⟩ := Node.forall_above_iff.mp ho
      rw [Node.forall_between_cons_iff hc] at ho
      exact ⟨c, hc, .function hf hk hn ha ho, by simp [hn']⟩
    case container =>
      have ⟨c, hc, hf⟩ := Node.at?_cons_eq_some_iff.mp hf
      exact ⟨c, hc, .container hf hl hn hk, fun _ => hk.ne_function⟩
  case mpr =>
    rintro ⟨c, hc, (⟨hf, hk, hn, ha, ho⟩ | ⟨hf, hl, hn, hk⟩), hcat⟩
    case function =>
      refine .function (Node.at?_cons_eq_some_iff.mpr ⟨c, hc, hf⟩) hk hn ha ?_
      refine Node.forall_above_iff.mpr ⟨by simpa using hcat, ?_⟩
      exact (Node.forall_between_cons_iff hc).mpr ho
    case container => exact .container (Node.at?_cons_eq_some_iff.mpr ⟨c, hc, hf⟩) hl hn hk

end Recorded

namespace Node

variable (moduleName : String) (policy : Policy)

mutual

-- The listing together with the moments that its declarations belong to.
def rows (inside : Bool) : Node → List (Mark × Declaration)
  | .mk l cs =>
    ((functionRecord? moduleName inside (.mk l cs)).map (⟨.entered, []⟩, ·)).toList
      ++ rowsFrom (inside || l.kind.isContainer) 0 cs
      ++ ((containerRecord? moduleName policy (.mk l cs)).map (⟨.left, []⟩, ·)).toList

def rowsFrom (inside : Bool) (i : Nat) : List Node → List (Mark × Declaration)
  | [] => []
  | n :: rest => (rows inside n).map (fun r => (r.1.under i, r.2)) ++ rowsFrom inside (i + 1) rest

end

variable {moduleName : String} {policy : Policy} {d : Declaration}

theorem map_snd_rowsFrom
    (h : ∀ c ∈ cs, ∀ inside, (rows moduleName policy inside c).map Prod.snd =
      listing moduleName policy inside c) :
    (rowsFrom moduleName policy inside i cs).map Prod.snd =
      listingAll moduleName policy inside cs := by
  induction cs generalizing i
  case nil => rfl
  case cons c rest ih =>
    have ⟨hc, hr⟩ := List.forall_mem_cons.mp h
    simp [rowsFrom, listingAll, hc, ih hr, Function.comp_def]

theorem map_snd_rows (n : Node) (inside) :
    (rows moduleName policy inside n).map Prod.snd = listing moduleName policy inside n := by
  induction n generalizing inside
  case mk l cs ih =>
    simp only [rows, listing, List.map_append, map_snd_rowsFrom ih]
    cases functionRecord? moduleName inside (mk l cs) <;>
      cases containerRecord? moduleName policy (mk l cs) <;> rfl

theorem rowsFrom_eq_gatherFrom
    (h : ∀ c ∈ cs, ∀ inside, rows moduleName policy inside c = gather (functionRecord? moduleName)
      (fun _ => containerRecord? moduleName policy) (· || ·.kind.isContainer) inside c) :
    rowsFrom moduleName policy inside i cs = gatherFrom (functionRecord? moduleName)
      (fun _ => containerRecord? moduleName policy) (· || ·.kind.isContainer) inside i cs := by
  induction cs generalizing i
  case nil => rfl
  case cons c rest ih =>
    have ⟨hc, hr⟩ := List.forall_mem_cons.mp h
    rw [rowsFrom, gatherFrom, hc, ih hr]

theorem rows_eq_gather (n : Node) (inside) :
    rows moduleName policy inside n = gather (functionRecord? moduleName)
      (fun _ => containerRecord? moduleName policy) (· || ·.kind.isContainer) inside n := by
  induction n generalizing inside
  case mk l cs ih => rw [rows, gather, rowsFrom_eq_gatherFrom ih, kind_mk]

theorem mem_rows_entered_nil_iff :
    (⟨.entered, []⟩, d) ∈ rows moduleName policy inside n ↔
      n.functionRecord? moduleName inside = some d := by
  rw [rows_eq_gather, mem_gather_entered_nil_iff]

theorem mem_rows_left_nil_iff :
    (⟨.left, []⟩, d) ∈ rows moduleName policy inside n ↔
      n.containerRecord? moduleName policy = some d := by
  rw [rows_eq_gather, mem_gather_left_nil_iff]

theorem mem_rows_under_iff {m : Mark} :
    (m.under i, d) ∈ rows moduleName policy inside n ↔ ∃ c, n.children[i]? = some c ∧
      (m, d) ∈ rows moduleName policy (inside || n.kind.isContainer) c := by
  simp only [rows_eq_gather, mem_gather_under_iff]

theorem mem_rows_iff {m : Mark} :
    (m, d) ∈ rows moduleName policy inside n ↔
      Recorded moduleName policy n m d ∧ (inside → d.category ≠ .function) := by
  induction n generalizing inside m
  case mk l cs ih =>
    obtain rfl | rfl | ⟨i, m, rfl⟩ := m.cases
    case inl =>
      rw [mem_rows_entered_nil_iff, recorded_entered_nil_iff, functionRecord?_eq_some_iff_outside]
    case inr.inl =>
      rw [mem_rows_left_nil_iff, recorded_left_nil_iff]
      exact (and_iff_left_of_imp fun h _ => ne_function_of_containerRecord? h).symm
    case inr.inr =>
      rw [mem_rows_under_iff, recorded_under_iff, ← exists_and_right]
      refine exists_congr fun c => ?_
      rw [and_assoc, and_congr_right_iff]
      intro hc
      rw [ih c (List.mem_of_getElem? hc), Bool.or_eq_true, or_imp, and_assoc,
        and_comm (b := inside → _)]

theorem rows_pairwise (n : Node) (inside) :
    (rows moduleName policy inside n).Pairwise (·.1.key < ·.1.key) := by
  rw [rows_eq_gather]
  exact gather_pairwise n inside

end Node

-- The declarations of `root`, each with the moment that it belongs to.
structure Timeline (moduleName : String) (policy : Policy) (root : Node)
    (rows : List (Mark × Declaration)) : Prop where
  declarations : rows.map Prod.snd = ApiLens.declarations moduleName policy root
  ordered : rows.Pairwise (·.1.key < ·.1.key)
  recorded m d : (m, d) ∈ rows ↔ Recorded moduleName policy root m d

theorem timeline_rows (moduleName : String) (policy : Policy) (root : Node) :
    Timeline moduleName policy root (root.rows moduleName policy false) where
  declarations := by rw [declarations_eq_listing, Node.map_snd_rows]
  ordered := Node.rows_pairwise root false
  recorded m d := by simp [Node.mem_rows_iff]

theorem declarations_exact (moduleName : String) (policy : Policy) (root : Node) :
    ∃ rows : List (Mark × Declaration),
      declarations moduleName policy root = rows.map Prod.snd ∧
      rows.Pairwise (·.1.key < ·.1.key) ∧
      ∀ m d, (m, d) ∈ rows ↔ Recorded moduleName policy root m d := by
  exists root.rows moduleName policy false
  rw [declarations_eq_listing, Node.map_snd_rows]
  exact ⟨rfl, Node.rows_pairwise root false, fun m d => by simp [Node.mem_rows_iff]⟩

end ApiLens
