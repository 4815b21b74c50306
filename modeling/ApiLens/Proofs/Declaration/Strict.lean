import ApiLens.Proofs.Declaration.Recorded

/-!
What is no longer listed when documented functions in containers count only if they are public.

A container that is lost may have been the last documented member of the next one around it.
-/

namespace ApiLens

namespace Policy

def strict : Policy := { innerFunctionsRequirePublic := true }

def lax : Policy := { innerFunctionsRequirePublic := false }

end Policy

namespace Node

-- A documented function that counts only if it need not be public.
def IsHelper (f : Node) : Prop :=
  f.kind = .functionDefinition ∧ f.label.documented ∧ f.label.isPublic = false

-- The node is such a function or has one in it.
def HasHelper (n : Node) : Prop := ∃ p f, n.at? p = some f ∧ f.IsHelper

section Lax

variable {n : Node}

theorem isMember_lax (h : n.isMember .strict) : n.isMember .lax := by
  cases hk : n.kind <;> simp_all [isMember, Policy.strict, Policy.lax]

theorem isHelper_of_isMember (h : n.isMember .lax) (hs : ¬n.isMember .strict) : n.IsHelper := by
  cases hk : n.kind <;> simp_all [isMember, IsHelper, Policy.strict, Policy.lax]

theorem counts_lax (n : Node) : counts .strict n → counts .lax n := by
  induction n
  case mk l cs ih =>
    exact counts_imp rfl id id isMember_lax <| anyCounts_imp fun c hc h => ⟨c, hc, ih c hc h⟩

theorem Listed.lax : n.Listed .strict → n.Listed .lax :=
  Listed.imp rfl id id <| anyCounts_imp fun c hc h => ⟨c, hc, counts_lax c h⟩

theorem hasHelper_of_anyCounts
    (hc : ∀ c ∈ n.children, counts .lax c → ¬counts .strict c → c.HasHelper)
    (h : anyCounts .lax n.children) (hs : ¬anyCounts .strict n.children) : n.HasHelper := by
  simp only [anyCounts_eq_any, List.any_eq_true, not_exists, not_and] at h hs
  have ⟨c, hm, h⟩ := h
  have ⟨p, f, hf, hh⟩ := hc c hm h (hs c hm)
  have ⟨i, hi⟩ := List.mem_iff_getElem?.mp hm
  exact ⟨i :: p, f, at?_cons_eq_some_iff.mpr ⟨c, hi, hf⟩, hh⟩

theorem Listed.hasHelper
    (hc : ∀ c ∈ n.children, counts .lax c → ¬counts .strict c → c.HasHelper)
    (h : n.Listed .lax) (hs : ¬n.Listed .strict) : n.label.isApi = false ∧ n.HasHelper := by
  rw [listed_iff_anyCounts] at h hs
  obtain ⟨hk, hn, h⟩ := h
  have ⟨hp, hm⟩ := not_or.mp fun h => hs ⟨hk, hn, h⟩
  exact ⟨Bool.eq_false_iff.mpr hp, hasHelper_of_anyCounts hc (h.resolve_left hp) hm⟩

-- What is lost further in is lost for a helper, and so is then what is around it.
theorem hasHelper_of_counts (n : Node) (h : counts .lax n) (hs : ¬counts .strict n) :
    n.HasHelper := by
  induction n
  case mk l cs ih =>
    cases hk : (mk l cs).kind.isContainer
    case false =>
      rw [counts_iff_isMember hk] at h hs
      have ⟨hm, hc⟩ := not_or.mp hs
      obtain h | h := h
      · exact ⟨[], mk l cs, rfl, isHelper_of_isMember h hm⟩
      · exact hasHelper_of_anyCounts (n := mk l cs) ih h hc
    case true =>
      rw [counts_iff_listed hk] at h hs
      exact (Listed.hasHelper (n := mk l cs) ih h hs).2

end Lax
end Node

section Recorded

variable {moduleName : String} {root : Node} {m : Mark} {d : Declaration}

theorem Recorded.lax (h : Recorded moduleName .strict root m d) :
    Recorded moduleName .lax root m d := by
  obtain ⟨hf, hk, hn, ha, ho⟩ | ⟨hc, hl, hn, hk⟩ := h
  case function  => exact .function hf hk hn ha ho
  case container => exact .container hc hl.lax hn hk

theorem Recorded.strict (h : Recorded moduleName .lax root m d) (hd : d.category = .function) :
    Recorded moduleName .strict root m d := by
  obtain ⟨hf, hk, hn, ha, ho⟩ | ⟨-, -, -, hk⟩ := h
  case function  => exact .function hf hk hn ha ho
  case container => exact absurd hd hk.ne_function

-- The node that a lost record was for, and why it is lost.
theorem Recorded.lost (h : Recorded moduleName .lax root m d)
    (hs : ¬Recorded moduleName .strict root m d) : d.category ≠ .function ∧
      ∃ c, root.at? m.address = some c ∧ c.kind.isContainer ∧ c.label.isApi = false ∧
        c.HasHelper := by
  refine ⟨fun hd => hs (h.strict hd), ?_⟩
  obtain ⟨hf, hk, hn, ha, ho⟩ | ⟨hc, hl, hn, hk⟩ := h
  case function  => exact absurd (.function hf hk hn ha ho) hs
  case container =>
    have hl' := hl.hasHelper (fun c _ => Node.hasHelper_of_counts c) fun hl' =>
      hs <| .container hc hl' hn hk
    exact ⟨_, hc, hl.isContainer, hl'⟩

end Recorded

-- What is left of the declarations of `root` when documented functions in containers must be public.
structure Tightened (moduleName : String) (root : Node) (rows rows' : List (Mark × Declaration)) :
    Prop where
  lax : Timeline moduleName .lax root rows
  strict : Timeline moduleName .strict root rows'
  kept : rows'.Sublist rows
  functions : rows'.filter (·.2.category = .function) = rows.filter (·.2.category = .function)
  -- Only containers are lost, and only with a documented function in them that is not public.
  lost m d : (m, d) ∈ rows → (m, d) ∉ rows' → d.category ≠ .function ∧
    ∃ c, root.at? m.address = some c ∧ c.kind.isContainer ∧ c.label.isApi = false ∧
      c.HasHelper

theorem Timeline.tightened (hl : Timeline moduleName .lax root rows)
    (hs : Timeline moduleName .strict root rows') : Tightened moduleName root rows rows' := by
  have kept : rows'.Sublist rows := sublist_of_subset hs.ordered hl.ordered fun r hr =>
    (hl.recorded r.1 r.2).mpr ((hs.recorded r.1 r.2).mp hr).lax
  refine ⟨hl, hs, kept, (kept.filter _).antisymm ?functions, fun m d hm hn => ?lost⟩
  case functions =>
    refine sublist_of_subset (hl.ordered.filter _) (hs.ordered.filter _) fun r hr => ?_
    have ⟨hm, hf⟩ := List.mem_filter.mp hr
    have hr := (hl.recorded r.1 r.2).mp hm
    exact List.mem_filter.mpr ⟨(hs.recorded r.1 r.2).mpr <| hr.strict <| of_decide_eq_true hf, hf⟩
  case lost =>
    rw [hl.recorded] at hm
    rw [hs.recorded] at hn
    exact hm.lost hn

theorem strictness_removes_containers (moduleName : String) (root : Node) :
    ∃ rows rows', Tightened moduleName root rows rows' ∧
      (declarations moduleName .strict root).Sublist (declarations moduleName .lax root) ∧
      (declarations moduleName .strict root).filter (·.category = .function) =
        (declarations moduleName .lax root).filter (·.category = .function) := by
  have h := (timeline_rows moduleName .lax root).tightened (timeline_rows moduleName .strict root)
  refine ⟨_, _, h, ?_, ?_⟩
  · rw [← h.strict.declarations, ← h.lax.declarations]
    exact h.kept.map _
  · rw [← h.strict.declarations, ← h.lax.declarations, List.filter_map, List.filter_map]
    exact congrArg _ h.functions

-- The record is lost for its function, and with it the class around it.
example :
    let label kind name : Label := ⟨kind, .unknown, name = "f", [], none, some name⟩
    let root := Node.mk (label .classDefinition "c") [.mk (label (.typeDefinition .record) "r")
      [.mk (label .functionDefinition "f") []]]
    (declarations "m" .lax root).map (·.displayName) = ["r", "c"] ∧
      declarations "m" .strict root = [] := by
  decide

end ApiLens
