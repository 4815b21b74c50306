import ApiLens.Proofs.Declaration.Frames
import Mathlib.Data.List.Induction

/-!
The outline at every moment of a walk.

The frames are those of the containers that are entered and not yet left, and each is marked if the
container has a documented member by then. What is listed stays listed.
-/

namespace ApiLens

namespace Outline

variable (moduleName : String) (policy : Policy)

-- The outline of a walk that has made the calls `done`.
def after (done : List (Mark × Event)) : Outline :=
  (done.map Prod.snd).foldl (visitor moduleName policy).hear {}

variable {moduleName : String} {policy : Policy} {root n : Node} {o : Outline}

theorem after_append : after moduleName policy (done ++ rest) =
    (rest.map Prod.snd).foldl (visitor moduleName policy).hear (after moduleName policy done) := by
  simp [after]

theorem stands_after (h : done <+: root.callsUnder none) :
    (after moduleName policy done).Stands moduleName policy root (done.map Prod.fst) := by
  induction done using List.reverseRecOn
  case nil => exact ⟨opened_nil, .initial⟩
  case append_singleton done call ih =>
    have ⟨rest, he⟩ := h
    rw [List.append_assoc] at he
    have hstands := ih ⟨_, he⟩
    rw [after_append, List.map_append]
    exact hstands.hear he

-- What is found stays found.

@[simp]
theorem found_mark : o.mark.found = o.found := by
  cases o with | mk frames found => cases frames <;> rfl

@[simp]
theorem found_pop : o.pop.2.found = o.found := by
  cases o with | mk frames found => cases frames <;> rfl

theorem found_prefix_add : o.found <+: (o.add d).found := List.prefix_append _ _

theorem found_prefix_visitFunction : o.found <+: (visitFunction moduleName policy n o).found := by
  unfold visitFunction
  split
  case isTrue => split <;> simp
  case isFalse =>
    split
    case isTrue =>
      split
      case h_1 => exact found_prefix_add
      case h_2 => exact List.prefix_rfl
    case isFalse => exact List.prefix_rfl

theorem found_prefix_visitMethod : o.found <+: (visitMethod n o).found := by
  unfold visitMethod
  split <;> simp

theorem found_prefix_close : o.found <+: (close moduleName n o).found := by
  have hpop : o.pop.2.found = o.found := found_pop
  simp only [close]
  split
  case isTrue =>
    split
    case h_1 => rw [found_mark, ← hpop]; exact found_prefix_add
    case h_2 => exact hpop ▸ List.prefix_rfl
  case isFalse => exact hpop ▸ List.prefix_rfl

theorem found_prefix_hear : o.found <+: ((visitor moduleName policy).hear o e).found := by
  rcases e with ⟨_ | _, l, n, parent⟩
  case entered =>
    cases l
    case functionDefinition => exact found_prefix_visitFunction
    case methodDeclaration | objectMethodDefinition => exact found_prefix_visitMethod
    all_goals exact List.prefix_rfl
  case left =>
    cases l
    case typeDefinition | classDefinition => exact found_prefix_close
    all_goals exact List.prefix_rfl

theorem found_prefix_after (h : done <+: done') :
    (after moduleName policy done).found <+: (after moduleName policy done').found := by
  obtain ⟨rest, rfl⟩ := h
  rw [after_append]
  generalize after moduleName policy done = o
  induction rest generalizing o
  case nil => exact List.prefix_rfl
  case cons call rest ih => exact found_prefix_hear.trans (ih _)

end Outline

-- A documented member of the container that owns the node at `a`, when the moments `past` have gone
-- by: a function or method once it is entered, and a container once it is left and has its row.
inductive Node.Noted (policy : Policy) (past : List Mark) (rows : List (Mark × Declaration))
    (a : Address) (n : Node) : Prop
  | entered : n.kind.isContainer = false → ⟨.entered, a⟩ ∈ past → n.Qualifies policy →
    Noted policy past rows a n
  | left : n.kind.isContainer → ⟨.left, a⟩ ∈ past → (⟨.left, a⟩, d) ∈ rows →
    Noted policy past rows a n

section Noted

variable {moduleName : String} {policy : Policy} {root n : Node} {past : List Mark} {o : Outline}

-- A container is listed, and so noted, when it is left.
theorem Outline.Lists.noted_iff (h : o.Lists moduleName policy root past rows)
    (hn : root.at? a = some n) :
    n.Noted policy past rows a ↔ n.Qualifies policy ∧ n.notedAt a ∈ past := by
  cases hk : n.kind.isContainer
  case false =>
    simp only [Node.notedAt, hk]
    constructor
    case mp =>
      rintro (⟨-, hm, hq⟩ | ⟨hc, -⟩)
      case entered => exact ⟨hq, hm⟩
      case left => simp [hk] at hc
    case mpr =>
      rintro ⟨hq, hm⟩
      exact .entered hk hm hq
  case true =>
    have hrow : (∃ d, (⟨.left, a⟩, d) ∈ rows) ↔ n.Qualifies policy ∧ ⟨.left, a⟩ ∈ past := by
      have hlisted : (∃ d, n.containerRecord? moduleName policy = some d) ↔ n.Listed policy :=
        Node.exists_containerRecord?_iff
      simp [h.recorded, recorded_left_iff hn, hlisted, Node.qualifies_iff_listed hk, and_comm]
    simp only [Node.notedAt, hk, if_true]
    rw [← hrow]
    constructor
    case mp =>
      rintro (⟨hc, -⟩ | ⟨-, -, hd⟩)
      case entered => simp [hk] at hc
      case left => exact ⟨_, hd⟩
    case mpr =>
      rintro ⟨d, hd⟩
      exact .left hk (hrow.mp ⟨d, hd⟩).2 hd

end Noted

-- The outline `o` when the moments `past` have gone by: `rows` are listed, and the containers at
-- `opened` have their frames.
structure Standing (moduleName : String) (policy : Policy) (root : Node) (past : List Mark)
    (rows : List (Mark × Declaration)) (opened : List Address) (o : Outline) : Prop
    extends o.Lists moduleName policy root past rows, Opened root past opened where
  flags : List.Forall₂ (fun p flag => flag = true ↔
    ∃ a n, root.OwnsAt p a n ∧ n.Noted policy past rows a) opened o.frames

-- A walk of `root` that makes the calls `calls`, at each of its moments.
structure Stacked (moduleName : String) (policy : Policy) (root : Node)
    (calls : List (Mark × Event)) : Prop where
  walked : Walked root calls
  walk : (Outline.visitor moduleName policy).walk root {} = .after moduleName policy calls
  -- No container is passed over.
  passed p c moment : root.at? p = some c → c.kind.isContainer → ∃ e, (⟨moment, p⟩, e) ∈ calls
  standing done : done <+: calls → ∃ rows opened,
    Standing moduleName policy root (done.map Prod.fst) rows opened (.after moduleName policy done)
  -- What is found is only added to, at its end.
  grown done done' : done <+: done' →
    (Outline.after moduleName policy done).found <+: (Outline.after moduleName policy done').found
  -- A container that is left finds its frame, which is complete.
  closing done m e : done ++ [(m, e)] <+: calls → e.moment = .left → e.node.kind.isContainer →
    ∃ flag outer, (Outline.after moduleName policy done).frames = flag :: outer ∧
      (flag = true ↔ ∃ p n, e.node.Owns p n ∧ n.Qualifies policy)
  ended : (Outline.after moduleName policy calls).frames = []

theorem Outline.Stands.exists_standing (h : o.Stands moduleName policy root past) :
    ∃ rows opened, Standing moduleName policy root past rows opened o := by
  obtain ⟨ho, hf⟩ := h
  refine ⟨_, _, hf.toLists, ho, hf.flags.imp fun p flag hflag => hflag.trans ?_⟩
  refine exists_congr fun a => exists_congr fun n => and_congr_right fun hown => ?_
  exact (hf.noted_iff hown.at?).symm

theorem frames_stacked (moduleName : String) (policy : Policy) (root : Node) :
    ∃ calls, Stacked moduleName policy root calls := by
  refine ⟨root.callsUnder none, walked_callsUnder root, ?walk, ?passed, ?standing,
    fun _ _ => Outline.found_prefix_after, ?closing, ?ended⟩
  case walk =>
    rw [Visitor.walk, walkUnder_eq_foldl, ← root.map_snd_callsUnder none]
    rfl
  case passed =>
    intro p c moment hc hk
    exact Node.passes_iff.mp <| Node.ContainerAt.passes ⟨c, hc, hk⟩ moment
  case standing => exact fun done h => (Outline.stands_after h).exists_standing
  case closing =>
    rintro done m e ⟨rest, he⟩ hm hk
    rw [List.append_assoc] at he
    exact (Outline.stands_after ⟨_, he⟩).exists_frame he hm hk
  case ended =>
    refine (Outline.stands_after List.prefix_rfl).frames_eq_nil fun m hm => ?_
    obtain ⟨e, he⟩ := Node.passes_iff.mp hm
    exact List.mem_map_of_mem (f := Prod.fst) he

end ApiLens
