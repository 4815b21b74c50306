import ApiLens.Proofs.Declaration.Opened
import ApiLens.Proofs.Declaration.Recorded

/-!
What one moment of a walk does to the outline.

There is a frame for each open container, and it has heard of the documented members that came by so
far. What comes next is heard by the innermost container, and by no other.
-/

namespace ApiLens

namespace Node

-- The moment at which the container that owns the node at `a` hears of it.
def notedAt (n : Node) (a : Address) : Mark :=
  ⟨if n.kind.isContainer then .left else .entered, a⟩

-- The container at `p` has heard of a member when the moments `past` have gone by.
def HasMember (policy : Policy) (past : List Mark) (root : Node) (p : Address) : Prop :=
  ∃ a n, root.OwnsAt p a n ∧ n.Qualifies policy ∧ n.notedAt a ∈ past

end Node

-- The declarations of the moments gone by are those that the outline has found.
structure Outline.Lists (moduleName : String) (policy : Policy) (root : Node) (past : List Mark)
    (rows : List (Mark × Declaration)) (o : Outline) : Prop where
  found : o.found = rows.map Prod.snd
  ordered : rows.Pairwise (·.1.key < ·.1.key)
  recorded m d : (m, d) ∈ rows ↔ m ∈ past ∧ Recorded moduleName policy root m d

-- And it has a frame for each of the containers at `ps`.
structure Outline.Frames (moduleName : String) (policy : Policy) (root : Node) (past : List Mark)
    (rows : List (Mark × Declaration)) (ps : List Address) (o : Outline) : Prop
    extends o.Lists moduleName policy root past rows where
  flags : List.Forall₂ (fun p flag => flag = true ↔ root.HasMember policy past p) ps o.frames

section Recorded

variable {moduleName : String} {policy : Policy} {root n : Node} {d : Declaration}

theorem recorded_left_iff (hn : root.at? a = some n) :
    Recorded moduleName policy root ⟨.left, a⟩ d ↔
      n.containerRecord? moduleName policy = some d := by
  rw [← recorded_left_nil_iff]
  constructor
  case mp =>
    rintro (_ | ⟨hc, hl, hname, hk⟩)
    cases hn.symm.trans hc
    exact .container rfl hl hname hk
  case mpr =>
    rintro (_ | ⟨hc, hl, hname, hk⟩)
    cases hc
    exact .container hn hl hname hk

theorem recorded_entered_iff (hn : root.at? a = some n) (h : Around root a ps) :
    Recorded moduleName policy root ⟨.entered, a⟩ d ↔
      n.functionRecord? moduleName (!ps.isEmpty) = some d := by
  rw [Node.functionRecord?_eq_some_iff]
  have hempty : (!ps.isEmpty) = false ↔
      ∀ p c, Above p a → root.at? p = some c → c.kind.isContainer = false := by
    simp [← h.isEmpty_iff]
  constructor
  case mp =>
    rintro (⟨hf, hk, hname, ha, ho⟩ | _)
    cases hn.symm.trans hf
    exact ⟨hk, hempty.mpr ho, ha, _, hname, rfl⟩
  case mpr =>
    rintro ⟨hk, ho, ha, name, hname, rfl⟩
    exact .function hn hk hname ha <| hempty.mp ho

end Recorded

section Member

variable {policy : Policy} {root n : Node} {past : List Mark} {m : Mark}

theorem hasMember_concat_iff (hn : root.at? m.address = some n) :
    root.HasMember policy (past ++ [m]) p ↔ root.HasMember policy past p ∨
      (root.OwnsAt p m.address n ∧ n.Qualifies policy ∧ n.notedAt m.address = m) := by
  simp only [Node.HasMember, List.mem_append, List.mem_singleton]
  constructor
  case mp =>
    rintro ⟨a, k, ho, hq, hm | rfl⟩
    case inl => exact .inl ⟨a, k, ho, hq, hm⟩
    case inr =>
      cases hn.symm.trans ho.at?
      exact .inr ⟨ho, hq, rfl⟩
  case mpr =>
    rintro (⟨a, k, ho, hq, hm⟩ | ⟨ho, hq, hm⟩)
    case inl => exact ⟨a, k, ho, hq, .inl hm⟩
    case inr => exact ⟨m.address, n, ho, hq, .inr hm⟩

theorem Node.Qualifies.exists_known (h : n.Qualifies policy) : ∃ l, n.kind.Known l := by
  rcases h with ⟨hk, _⟩ | ⟨hk | hk, _⟩ | hl
  case container => exact Node.exists_known_of_container hl.isContainer
  all_goals exact hk ▸ ⟨_, by constructor⟩

-- All that a container owns comes between its own two moments.
theorem Node.OwnsAt.between (h : root.OwnsAt p a n) :
    Mark.key ⟨.entered, p⟩ < (n.notedAt a).key ∧ (n.notedAt a).key < Mark.key ⟨.left, p⟩ := by
  have ⟨c, q, _, _, ho, he⟩ := h
  exact Mark.between_iff_above.mpr <| he ▸ above_append_iff.mpr ho.1

theorem not_hasMember_of_entering (h : Upcoming root past ⟨.entered, p⟩) :
    ¬root.HasMember policy past p := by
  intro ⟨a, n, ho, _, hm⟩
  exact ho.between.1.asymm ((h.past_iff _).mp hm).2

theorem hasMember_iff_of_leaving (h : Upcoming root past ⟨.left, p⟩) (hn : root.at? p = some n)
    (hk : n.kind.isContainer) :
    root.HasMember policy past p ↔ Node.anyCounts policy n.children := by
  rw [Node.anyCounts_iff]
  constructor
  case mp =>
    intro ⟨a, k, ⟨c, q, hc, _, ho, _⟩, hq, _⟩
    cases hn.symm.trans hc
    exact ⟨q, k, ho, hq⟩
  case mpr =>
    intro ⟨q, k, ho, hq⟩
    have hown : root.OwnsAt p (p ++ q) k := ⟨n, q, hn, hk, ho, rfl⟩
    have ⟨l, hl⟩ := hq.exists_known
    exact ⟨p ++ q, k, hown, hq, (h.past_iff _).mpr ⟨⟨k, l, hown.at?, hl⟩, hown.between.2⟩⟩

end Member

namespace Outline.Frames

variable {moduleName : String} {policy : Policy} {root n : Node} {past : List Mark} {m : Mark}
  {rows : List (Mark × Declaration)} {o : Outline}

theorem initial : Outline.Frames moduleName policy root [] [] [] {} where
  found := rfl
  ordered := .nil
  recorded := by simp
  flags := .nil

theorem isInside_eq (h : o.Frames moduleName policy root past rows ps) :
    o.isInside = !ps.isEmpty := by
  have hlength := h.flags.length_eq
  cases ps <;> cases hf : o.frames <;> simp_all [Outline.isInside]

-- One moment goes by: at most one declaration is added, and at most the innermost container hears
-- of a member.
theorem take (h : o.Frames moduleName policy root past rows ps) (ha : Around root m.address ps)
    (hm : Upcoming root past m) (hn : root.at? m.address = some n)
    (hd : ∀ d, Recorded moduleName policy root m d ↔ d? = some d)
    (hb : b = true ↔ n.Qualifies policy ∧ n.notedAt m.address = m) :
    (o.take d?.toList b).Frames moduleName policy root (past ++ [m])
      (rows ++ (d?.map (m, ·)).toList) ps where
  found := by cases d? <;> simp [Outline.take, h.found]
  ordered := by
    refine List.pairwise_append.mpr ⟨h.ordered, by cases d? <;> simp, fun r hr r' hr' => ?_⟩
    have hpast : r.1 ∈ past := ((h.recorded r.1 r.2).mp hr).1
    have he : r'.1 = m := by cases d? <;> simp_all
    exact he ▸ ((hm.past_iff _).mp hpast).2
  recorded m' d := by
    have hnew : (m', d) ∈ (d?.map (m, ·)).toList ↔
        m' = m ∧ Recorded moduleName policy root m d := by
      rw [hd]
      cases d? <;> simp [eq_comm]
    rw [List.mem_append, List.mem_append, h.recorded, hnew, List.mem_singleton]
    grind
  flags := by
    have hstep q : root.HasMember policy (past ++ [m]) q ↔
        root.HasMember policy past q ∨ (root.OwnsAt q m.address n ∧ b = true) := by
      rw [hasMember_concat_iff hn, hb]
    have hf := h.flags
    cases o with | mk frames found
    cases hf
    case nil => exact .nil
    case cons p flag ps outer hp hrest =>
      obtain ⟨hown, hother⟩ := ha.ownsAt hn
      refine .cons ?_ ?_
      case refine_1 => simp [hstep, hown, hp]
      case refine_2 =>
        refine ((List.forall₂_and_left _ _).mpr ⟨hother, hrest⟩).imp fun q flag' h => ?_
        simp [hstep, h.1, h.2]

theorem push (h : o.Frames moduleName policy root past rows ps)
    (hp : ¬root.HasMember policy past p) :
    o.push.Frames moduleName policy root past rows (p :: ps) where
  found := h.found
  ordered := h.ordered
  recorded := h.recorded
  flags := .cons (by simp [hp]) h.flags

-- The frame on top is that of the innermost container, and stands on an outline of the others.
theorem exists_push (h : o.Frames moduleName policy root past rows (p :: ps)) :
    ∃ flag, ∃ outer : Outline, o = outer.push.take [] flag ∧
      (flag = true ↔ root.HasMember policy past p) ∧
      outer.Frames moduleName policy root past rows ps := by
  have hf := h.flags
  cases o with | mk frames found
  cases hf
  case cons flag outer hp hrest =>
    refine ⟨flag, ⟨outer, found⟩, ?_, hp, ⟨h.found, h.ordered, h.recorded⟩, hrest⟩
    simp [Outline.push, Outline.take]

end Outline.Frames

theorem Outline.close_push (h : n.kind.isContainer) {o : Outline} :
    close moduleName n (o.push.take [] (Node.anyCounts policy n.children)) =
      o.take (n.containerRecord? moduleName policy).toList (n.counts policy) := by
  cases n with | mk l cs =>
  rw [Node.kind_mk] at h
  simp [close_push_take h, Node.counts, h]

-- How things stand when some moments have gone by.
inductive Outline.Stands (moduleName : String) (policy : Policy) (root : Node) (past : List Mark)
    (o : Outline) : Prop
  | intro : Opened root past ps → o.Frames moduleName policy root past rows ps →
    Stands moduleName policy root past o

namespace Outline.Stands

variable {moduleName : String} {policy : Policy} {root n : Node} {past : List Mark}
  {o : Outline}

theorem entering (h : o.Stands moduleName policy root past)
    (hm : Upcoming root past ⟨.entered, a⟩) (hn : root.at? a = some n) :
    ((visitor moduleName policy).entering n parent o).Stands moduleName policy root
      (past ++ [⟨.entered, a⟩]) := by
  obtain ⟨ho, hf⟩ := h
  have ha : Around root a _ := ho.around hm (by simp)
  have hd d : Recorded moduleName policy root ⟨.entered, a⟩ d ↔
      n.functionRecord? moduleName o.isInside = some d := by
    rw [hf.isInside_eq, recorded_entered_iff hn ha]
  cases hk : n.kind.isContainer
  case false =>
    have hb : n.isMember policy = true ↔ n.Qualifies policy ∧ n.notedAt a = ⟨.entered, a⟩ := by
      simp [Node.qualifies_iff_isMember hk, Node.notedAt, hk]
    rw [entering_of_not_container hk]
    exact ⟨ha.opened hm fun _ => Node.not_containerAt hn hk, hf.take ha hm hn hd hb⟩
  case true =>
    have hb : false = true ↔ n.Qualifies policy ∧ n.notedAt a = ⟨.entered, a⟩ := by
      simp [Node.notedAt, hk]
    have hnone : n.functionRecord? moduleName o.isInside = none :=
      Node.functionRecord?_of_container moduleName o.isInside hk
    have hmember : ¬root.HasMember policy (past ++ [⟨.entered, a⟩]) a := by
      rw [hasMember_concat_iff hn, ← hb]
      simpa using not_hasMember_of_entering hm
    have ht := hf.take ha hm hn hd hb
    rw [hnone, Option.toList_none, take_nil_false] at ht
    rw [entering_of_container hk]
    exact ⟨ha.entering hm ⟨n, hn, hk⟩, ht.push hmember⟩

theorem leaving (h : o.Stands moduleName policy root past)
    (hm : Upcoming root past ⟨.left, a⟩) (hn : root.at? a = some n) :
    ((visitor moduleName policy).leaving n parent o).Stands moduleName policy root
      (past ++ [⟨.left, a⟩]) := by
  obtain ⟨ho, hf⟩ := h
  have hd d : Recorded moduleName policy root ⟨.left, a⟩ d ↔
      n.containerRecord? moduleName policy = some d := recorded_left_iff hn
  cases hk : n.kind.isContainer
  case false =>
    have hb : false = true ↔ n.Qualifies policy ∧ n.notedAt a = ⟨.left, a⟩ := by
      simp [Node.notedAt, hk]
    have ha : Around root a _ := ho.around hm fun _ => Node.not_containerAt hn hk
    have ht := hf.take ha hm hn hd hb
    rw [Node.containerRecord?_of_not_container moduleName policy hk, Option.toList_none,
      take_nil_false] at ht
    rw [leaving_of_not_container hk]
    exact ⟨ha.opened hm (by simp), ht⟩
  case true =>
    have ⟨outer, he, ha⟩ := ho.of_leaving hm ⟨n, hn, hk⟩
    subst he
    have ⟨flag, o', he, hflag, hf⟩ := hf.exists_push
    have hcounts : flag = Node.anyCounts policy n.children := by
      rw [Bool.eq_iff_iff, hflag, hasMember_iff_of_leaving hm hn hk]
    have hb : n.counts policy = true ↔ n.Qualifies policy ∧ n.notedAt a = ⟨.left, a⟩ := by
      simp [Node.counts_iff_listed hk, Node.qualifies_iff_listed hk, Node.notedAt, hk]
    rw [leaving_of_container hk, he, hcounts, close_push hk]
    exact ⟨ha.opened hm (by simp), hf.take ha hm hn hd hb⟩

-- When a container is to be left, its frame is on top, and has heard of all that it owns.
theorem exists_frame (h : o.Stands moduleName policy root (done.map Prod.fst))
    (he : done ++ (m, e) :: rest = root.callsUnder none) (hm : e.moment = .left)
    (hk : e.node.kind.isContainer) : ∃ flag outer, o.frames = flag :: outer ∧
      (flag = true ↔ ∃ p n, e.node.Owns p n ∧ n.Qualifies policy) := by
  have hcall : (m, e) ∈ root.callsUnder none := he ▸ List.mem_append_right _ List.mem_cons_self
  have ⟨hn, _, hmoment, _⟩ := Node.mem_callsUnder_iff.mp hcall
  rcases m with ⟨moment, a⟩
  cases hm.symm.trans hmoment
  have hm : Upcoming root (done.map Prod.fst) ⟨.left, a⟩ := .of_calls he
  obtain ⟨ho, hf⟩ := h
  have ⟨outer, hopened, _⟩ := ho.of_leaving hm ⟨_, hn, hk⟩
  subst hopened
  have ⟨flag, frames, hflag, _, hframes⟩ := List.forall₂_cons_left_iff.mp hf.flags
  refine ⟨flag, frames, hframes, hflag.trans ?_⟩
  rw [hasMember_iff_of_leaving hm hn hk, Node.anyCounts_iff]

theorem frames_eq_nil (h : o.Stands moduleName policy root past)
    (hall : ∀ m, root.Passes m → m ∈ past) : o.frames = [] := by
  obtain ⟨ho, hf⟩ := h
  cases ho.eq_nil hall
  exact List.forall₂_nil_left_iff.mp hf.flags

theorem hear (h : o.Stands moduleName policy root (done.map Prod.fst))
    (he : done ++ (m, e) :: rest = root.callsUnder none) :
    ((visitor moduleName policy).hear o e).Stands moduleName policy root
      (done.map Prod.fst ++ [m]) := by
  have hm : Upcoming root (done.map Prod.fst) m := .of_calls he
  have hcall : (m, e) ∈ root.callsUnder none := he ▸ List.mem_append_right _ List.mem_cons_self
  have ⟨hn, hl, hmoment, _⟩ := Node.mem_callsUnder_iff.mp hcall
  rcases m with ⟨moment, a⟩
  cases moment
  case entered =>
    rw [Visitor.hear_of_entered hl hmoment]
    exact h.entering hm hn
  case left =>
    rw [Visitor.hear_of_left hl hmoment]
    exact h.leaving hm hn

end Outline.Stands

end ApiLens
