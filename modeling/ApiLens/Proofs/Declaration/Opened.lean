import ApiLens.Proofs.Declaration.Listed
import ApiLens.Proofs.Tree.Calls

/-!
The containers that a walk is in.

At each moment they are those around the place that the walk has come to, so they lie in one
another.
-/

namespace ApiLens

namespace Node

variable (root : Node)

-- The walk comes to this moment: a visitor hears of the node.
def Passes (m : Mark) : Prop := ∃ n l, root.at? m.address = some n ∧ n.kind.Known l

def ContainerAt (p : Address) : Prop := ∃ c, root.at? p = some c ∧ c.kind.isContainer

-- The container at `p` is entered and not yet left, when the moments `past` have gone by.
structure IsOpen (past : List Mark) (p : Address) : Prop where
  container : root.ContainerAt p
  entered : ⟨.entered, p⟩ ∈ past
  notLeft : ⟨.left, p⟩ ∉ past

-- The node `n` at `a` lies in the container at `p`, and in no other one in between.
def OwnsAt (p a : Address) (n : Node) : Prop :=
  ∃ c q, root.at? p = some c ∧ c.kind.isContainer ∧ c.Owns q n ∧ a = p ++ q

end Node

-- The walk is about to come to the moment `m`, and those of `past` have gone by.
structure Upcoming (root : Node) (past : List Mark) (m : Mark) : Prop where
  past_iff m' : m' ∈ past ↔ root.Passes m' ∧ m'.key < m.key
  ahead m' : root.Passes m' → m' ∉ past → m' = m ∨ m.key < m'.key

-- The containers that are open, the innermost first.
structure Opened (root : Node) (past : List Mark) (ps : List Address) : Prop where
  mem_iff p : p ∈ ps ↔ root.IsOpen past p
  nested : ps.Pairwise fun p q => Above q p

-- The containers around the place `a`, the innermost first.
structure Around (root : Node) (a : Address) (ps : List Address) : Prop where
  mem_iff p : p ∈ ps ↔ root.ContainerAt p ∧ Above p a
  nested : ps.Pairwise fun p q => Above q p

namespace Node

variable {root : Node}

theorem passes_iff {m : Mark} : root.Passes m ↔ ∃ e, (m, e) ∈ root.callsUnder none := by
  constructor
  case mp =>
    intro ⟨n, l, hn, hl⟩
    exact ⟨⟨m.moment, l, n, _⟩, mem_callsUnder_iff.mpr ⟨hn, hl, rfl, rfl⟩⟩
  case mpr =>
    intro ⟨e, he⟩
    have ⟨hn, hl, _, _⟩ := mem_callsUnder_iff.mp he
    exact ⟨e.node, e.landmark, hn, hl⟩

theorem exists_known_of_container {kind : NodeKind} (h : kind.isContainer) :
    ∃ l, kind.Known l := by
  rw [NodeKind.exists_known_iff]
  rintro tag rfl
  cases h

-- A moment at a node that is no container is not one of any container.
theorem not_containerAt {m : Mark} {n : Node} (hn : root.at? m.address = some n)
    (hk : n.kind.isContainer = false) (he : m = ⟨moment, p⟩) : ¬root.ContainerAt p := by
  subst he
  simp_all [ContainerAt]

theorem OwnsAt.at? {n : Node} (h : root.OwnsAt p a n) : root.at? a = some n := by
  have ⟨c, q, hc, _, ho, he⟩ := h
  simp [he, at?_append, hc, ho.2.1]

theorem ContainerAt.passes (h : root.ContainerAt p) (moment) : root.Passes ⟨moment, p⟩ := by
  have ⟨c, hc, hk⟩ := h
  have ⟨l, hl⟩ := exists_known_of_container hk
  exact ⟨c, l, hc, hl⟩

end Node

namespace Upcoming

variable {root : Node} {past : List Mark} {m : Mark}

theorem of_calls (h : done ++ (m, e) :: rest = root.callsUnder none) :
    Upcoming root (done.map Prod.fst) m := by
  have hs : (done ++ (m, e) :: rest).Pairwise (·.1.key < ·.1.key) := h ▸ pairwise_callsUnder root
  have ⟨_, hr, hd⟩ := List.pairwise_append.mp hs
  have hr := (List.pairwise_cons.mp hr).1
  have hpast {m'} : m' ∈ done.map Prod.fst → m'.key < m.key := by
    intro hm
    have ⟨c, hc, he⟩ := List.mem_map.mp hm
    exact he ▸ hd c hc (m, e) List.mem_cons_self
  have hcases {m'} (hp : root.Passes m') :
      m' ∈ done.map Prod.fst ∨ m' = m ∨ m.key < m'.key := by
    have ⟨e', he⟩ := Node.passes_iff.mp hp
    rw [← h, List.mem_append, List.mem_cons] at he
    rcases he with he | he | he
    case inl     => exact .inl <| List.mem_map_of_mem (f := Prod.fst) he
    case inr.inl => exact .inr <| .inl (Prod.mk.inj he).1
    case inr.inr => exact .inr <| .inr <| hr (m', e') he
  refine ⟨fun m' => ⟨fun hm => ⟨?_, hpast hm⟩, fun ⟨hp, hlt⟩ => ?_⟩, fun m' hp hm => ?_⟩
  case refine_1 =>
    have ⟨c, hc, he⟩ := List.mem_map.mp hm
    exact Node.passes_iff.mpr ⟨c.2, h ▸ he ▸ List.mem_append_left _ hc⟩
  case refine_2 =>
    have hn := hlt.asymm
    have := hcases hp
    grind
  case refine_3 => exact (hcases hp).resolve_left hm

variable (h : Upcoming root past m)
include h

-- Of the containers that the walk has come to it is in those that it has yet to leave, and these
-- lie around the place of the next moment, or are left just then.
theorem isOpen_iff : root.IsOpen past p ↔
    root.ContainerAt p ∧ (Above p m.address ∨ m = ⟨.left, p⟩) := by
  constructor
  case mp =>
    intro ⟨hc, he, hl⟩
    have he := ((h.past_iff _).mp he).2
    rcases h.ahead _ (hc.passes .left) hl with hm | hm
    case inl => exact ⟨hc, .inr hm.symm⟩
    case inr => exact ⟨hc, .inl <| Mark.between_iff_above.mp ⟨he, hm⟩⟩
  case mpr =>
    intro ⟨hc, hm⟩
    have hlt : Mark.key ⟨.entered, p⟩ < m.key ∧ ¬Mark.key ⟨.left, p⟩ < m.key := by
      rcases hm with hm | rfl
      case inl =>
        have ⟨he, hl⟩ := Mark.between_iff_above.mpr hm
        exact ⟨he, hl.asymm⟩
      case inr => exact ⟨Mark.key_entered_lt_left, lt_irrefl _⟩
    refine ⟨hc, (h.past_iff _).mpr ⟨hc.passes .entered, hlt.1⟩, fun hl => ?_⟩
    exact hlt.2 ((h.past_iff _).mp hl).2

theorem isOpen_concat_iff : root.IsOpen (past ++ [m]) p ↔
    root.ContainerAt p ∧ (Above p m.address ∨ m = ⟨.entered, p⟩) := by
  constructor
  case mp =>
    intro ⟨hc, he, hl⟩
    simp only [List.mem_append, List.mem_singleton, not_or] at he hl
    rcases he with he | he
    case inl =>
      have ho := h.isOpen_iff.mp ⟨hc, he, hl.1⟩
      exact ⟨hc, ho.2.imp_right fun hm => absurd hm.symm hl.2⟩
    case inr => exact ⟨hc, .inr he.symm⟩
  case mpr =>
    intro ⟨hc, hm⟩
    have hl : ⟨.left, p⟩ ≠ m := by
      rintro rfl
      rcases hm with hm | hm
      case inl => exact hm.2 rfl
      case inr => cases hm
    have hpast : ⟨.left, p⟩ ∉ past := by
      intro hp
      have hlt := ((h.past_iff _).mp hp).2
      rcases hm with hm | rfl
      case inl => exact hlt.asymm (Mark.between_iff_above.mpr hm).2
      case inr => exact hlt.asymm Mark.key_entered_lt_left
    refine ⟨hc, ?_, by simp [hpast, hl]⟩
    rcases hm with hm | rfl
    case inl => exact List.mem_append_left _ (h.isOpen_iff.mpr ⟨hc, .inl hm⟩).entered
    case inr => simp

end Upcoming

section Opened

variable {root : Node} {past : List Mark} {m : Mark}

theorem opened_nil : Opened root [] [] where
  mem_iff p := by
    refine iff_of_false List.not_mem_nil fun h => ?_
    exact List.not_mem_nil h.entered
  nested := .nil

-- What is left is the innermost of what is open.
theorem Opened.of_leaving (h : Opened root past ps) (hm : Upcoming root past ⟨.left, a⟩)
    (hc : root.ContainerAt a) : ∃ outer, ps = a :: outer ∧ Around root a outer := by
  have hmem p : p ∈ ps ↔ root.ContainerAt p ∧ (Above p a ∨ a = p) := by
    simp [h.mem_iff, hm.isOpen_iff]
  have ha : a ∈ ps := (hmem a).mpr ⟨hc, .inr rfl⟩
  cases ps
  case nil => cases ha
  case cons p outer =>
    have ⟨hp, hnested⟩ := List.pairwise_cons.mp h.nested
    have he : a = p := by
      rcases List.mem_cons.mp ha with he | ha
      case inl => exact he
      case inr =>
        refine ((hmem p).mp List.mem_cons_self).2.resolve_left fun habove => ?_
        exact habove.asymm <| hp a ha
    subst he
    refine ⟨outer, rfl, fun q => ⟨fun hq => ?_, fun ⟨hc, hq⟩ => ?_⟩, hnested⟩
    case refine_1 => exact ⟨((hmem q).mp <| List.mem_cons_of_mem _ hq).1, hp q hq⟩
    case refine_2 =>
      have hmem := List.mem_cons.mp <| (hmem q).mpr ⟨hc, .inl hq⟩
      exact hmem.resolve_left hq.2

theorem Opened.around (h : Opened root past ps) (hm : Upcoming root past m)
    (hl : ∀ p, m = ⟨.left, p⟩ → ¬root.ContainerAt p) : Around root m.address ps where
  mem_iff p := by
    rw [h.mem_iff, hm.isOpen_iff]
    grind
  nested := h.nested

theorem Around.opened (h : Around root m.address ps) (hm : Upcoming root past m)
    (he : ∀ p, m = ⟨.entered, p⟩ → ¬root.ContainerAt p) : Opened root (past ++ [m]) ps where
  mem_iff p := by
    rw [h.mem_iff, hm.isOpen_concat_iff]
    grind
  nested := h.nested

theorem Around.entering (h : Around root a ps) (hm : Upcoming root past ⟨.entered, a⟩)
    (hc : root.ContainerAt a) : Opened root (past ++ [⟨.entered, a⟩]) (a :: ps) where
  mem_iff p := by
    rw [List.mem_cons, h.mem_iff, hm.isOpen_concat_iff]
    grind
  nested := List.pairwise_cons.mpr ⟨fun p hp => ((h.mem_iff p).mp hp).2, h.nested⟩

theorem Opened.eq_nil (h : Opened root past ps) (hall : ∀ m, root.Passes m → m ∈ past) :
    ps = [] := by
  refine List.eq_nil_iff_forall_not_mem.mpr fun p hp => ?_
  have ho := (h.mem_iff p).mp hp
  exact ho.notLeft <| hall _ <| ho.container.passes .left

theorem Around.isEmpty_iff (h : Around root a ps) :
    ps = [] ↔ ∀ p c, Above p a → root.at? p = some c → c.kind.isContainer = false := by
  rw [List.eq_nil_iff_forall_not_mem]
  simp only [h.mem_iff, Node.ContainerAt]
  grind

-- A node is owned by the innermost container around it, and by no other.
theorem Around.ownsAt (h : Around root a (p :: ps)) (hn : root.at? a = some n) :
    root.OwnsAt p a n ∧ ∀ q ∈ ps, ¬root.OwnsAt q a n := by
  have ⟨hp, _⟩ := List.pairwise_cons.mp h.nested
  have ⟨⟨c, hc, hk⟩, ha⟩ := (h.mem_iff p).mp List.mem_cons_self
  have ⟨r, hr, he⟩ := exists_of_above ha
  subst he
  rw [Node.at?_append, hc, Option.bind_some] at hn
  refine ⟨⟨c, r, hc, hk, ⟨hr, hn, fun q k hq hqr hqk => ?_⟩, rfl⟩, fun q hq hown => ?_⟩
  case refine_1 =>
    refine Bool.eq_false_iff.mpr fun hk' => ?_
    have hmem : p ++ q ∈ p :: ps := by
      refine (h.mem_iff _).mpr ⟨⟨k, by simp [Node.at?_append, hc, hqk], hk'⟩, ?_⟩
      exact above_append_append_iff.mpr hqr
    have hbelow : Above p (p ++ q) := above_append_iff.mpr hq
    rcases List.mem_cons.mp hmem with he | hmem
    case inl => exact hbelow.2 he.symm
    case inr => exact hbelow.asymm <| hp _ hmem
  case refine_2 =>
    obtain ⟨d, s, hd, _, ho, hs⟩ := hown
    have ⟨t, ht, he⟩ := exists_of_above (hp q hq)
    subst he
    rw [List.append_assoc, List.append_cancel_left_eq] at hs
    subst hs
    rw [Node.at?_append, hd, Option.bind_some] at hc
    have hf := ho.2.2 t c ht (above_append_iff.mpr hr) hc
    simp [hk] at hf

end Opened
end ApiLens
