import ApiLens.Proofs.Tree.Address
import ApiLens.Tree.Walk
import Mathlib.Data.List.Lex
import Mathlib.Data.List.Sort
import Mathlib.Order.WithBot

/-!
The moments of a walk, and what a walk gathers at them.
-/

namespace ApiLens

-- A moment of a walk: the node at an address is entered or left.
structure Mark where
  moment : Moment
  address : Address

namespace Mark

-- Lexicographically, a node is entered before everything in it, and left after it.
def key (m : Mark) : List (WithTop Nat) :=
  match m.moment with
  | .entered => m.address.map WithTop.some
  | .left    => m.address.map WithTop.some ++ [⊤]

@[simp]
theorem key_entered_nil : (⟨.entered, []⟩ : Mark).key = [] := rfl

@[simp]
theorem key_left_nil : (⟨.left, []⟩ : Mark).key = [⊤] := rfl

-- The same moment, seen from one node further up.
def under (i : Nat) (m : Mark) : Mark := ⟨m.moment, i :: m.address⟩

@[simp]
theorem address_under {m : Mark} : (m.under i).address = i :: m.address := rfl

theorem key_under (m : Mark) : (m.under i).key = WithTop.some i :: m.key := by
  cases m with | mk moment address => cases moment <;> rfl

theorem key_under_between (m : Mark) : [] < (m.under i).key ∧ (m.under i).key < [⊤] := by
  rw [key_under]
  exact ⟨List.nil_lt_cons .., List.cons_lt_cons_iff.mpr <| .inl <| WithTop.coe_lt_top _⟩

theorem under_inj {m m' : Mark} : m.under i = m'.under j ↔ i = j ∧ m = m' := by
  cases m; cases m'
  simp [under, and_left_comm]

theorem cases (m : Mark) :
    m = ⟨.entered, []⟩ ∨ m = ⟨.left, []⟩ ∨ ∃ (i : Nat) (m' : Mark), m = m'.under i := by
  rcases m with ⟨_ | _, _ | ⟨i, p⟩⟩
  case entered.nil => exact .inl rfl
  case left.nil    => exact .inr <| .inl rfl
  all_goals exact .inr <| .inr ⟨i, ⟨_, p⟩, rfl⟩

-- Between the two moments of a node are those of all that lies under it.
theorem between_iff_above {m : Mark} :
    key ⟨.entered, p⟩ < m.key ∧ m.key < key ⟨.left, p⟩ ↔ Above p m.address := by
  induction p generalizing m
  case nil =>
    obtain rfl | rfl | ⟨i, m, rfl⟩ := m.cases
    case inr.inr => exact iff_of_true m.key_under_between above_nil_cons
    all_goals simp [not_above_nil]
  case cons j p ih =>
    change key (under j ⟨.entered, p⟩) < _ ∧ _ < key (under j ⟨.left, p⟩) ↔ _
    obtain rfl | rfl | ⟨i, m, rfl⟩ := m.cases
    case inr.inr =>
      rw [address_under, above_cons_cons_iff, ← ih]
      simp only [key_under, List.cons_lt_cons_iff, WithTop.coe_lt_coe, WithTop.coe_inj]
      constructor
      case mp  =>
        rintro ⟨hj | ⟨rfl, hp⟩, hi | ⟨hi, hm⟩⟩
        case inr.inr => exact ⟨rfl, hp, hm⟩
        all_goals omega
      case mpr =>
        rintro ⟨rfl, hp, hm⟩
        exact ⟨.inr ⟨rfl, hp⟩, .inr ⟨rfl, hm⟩⟩
    all_goals simp [not_above_nil, key_under, List.cons_lt_cons_iff]

theorem key_entered_lt_left : key ⟨.entered, p⟩ < key ⟨.left, p⟩ := by
  induction p
  case nil => simp
  case cons i p ih =>
    change key (under i ⟨.entered, p⟩) < key (under i ⟨.left, p⟩)
    rw [key_under, key_under]
    exact List.cons_lt_cons_self.mpr ih

end Mark

-- Rows that stand in the order of their moments are told by which there are.
theorem sublist_of_subset {rows rows' : List (Mark × β)} (h : rows.Pairwise (·.1.key < ·.1.key))
    (h' : rows'.Pairwise (·.1.key < ·.1.key)) (hs : rows ⊆ rows') : rows.Sublist rows' := by
  have : Std.Irrefl fun r r' : Mark × β => r.1.key < r'.1.key := ⟨fun _ => lt_irrefl _⟩
  have : Std.Antisymm fun r r' : Mark × β => r.1.key < r'.1.key :=
    ⟨fun _ _ hlt hgt => absurd hlt hgt.asymm⟩
  exact List.sublist_of_subperm_of_pairwise (List.subperm_of_subset h.nodup hs) h h'

namespace Node

section Gather

variable (first last : γ → Node → Option β) (down : γ → Node → γ)

mutual

-- What a walk gathers where it enters and where it leaves each node, told by the node and by what
-- comes down to it from its parent.
def gather (c : γ) : Node → List (Mark × β)
  | .mk l cs =>
    ((first c (.mk l cs)).map (⟨.entered, []⟩, ·)).toList
      ++ gatherFrom (down c (.mk l cs)) 0 cs
      ++ ((last c (.mk l cs)).map (⟨.left, []⟩, ·)).toList

def gatherFrom (c : γ) (i : Nat) : List Node → List (Mark × β)
  | [] => []
  | n :: rest => (gather c n).map (fun r => (r.1.under i, r.2)) ++ gatherFrom c (i + 1) rest

end

variable {first last : γ → Node → Option β} {down : γ → Node → γ} {n : Node} {c : γ}

theorem mem_gatherFrom_iff {m : Mark} :
    (m, b) ∈ gatherFrom first last down c k cs ↔
      ∃ i n m', cs[i]? = some n ∧ m = m'.under (k + i) ∧ (m', b) ∈ gather first last down c n := by
  induction cs generalizing k
  case nil => simp [gatherFrom]
  case cons n rest ih =>
    simp only [gatherFrom, List.mem_append, List.mem_map, Prod.mk.injEq, Prod.exists, ih]
    constructor
    case mp =>
      rintro (⟨m', b', hm, rfl, rfl⟩ | ⟨i, n', m', hn, rfl, hm⟩)
      · exact ⟨0, n, m', rfl, rfl, hm⟩
      · exact ⟨i + 1, n', m', hn, by rw [Nat.add_right_comm]; rfl, hm⟩
    case mpr =>
      rintro ⟨_ | i, n', m', hn, rfl, hm⟩
      · cases hn; exact .inl ⟨m', b, hm, rfl, rfl⟩
      · exact .inr ⟨i, n', m', hn, by rw [Nat.add_right_comm]; rfl, hm⟩

theorem mem_gather_entered_nil_iff :
    (⟨.entered, []⟩, b) ∈ gather first last down c n ↔ first c n = some b := by
  cases n with | mk l cs => simp [gather, mem_gatherFrom_iff, Mark.under]

theorem mem_gather_left_nil_iff :
    (⟨.left, []⟩, b) ∈ gather first last down c n ↔ last c n = some b := by
  cases n with | mk l cs => simp [gather, mem_gatherFrom_iff, Mark.under]

theorem mem_gather_under_iff {m : Mark} :
    (m.under i, b) ∈ gather first last down c n ↔
      ∃ d, n.children[i]? = some d ∧ (m, b) ∈ gather first last down (down c n) d := by
  cases n with | mk l cs =>
  have hr : (m.under i, b) ∈ gather first last down c (.mk l cs) ↔
      (m.under i, b) ∈ gatherFrom first last down (down c (.mk l cs)) 0 cs := by
    simp [gather, Mark.under]
  rw [hr, mem_gatherFrom_iff]
  constructor
  case mp =>
    intro ⟨i', d, m', hd, he, hm⟩
    rw [Nat.zero_add] at he
    obtain ⟨rfl, rfl⟩ := Mark.under_inj.mp he
    exact ⟨d, hd, hm⟩
  case mpr =>
    intro ⟨d, hd, hm⟩
    exact ⟨i, d, m, hd, by rw [Nat.zero_add], hm⟩

-- What belongs to different children differs in the first number of the keys.
theorem gatherFrom_pairwise
    (h : ∀ n ∈ cs, ∀ c, (gather first last down c n).Pairwise (·.1.key < ·.1.key)) :
    (gatherFrom first last down c k cs).Pairwise (·.1.key < ·.1.key) := by
  induction cs generalizing k
  case nil => exact .nil
  case cons n rest ih =>
    have ⟨hn, hr⟩ := List.forall_mem_cons.mp h
    refine List.pairwise_append.mpr ⟨?here, ih hr, ?later⟩
    case here =>
      refine List.pairwise_map.mpr <| (hn c).imp fun hlt => ?_
      simpa [Mark.key_under] using hlt
    case later =>
      intro _ hm ⟨m, b⟩ hm'
      obtain ⟨r, -, rfl⟩ := List.mem_map.mp hm
      obtain ⟨i, _, m', -, rfl, -⟩ := mem_gatherFrom_iff.mp hm'
      have hlt : WithTop.some k < WithTop.some (k + 1 + i) := WithTop.coe_lt_coe.mpr (by omega)
      rw [Mark.key_under, Mark.key_under, List.cons_lt_cons_iff]
      exact .inl hlt

theorem key_of_mem_gatherFrom {m : Mark} (h : (m, b) ∈ gatherFrom first last down c k cs) :
    [] < m.key ∧ m.key < [⊤] := by
  obtain ⟨i, _, m', -, rfl, -⟩ := mem_gatherFrom_iff.mp h
  exact m'.key_under_between

theorem gather_pairwise (n : Node) (c) :
    (gather first last down c n).Pairwise (·.1.key < ·.1.key) := by
  induction n generalizing c
  case mk l cs ih =>
    have hfrom : (gatherFrom first last down (down c (.mk l cs)) 0 cs).Pairwise
        (·.1.key < ·.1.key) := gatherFrom_pairwise ih
    have hfirst m b (h : (m, b) ∈ gatherFrom first last down (down c (.mk l cs)) 0 cs) :=
      (key_of_mem_gatherFrom h).1
    have hlast m b (h : (m, b) ∈ gatherFrom first last down (down c (.mk l cs)) 0 cs) :=
      (key_of_mem_gatherFrom h).2
    cases hf : first c (mk l cs) <;> cases hc : last c (mk l cs) <;>
      simp [gather, hf, hc, List.pairwise_append, hfrom, or_imp]
    case none.some => exact hlast
    case some.none => exact hfirst
    case some.some => exact ⟨fun m b => ⟨hfirst m b, fun hm _ => by simp [hm]⟩, hlast⟩

theorem map_snd_gatherFrom : (gatherFrom first last down c i cs).map Prod.snd =
    cs.flatMap fun n => (gather first last down c n).map Prod.snd := by
  induction cs generalizing i
  case nil => rfl
  case cons n rest ih => simp [gatherFrom, ih, Function.comp_def]

theorem map_snd_gather : (gather first last down c n).map Prod.snd =
    (first c n).toList
      ++ n.children.flatMap (fun d => (gather first last down (down c n) d).map Prod.snd)
      ++ (last c n).toList := by
  cases n with | mk l cs =>
  rw [gather, List.map_append, List.map_append, map_snd_gatherFrom]
  cases first c (mk l cs) <;> cases last c (mk l cs) <;> rfl

end Gather

end Node
end ApiLens
