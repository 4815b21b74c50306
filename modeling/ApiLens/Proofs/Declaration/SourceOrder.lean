import ApiLens.Proofs.Declaration.Recorded
import Mathlib.Data.List.Chain
import Mathlib.Data.Prod.Lex

/-!
The declarations of a tree in the order of the source.

A function is listed where it starts and a container where it ends, so what is listed of a node lies
between the start and the end of the node, and whatever comes later starts after that.
-/

namespace ApiLens

-- A point of the source: first its line, then its column.
abbrev Point := ℕ ×ₗ ℕ

namespace Span

def start (s : Span) : Point :=
  toLex ((s.startLine.getD 0).toNat, (s.startColumn.getD 0).toNat)

def stop (s : Span) : Point :=
  toLex ((s.endLine.getD 0).toNat, (s.endColumn.getD 0).toNat)

end Span

namespace Node

def span (n : Node) : Span := n.label.span

-- The node has its place in the source and its children have theirs in it, one after the other.
structure InPlace (n : Node) : Prop where
  complete : n.span.isComplete
  forward : n.span.start ≤ n.span.stop
  within : ∀ c ∈ n.children, n.span.start ≤ c.span.start ∧ c.span.stop ≤ n.span.stop
  apart : n.children.IsChain fun c d => c.span.stop ≤ d.span.start

instance (n : Node) : Decidable n.InPlace :=
  decidable_of_iff
    (n.span.isComplete ∧ n.span.start ≤ n.span.stop ∧
      (∀ c ∈ n.children, n.span.start ≤ c.span.start ∧ c.span.stop ≤ n.span.stop) ∧
      n.children.IsChain fun c d => c.span.stop ≤ d.span.start)
    ⟨fun ⟨hc, hf, hw, ha⟩ => ⟨hc, hf, hw, ha⟩, fun h => ⟨h.complete, h.forward, h.within, h.apart⟩⟩

end Node

-- Where a declaration is listed.
def Declaration.point (d : Declaration) : Point :=
  if d.category = .function then d.span.start else d.span.stop

-- The points of `ds` lie between `a` and `b`, in order.
structure Spread (a b : Point) (ds : List Declaration) : Prop where
  complete : ∀ d ∈ ds, d.span.isComplete
  between : ∀ d ∈ ds, a ≤ d.point ∧ d.point ≤ b
  ordered : ds.Pairwise (·.point ≤ ·.point)

namespace Spread

variable {a a' b b' c : Point} {d : Declaration} {ds es : List Declaration}

theorem nil : Spread a b [] := ⟨nofun, nofun, .nil⟩

theorem singleton (h : d.span.isComplete) : Spread d.point d.point [d] where
  complete := List.forall_mem_singleton.mpr h
  between  := List.forall_mem_singleton.mpr ⟨le_rfl, le_rfl⟩
  ordered  := List.pairwise_singleton ..

theorem mono (h : Spread a b ds) (ha : a' ≤ a) (hb : b ≤ b') : Spread a' b' ds where
  complete := h.complete
  between d hd := ⟨ha.trans (h.between d hd).1, (h.between d hd).2.trans hb⟩
  ordered  := h.ordered

-- What ends where something else starts can be put before it.
theorem append (h : Spread a b ds) (h' : Spread b c es) (ha : a ≤ b) (hc : b ≤ c) :
    Spread a c (ds ++ es) where
  complete := List.forall_mem_append.mpr ⟨h.complete, h'.complete⟩
  between := List.forall_mem_append.mpr ⟨(h.mono le_rfl hc).between, (h'.mono ha le_rfl).between⟩
  ordered := List.pairwise_append.mpr ⟨h.ordered, h'.ordered, fun d hd e he =>
    (h.between d hd).2.trans (h'.between e he).1⟩

end Spread

namespace Node

variable {moduleName : String} {policy : Policy} {n : Node} {inside : Bool} {a b : Point}

theorem spread_functionRecord? (h : n.span.isComplete) :
    Spread n.span.start n.span.start (n.functionRecord? moduleName inside).toList := by
  cases hd : n.functionRecord? moduleName inside
  case none => exact .nil
  case some d =>
    obtain ⟨-, -, -, name, -, rfl⟩ := functionRecord?_eq_some_iff.mp hd
    exact .singleton (d := ⟨n.label.span, name, moduleName, .function⟩) h

theorem spread_containerRecord? (h : n.span.isComplete) :
    Spread n.span.stop n.span.stop (n.containerRecord? moduleName policy).toList := by
  cases hd : n.containerRecord? moduleName policy
  case none => exact .nil
  case some d =>
    have hp : d.point = d.span.stop := if_neg <| ne_function_of_containerRecord? hd
    obtain ⟨-, name, category, -, -, rfl⟩ := containerRecord?_eq_some_iff.mp hd
    have hs := Spread.singleton (d := ⟨n.label.span, name, moduleName, category⟩) h
    rwa [hp] at hs

-- From child to child the start moves on to where the last one ended.
theorem spread_listingAll (hab : a ≤ b) (ha : ∀ c ∈ cs.head?, a ≤ c.span.start)
    (hb : ∀ c ∈ cs, c.span.start ≤ c.span.stop ∧ c.span.stop ≤ b)
    (hc : cs.IsChain fun c d => c.span.stop ≤ d.span.start)
    (h : ∀ c ∈ cs, Spread c.span.start c.span.stop (listing moduleName policy inside c)) :
    Spread a b (listingAll moduleName policy inside cs) := by
  induction cs generalizing a
  case nil => exact .nil
  case cons c rest ih =>
    have ⟨hs, hr⟩ := List.forall_mem_cons.mp h
    have ⟨⟨hf, hcb⟩, hb⟩ := List.forall_mem_cons.mp hb
    have ⟨hn, hc⟩ := List.isChain_cons.mp hc
    have ha := ha c rfl
    exact (hs.mono ha le_rfl).append (ih hcb hn hb hc hr) (ha.trans hf) hcb

theorem spread_listing (h : ∀ p m, n.at? p = some m → m.InPlace) (inside) :
    Spread n.span.start n.span.stop (listing moduleName policy inside n) := by
  induction n generalizing inside
  case mk l cs ih =>
    have ⟨hn, hc⟩ := forall_at?_mk_iff.mp h
    have hf : Spread (mk l cs).span.start (mk l cs).span.start
        (functionRecord? moduleName inside (mk l cs)).toList := spread_functionRecord? hn.complete
    have hs : Spread (mk l cs).span.start (mk l cs).span.stop
        (listingAll moduleName policy (inside || l.kind.isContainer) cs) := by
      refine spread_listingAll hn.forward (fun c h => ?_) (fun c h => ?_) hn.apart fun c h => ?_
      case refine_1 => exact (hn.within c <| List.mem_of_mem_head? h).1
      case refine_2 => exact ⟨(hc c h [] c rfl).forward, (hn.within c h).2⟩
      case refine_3 => exact ih c h (hc c h) _
    exact (hf.append hs le_rfl hn.forward).append (spread_containerRecord? hn.complete) hn.forward
      le_rfl

end Node

section Timeline

variable {moduleName : String} {policy : Policy} {root : Node} {m : Mark} {d : Declaration}
  {rows : List (Mark × Declaration)} {i j : Nat}

theorem Recorded.eq_left (h : Recorded moduleName policy root m d) (hd : d.category ≠ .function) :
    m = ⟨.left, m.address⟩ := by
  cases h
  case function  => exact absurd rfl hd
  case container => rfl

-- All that is in a container is over when the container is left.
theorem Timeline.lt_of_above (h : Timeline moduleName policy root rows) (hr : rows[i]? = some r)
    (hs : rows[j]? = some s) (hc : s.2.category ≠ .function) (ha : Above s.1.address r.1.address) :
    i < j := by
  have hl := ((h.recorded s.1 s.2).mp <| List.mem_of_getElem? hs).eq_left hc
  have hlt : r.1.key < s.1.key := hl ▸ (Mark.between_iff_above.mpr ha).2
  by_contra hn
  obtain rfl | hij := (Nat.le_of_not_lt hn).eq_or_lt
  case inl =>
    cases hr.symm.trans hs
    exact lt_irrefl _ hlt
  case inr =>
    obtain ⟨hi, rfl⟩ := List.getElem?_eq_some_iff.mp hr
    obtain ⟨hj, rfl⟩ := List.getElem?_eq_some_iff.mp hs
    exact lt_asymm hlt <| List.pairwise_iff_getElem.mp h.ordered j i hj hi hij

end Timeline

theorem declarations_in_source_order (h : ∀ p n, root.at? p = some n → n.InPlace)
    (moduleName : String) (policy : Policy) :
    (∀ d ∈ declarations moduleName policy root, d.span.isComplete) ∧
    (declarations moduleName policy root).Pairwise (·.point ≤ ·.point) ∧
    ∃ rows, Timeline moduleName policy root rows ∧
      ∀ (i j : Nat) (r s : Mark × Declaration), rows[i]? = some r → rows[j]? = some s →
        s.2.category ≠ .function → Above s.1.address r.1.address → i < j := by
  have hs : Spread root.span.start root.span.stop (root.listing moduleName policy false) :=
    Node.spread_listing h false
  rw [declarations_eq_listing]
  refine ⟨hs.complete, hs.ordered, _, timeline_rows moduleName policy root, ?_⟩
  exact fun _ _ _ _ hr hs => (timeline_rows moduleName policy root).lt_of_above hr hs

-- The record, the class around it and the function after it all share one point.
def onLines (kind : NodeKind) (name : String) (first last : UInt32) (children : List Node) : Node :=
  .mk ⟨kind, ⟨some first, some 0, some last, some 0⟩, true, ["public"], none, some name⟩ children

def nestedLines : Node :=
  onLines .modulePart "m" 0 9
    [onLines .classDefinition "c" 1 4 [onLines (.typeDefinition .record) "r" 2 4 []],
      onLines .functionDefinition "f" 4 6 [onLines .classDefinition "k" 5 6 []]]

theorem inPlace_nestedLines : ∀ p n, nestedLines.at? p = some n → n.InPlace := by
  simp only [nestedLines, onLines, Node.forall_at?_mk_iff, List.forall_mem_cons, List.not_mem_nil,
    false_implies, implies_true, and_true]
  decide

theorem declarations_in_source_order_nestedLines :
    (∀ p n, nestedLines.at? p = some n → n.InPlace) ∧
    (declarations "m" {} nestedLines).map (·.displayName) = ["r", "c", "f", "k"] ∧
    (declarations "m" {} nestedLines).Pairwise (·.point ≤ ·.point) :=
  ⟨inPlace_nestedLines, by decide, (declarations_in_source_order inPlace_nestedLines "m" {}).2.1⟩

end ApiLens
