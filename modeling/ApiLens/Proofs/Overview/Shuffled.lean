import ApiLens.Proofs.Overview.Arranged
import Mathlib.Data.List.Nodup

/-!
The tree of a project does not depend on the order in which its parts are listed.

Names that are different have one order only, so where no name is there twice the old order is lost.
-/

namespace ApiLens

-- `ys` are `xs` in another order, each of them the `Same`. If the order is another one indeed, no
-- name is there twice.
def Permuted (Same : α → α → Prop) (name : α → String) (xs ys : List α) : Prop :=
  ∃ zs, zs.Perm xs ∧ List.Forall₂ Same zs ys ∧ (zs = xs ∨ (xs.map name).Nodup)

structure Service.Shuffled (s t : Service) : Prop where
  name : s.name = t.name
  filePath : s.filePath = t.filePath
  place : s.place = t.place
  resources : Permuted Eq Callable.name s.resources t.resources

structure Module.Shuffled (m n : Module) : Prop where
  name : m.name = n.name
  isDefault : m.isDefault = n.isDefault
  functions : Permuted Eq Callable.name m.functions n.functions
  services : Permuted Service.Shuffled Service.name m.services n.services

-- The modules `ms` are those of a package in another order. The last default one stays the same,
-- and only the names of the others count.
structure Package.Reordered (p : Package) (ms : List Module) : Prop where
  perm : ms.Perm p.modules
  default : ∃ d?, LastDefault p.modules d? ∧ LastDefault ms d?
  others : ms.filter (!·.isDefault) = p.modules.filter (!·.isDefault) ∨
    ((p.modules.filter (!·.isDefault)).map Module.title).Nodup

structure Package.Shuffled (p q : Package) : Prop where
  name : p.name = q.name
  modules : ∃ ms, p.Reordered ms ∧ List.Forall₂ Module.Shuffled ms q.modules

-- Only the first package is shuffled.
inductive Shuffled : List Package → List Package → Prop
  | nil : Shuffled [] []
  | cons : p.Shuffled q → Shuffled (p :: rest) (q :: rest)

section Sorting

variable {name : α → String} {xs ys : List α}

theorem sortByName_eq_of_perm (h : xs.Perm ys) (hn : (xs.map name).Nodup) :
    sortByName name xs = sortByName name ys := by
  have hp : (sortByName name xs).Perm (sortByName name ys) :=
    perm_sortByName.trans <| h.trans perm_sortByName.symm
  refine hp.eq_of_pairwise (fun a b ha hb hab hba => ?_) pairwise_sortByName pairwise_sortByName
  have ha := perm_sortByName.mem_iff.mp ha
  have hb := h.mem_iff.mpr <| perm_sortByName.mem_iff.mp hb
  exact List.inj_on_of_nodup_map hn ha hb <| namesLe_antisymm hab hba

theorem map_sortByName {f : α → β} (shown : β → String) (h : ∀ x, shown (f x) = name x) :
    (sortByName name xs).map f = sortByName shown (xs.map f) :=
  List.map_mergeSort fun a _ b _ => by rw [h, h]

variable {Same : α → α → Prop}

theorem map_eq_of_forall₂ {f : α → β} (hs : ∀ x y, Same x y → f x = f y)
    (h : List.Forall₂ Same xs ys) : xs.map f = ys.map f := by
  induction h
  case nil => rfl
  case cons hxy _ ih => rw [List.map_cons, List.map_cons, hs _ _ hxy, ih]

-- What is the same has one element.
theorem Permuted.map_sortByName_eq {element : α → Element} (h : Permuted Same name xs ys)
    (hn : ∀ x, (element x).entry.name = name x) (hs : ∀ x y, Same x y → element x = element y) :
    (sortByName name xs).map element = (sortByName name ys).map element := by
  obtain ⟨zs, hp, hf, ho⟩ := h
  rw [map_sortByName (·.entry.name) hn, map_sortByName (·.entry.name) hn, ← map_eq_of_forall₂ hs hf]
  obtain rfl | hd := ho
  case inl => rfl
  case inr =>
    refine sortByName_eq_of_perm (hp.symm.map element) ?_
    simpa [Function.comp_def, hn] using hd

end Sorting

section Elements

variable {s t : Service} {m n : Module} {p q : Package} {ms : List Module} {root : Path}

theorem Service.Shuffled.element_eq (h : s.Shuffled t) (c : ModuleContext) :
    c.serviceElement s = c.serviceElement t := by
  have he : c.resourceElement s = c.resourceElement t := by
    funext r
    simp only [ModuleContext.resourceElement, h.name, h.filePath]
  have hr : (sortByName Callable.name s.resources).map (c.resourceElement t) =
      (sortByName Callable.name t.resources).map (c.resourceElement t) :=
    h.resources.map_sortByName_eq (fun _ => rfl) fun _ _ => congrArg _
  simp only [ModuleContext.serviceElement, h.name, h.filePath, h.place, he, hr]

namespace Module.Shuffled

variable (h : m.Shuffled n)
include h

theorem members_eq (c : ModuleContext) : m.members c = n.members c := by
  have hf : (sortByName Callable.name m.functions).map c.functionElement =
      (sortByName Callable.name n.functions).map c.functionElement :=
    h.functions.map_sortByName_eq (fun _ => rfl) fun _ _ => congrArg _
  have hs : (sortByName Service.name m.services).map c.serviceElement =
      (sortByName Service.name n.services).map c.serviceElement :=
    h.services.map_sortByName_eq (fun _ => rfl) fun _ _ hs => hs.element_eq c
  rw [members, members, hf, hs]

theorem title_eq : m.title = n.title := by rw [title, title, h.name]

theorem element_eq : m.element root = n.element root := by
  rw [element, element, h.title_eq, context, context, h.name, h.title_eq, h.members_eq]

end Module.Shuffled

theorem getLast?_filter_of_lastDefault (h : LastDefault ms d?) :
    (ms.filter Module.isDefault).getLast? = d? := by
  cases d?
  case none => rw [List.filter_eq_nil_iff.mpr h, List.getLast?_nil]
  case some d =>
    obtain ⟨before, after, rfl, hd, ha⟩ := h
    rw [List.filter_append, List.filter_cons_of_pos hd, List.filter_eq_nil_iff.mpr ha,
      List.getLast?_concat]

theorem forall₂_filter_isDefault (f : Bool → Bool) (h : List.Forall₂ Module.Shuffled ms ns) :
    List.Forall₂ Module.Shuffled (ms.filter (f ·.isDefault)) (ns.filter (f ·.isDefault)) := by
  refine List.rel_filter (fun m n h => ?_) h
  simp only [h.isDefault]

theorem Package.Shuffled.elements_eq (h : p.Shuffled q) : p.elements root = q.elements root := by
  have ⟨ms, hr, hf⟩ := h.modules
  have hd : p.defaultModule?.map (fun m => m.members (m.defaultContext root)) =
      q.defaultModule?.map (fun m => m.members (m.defaultContext root)) := by
    have ⟨d?, hp, hm⟩ := hr.default
    have hf := forall₂_filter_isDefault id hf
    rw [defaultModule?, getLast?_filter_of_lastDefault hp, ← getLast?_filter_of_lastDefault hm,
      defaultModule?, ← List.getLast?_map, ← List.getLast?_map]
    refine congrArg _ <| map_eq_of_forall₂ (fun m n h => ?_) hf
    rw [Module.defaultContext, Module.defaultContext, h.name, h.members_eq]
  have ho : (sortByName Module.title p.otherModules).map (·.element root) =
      (sortByName Module.title q.otherModules).map (·.element root) := by
    have hp : Permuted Module.Shuffled Module.title p.otherModules q.otherModules :=
      ⟨_, hr.perm.filter _, forall₂_filter_isDefault (!·) hf, hr.others⟩
    exact hp.map_sortByName_eq (fun _ => rfl) fun _ _ h => h.element_eq
  rw [elements, elements, hd, ho]

end Elements

theorem projectTree_shuffled (h : Shuffled packages packages') (root : Path) :
    projectTree packages root = projectTree packages' root := by
  cases h
  case nil    => rfl
  case cons h => exact h.elements_eq

-- Names that differ in case only, on every level.
def orders : List Callable := [⟨"Get", "a.bal", ⟨1, 0⟩⟩, ⟨"get", "b.bal", ⟨2, 0⟩⟩]

def ordersApi (orders : List Callable) : Service := ⟨"api", "api.bal", ⟨0, 0⟩, orders⟩

def depot : Package :=
  ⟨"depot", [⟨some "Cart", false, [], [ordersApi orders]⟩, ⟨some "cart", false, [], []⟩,
    ⟨none, true, orders, []⟩]⟩

def reversedDepot : Package :=
  ⟨"depot", [⟨none, true, orders.reverse, []⟩, ⟨some "cart", false, [], []⟩,
    ⟨some "Cart", false, [], [ordersApi orders.reverse]⟩]⟩

theorem permuted_orders : Permuted Eq Callable.name orders orders.reverse :=
  ⟨orders.reverse, orders.reverse_perm, List.forall₂_refl _, .inr <| by decide⟩

theorem shuffled_depot : depot.Shuffled reversedDepot where
  name := rfl
  modules := by
    have hf : Permuted Eq Callable.name [] [] := ⟨[], .refl _, .nil, .inl rfl⟩
    have hn : Permuted Service.Shuffled Service.name [] [] := ⟨[], .refl _, .nil, .inl rfl⟩
    have hs : Permuted Service.Shuffled Service.name [ordersApi orders]
        [ordersApi orders.reverse] :=
      ⟨_, .refl _, .cons ⟨rfl, rfl, rfl, permuted_orders⟩ .nil, .inl rfl⟩
    refine ⟨depot.modules.reverse, ⟨List.reverse_perm _, ?default, .inr <| by decide⟩, ?modules⟩
    case default =>
      refine ⟨some ⟨none, true, orders, []⟩, ⟨depot.modules.take 2, [], rfl, rfl, ?_⟩,
        ⟨[], depot.modules.reverse.drop 1, rfl, rfl, ?_⟩⟩
      all_goals decide
    case modules =>
      exact .cons ⟨rfl, rfl, permuted_orders, hn⟩ <| .cons ⟨rfl, rfl, hf, hn⟩ <|
        .cons ⟨rfl, rfl, hf, hs⟩ .nil

theorem projectTree_shuffled_depot : Shuffled [depot] [reversedDepot] ∧ depot ≠ reversedDepot ∧
    projectTree [depot] (.ofString "/w") = projectTree [reversedDepot] (.ofString "/w") :=
  ⟨.cons shuffled_depot, by decide, projectTree_shuffled (.cons shuffled_depot) _⟩

end ApiLens
