import ApiLens.Overview.Layout
import ApiLens.Proofs.Text.NameOrder
import Mathlib.Data.List.Forall2

/-!
The tree of a project shows each item once, at its place and in the order of names.
-/

namespace ApiLens

section Sorting

variable {name : α → String} {xs ys : List α}

theorem perm_sortByName : (sortByName name xs).Perm xs := List.mergeSort_perm xs _

theorem pairwise_sortByName :
    (sortByName name xs).Pairwise fun a b => namesLe (name a) (name b) := by
  have trans a b c : namesLe (name a) (name b) → namesLe (name b) (name c) →
      namesLe (name a) (name c) := namesLe_trans
  exact List.pairwise_mergeSort trans (fun a b => namesLe_total (name a) (name b)) xs

-- What is in order already stays so.
theorem sublist_sortByName (hs : ys.Pairwise fun a b => namesLe (name a) (name b))
    (h : ys.Sublist xs) : ys.Sublist (sortByName name xs) := by
  have trans a b c : namesLe (name a) (name b) → namesLe (name b) (name c) →
      namesLe (name a) (name c) := namesLe_trans
  exact List.sublist_mergeSort trans (fun a b => namesLe_total (name a) (name b)) hs h

theorem filter_sortByName (n : String) :
    (sortByName name xs).filter (name · = n) = xs.filter (name · = n) := by
  have hs : (xs.filter (name · = n)).Pairwise fun a b => namesLe (name a) (name b) := by
    refine List.pairwise_of_forall_mem_list fun a ha b hb => ?_
    have ha : name a = n := by simpa using List.of_mem_filter ha
    have hb : name b = n := by simpa using List.of_mem_filter hb
    rw [ha, hb]
    exact namesLe_refl n
  have h := (sublist_sortByName hs List.filter_sublist).filter (name · = n)
  simp only [List.filter_filter, Bool.and_self] at h
  exact (h.eq_of_length (perm_sortByName.filter _).length_eq.symm).symm

end Sorting

-- `ys` are `xs` in the order of names, and those of one name in the order that they had.
structure Arranged (name : α → String) (xs ys : List α) : Prop where
  perm : ys.Perm xs
  sorted : ys.Pairwise fun a b => compareNames (name a) (name b) ≠ .gt
  stable : ∀ n, ys.filter (name · = n) = xs.filter (name · = n)

theorem arranged_sortByName {name : α → String} {xs : List α} :
    Arranged name xs (sortByName name xs) where
  perm := perm_sortByName
  sorted := pairwise_sortByName.imp fun {a b} (h : namesLe (name a) (name b)) => namesLe_iff.mp h
  stable := filter_sortByName

-- `es` show `xs`, one by one in the order of names.
def ShownInOrder (Shows : α → Element → Prop) (name : α → String) (xs : List α)
    (es : List Element) : Prop :=
  ∃ ys, Arranged name xs ys ∧ List.Forall₂ Shows ys es

theorem shownInOrder_map {Shows : α → Element → Prop} {element : α → Element}
    (h : ∀ x, Shows x (element x)) :
    ShownInOrder Shows name xs ((sortByName name xs).map element) := by
  refine ⟨_, arranged_sortByName, List.forall₂_map_right_iff.mpr ?_⟩
  exact List.forall₂_same.mpr fun x _ => h x

-- What an element says of an item in a module.
structure Element.Tells (e : Element) (kind : ElementKind) (name : String) (place : Place)
    (module service : Option String) : Prop where
  kind : e.entry.kind = kind
  name : e.entry.name = name
  startLine : e.entry.startLine = some place.startLine
  startColumn : e.entry.startColumn = some place.startColumn
  moduleName : e.entry.moduleName = module
  serviceName : e.entry.serviceName = service

structure Callable.ShownBy (kind : ElementKind) (module service : Option String) (f : Callable)
    (e : Element) : Prop where
  tells : e.Tells kind f.name f.place module service
  leaf : e.children = []

structure Service.ShownBy (module : Option String) (s : Service) (e : Element) : Prop where
  tells : e.Tells .service s.name s.place module none
  resources : ShownInOrder (Callable.ShownBy .resource module (some s.name)) Callable.name
    s.resources e.children

-- The functions of a module, and after them its services.
def Module.MembersShownBy (m : Module) (es : List Element) : Prop :=
  ∃ functions services, es = functions ++ services ∧
    ShownInOrder (Callable.ShownBy .function m.name none) Callable.name m.functions functions ∧
    ShownInOrder (Service.ShownBy m.name) Service.name m.services services

structure Module.ShownBy (m : Module) (e : Element) : Prop where
  kind : e.entry.kind = .module
  name : e.entry.name = m.title
  members : m.MembersShownBy e.children

theorem Module.membersShownBy {m : Module} {c : ModuleContext} (h : c.moduleName = m.name) :
    m.MembersShownBy (m.members c) := by
  refine ⟨_, _, rfl, shownInOrder_map fun f => ?_, shownInOrder_map fun s => ?_⟩
  case refine_1 => exact ⟨⟨rfl, rfl, rfl, rfl, h, rfl⟩, rfl⟩
  case refine_2 =>
    refine ⟨⟨rfl, rfl, rfl, rfl, h, rfl⟩, shownInOrder_map fun r => ?_⟩
    exact ⟨⟨rfl, rfl, rfl, rfl, h, rfl⟩, rfl⟩

theorem Module.shownBy_element {m : Module} : m.ShownBy (m.element root) where
  kind := rfl
  name := rfl
  members := membersShownBy rfl

-- The last of some modules that is a default one, if one is.
def LastDefault (modules : List Module) : Option Module → Prop
  | some d => ∃ before after, modules = before ++ d :: after ∧ d.isDefault ∧
    ∀ m ∈ after, ¬m.isDefault
  | none => ∀ m ∈ modules, ¬m.isDefault

namespace Package

variable {p : Package}

theorem lastDefault : LastDefault p.modules p.defaultModule? := by
  cases h : p.defaultModule?
  case none => exact List.filter_eq_nil_iff.mp <| List.getLast?_eq_none_iff.mp h
  case some d =>
    have ⟨_, hl⟩ := List.getLast?_eq_some_iff.mp h
    have ⟨before, rest, hm, _, hr⟩ := List.filter_eq_append_iff.mp hl
    have ⟨between, after, hr, _, hd, ha⟩ := List.filter_eq_cons_iff.mp hr
    refine ⟨before ++ between, after, by rw [hm, hr, List.append_assoc], hd, ?_⟩
    simpa using ha

-- The modules that have a part in the tree.
def kept (p : Package) : Package :=
  { p with modules := p.defaultModule?.toList ++ p.modules.filter (!·.isDefault) }

theorem filter_isDefault_toList :
    p.defaultModule?.toList.filter Module.isDefault = p.defaultModule?.toList := by
  refine List.filter_eq_self.mpr fun d hd => ?_
  exact List.of_mem_filter <| List.mem_of_getLast? <| Option.mem_toList.mp hd

theorem defaultModule?_kept : p.kept.defaultModule? = p.defaultModule? := by
  have ho : (p.modules.filter (!·.isDefault)).filter Module.isDefault = [] := by simp
  rw [defaultModule?, kept, List.filter_append, filter_isDefault_toList, ho, List.append_nil]
  cases p.defaultModule? <;> rfl

theorem otherModules_kept : p.kept.otherModules = p.otherModules := by
  have hd : p.defaultModule?.toList.filter (!·.isDefault) = [] := by
    rw [← filter_isDefault_toList]
    simp
  rw [otherModules, kept, List.filter_append, hd, List.nil_append, otherModules, List.filter_filter]
  simp only [Bool.and_self]

theorem elements_kept : p.kept.elements root = p.elements root := by
  rw [elements, elements, defaultModule?_kept, otherModules_kept]

end Package

theorem projectTree_arranged (packages : List Package) (root : Path) :
    match packages with
    | [] => ∃ message, projectTree packages root = [.info message]
    | p :: _ => ∃ d? members modules, LastDefault p.modules d? ∧
        projectTree packages root = members ++ modules ∧
        (match d? with
          | some d => d.MembersShownBy members
          | none => members = []) ∧
        ShownInOrder Module.ShownBy Module.title (p.modules.filter (!·.isDefault)) modules ∧
        projectTree packages root =
          projectTree [⟨p.name, d?.toList ++ p.modules.filter (!·.isDefault)⟩] root := by
  cases packages
  case nil => exact ⟨overviewFailed, rfl⟩
  case cons p rest =>
    refine ⟨p.defaultModule?, _, _, p.lastDefault, rfl, ?_, ?_, p.elements_kept.symm⟩
    case refine_1 =>
      cases p.defaultModule?
      case none   => rfl
      case some d => exact Module.membersShownBy rfl
    case refine_2 => exact shownInOrder_map fun m => m.shownBy_element

end ApiLens
