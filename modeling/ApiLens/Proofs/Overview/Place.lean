import ApiLens.Proofs.Lens
import ApiLens.Proofs.Overview.Arranged
import ApiLens.Proofs.Path.Written

/-!
The files of a project's tree belong to the modules that their lenses name.
-/

namespace ApiLens

-- An element of a forest, at whatever depth.
inductive Element.In (e : Element) : List Element → Prop
  | here (h : e ∈ es) : e.In es
  | inside (h : t ∈ es) (hi : e.In t.children) : e.In es

namespace Element

variable {e t : Element} {es : List Element}

theorem not_in_nil : ¬e.In [] := by
  rintro (h | ⟨h, _⟩)
  all_goals cases h

theorem in_singleton_iff : e.In [t] ↔ e = t ∨ e.In t.children := by
  constructor
  case mp =>
    rintro (h | ⟨h, hi⟩)
    case here   => exact .inl <| List.mem_singleton.mp h
    case inside => exact .inr <| List.mem_singleton.mp h ▸ hi
  case mpr =>
    rintro (rfl | hi)
    case inl => exact .here <| List.mem_singleton_self e
    case inr => exact .inside (List.mem_singleton_self t) hi

theorem In.mono (h : e.In es) (hs : es ⊆ es') : e.In es' := by
  obtain h | ⟨h, hi⟩ := h
  case here   => exact .here <| hs h
  case inside => exact .inside (hs h) hi

end Element

-- The element, in a context, of an item of `m` that is declared in `file`.
inductive Module.Declares (m : Module) (c : ModuleContext) : String → Element → Prop
  | function (h : f ∈ m.functions) : m.Declares c f.filePath (c.functionElement f)
  | service (h : s ∈ m.services) : m.Declares c s.filePath (c.serviceElement s)
  | resource (hs : s ∈ m.services) (hr : r ∈ s.resources) :
    m.Declares c s.filePath (c.resourceElement s r)

namespace Module

variable {m : Module} {c : ModuleContext} {e t : Element} {file : String}

theorem mem_members_iff : e ∈ m.members c ↔
    (∃ f ∈ m.functions, c.functionElement f = e) ∨ ∃ s ∈ m.services, c.serviceElement s = e := by
  simp [members, perm_sortByName.mem_iff]

theorem exists_declares (h : e.In (m.members c)) : ∃ file, m.Declares c file e := by
  obtain h | ⟨h, hi⟩ := h
  case here =>
    obtain ⟨f, hf, rfl⟩ | ⟨s, hs, rfl⟩ := mem_members_iff.mp h
    case inl => exact ⟨_, .function hf⟩
    case inr => exact ⟨_, .service hs⟩
  case inside =>
    obtain ⟨f, hf, rfl⟩ | ⟨s, hs, rfl⟩ := mem_members_iff.mp h
    case inl => exact absurd hi Element.not_in_nil
    case inr =>
      obtain h | ⟨h, hi⟩ := hi
      all_goals obtain ⟨r, hr, rfl⟩ := List.mem_map.mp h
      case here   => exact ⟨_, .resource hs <| perm_sortByName.mem_iff.mp hr⟩
      case inside => exact absurd hi Element.not_in_nil

theorem name_of_components_title {c : Component} (h : (Path.ofString m.title).components = [c]) :
    m.name = some m.title := by
  cases hn : m.name
  case none => rw [title, hn] at h; cases h
  case some => simp [title, hn]

theorem Declares.filePath (h : m.Declares c file e) :
    e.entry.filePath = some (c.filePath file) := by
  cases h <;> rfl

theorem Declares.moduleName (h : m.Declares c file e) : e.entry.moduleName = c.moduleName := by
  cases h <;> rfl

end Module

def ElementKind.IsItem : ElementKind → Prop
  | function | service | resource => True
  | _ => False

-- What an element is of, at or below an element `t` on top of a project's tree: an item of the
-- default module, or of the one that `t` shows.
inductive Origin (root : Path) (t : Element) (m : Module) (file : String) (e : Element) : Prop
  | default (ht : t.entry.kind ≠ .module) (h : m.Declares (m.defaultContext root) file e)
  | other (ht : t = m.element root) (h : m.Declares (m.context root) file e)

section Origin

variable {packages : List Package} {root : Path} {t e : Element} {m : Module} {file : String}

theorem Package.mem_elements_iff {p : Package} : t ∈ p.elements root ↔
    (∃ d ∈ p.defaultModule?, t ∈ d.members (d.defaultContext root)) ∨
      ∃ m ∈ p.otherModules, m.element root = t := by
  cases h : p.defaultModule? <;> simp [elements, h, perm_sortByName.mem_iff]

theorem mem_projectTree_cases (h : t ∈ projectTree packages root) :
    (∃ message, t = .info message) ∨ ∃ p ∈ packages.head?, ∃ m ∈ p.modules,
      (m.isDefault ∧ t ∈ m.members (m.defaultContext root)) ∨
        (¬m.isDefault ∧ t = m.element root) := by
  cases packages
  case nil => exact .inl ⟨_, List.mem_singleton.mp h⟩
  case cons p rest =>
    refine .inr ⟨p, rfl, ?_⟩
    obtain ⟨d, hd, h⟩ | ⟨m, hm, rfl⟩ := Package.mem_elements_iff.mp h
    case inl =>
      have ⟨hm, hd⟩ := List.mem_filter.mp <| List.mem_of_getLast? hd
      exact ⟨d, hm, .inl ⟨hd, h⟩⟩
    case inr =>
      have ⟨hm, hn⟩ := List.mem_filter.mp hm
      exact ⟨m, hm, .inr ⟨by simpa using hn, rfl⟩⟩

theorem kind_ne_module_of_mem_members (h : t ∈ m.members c) : t.entry.kind ≠ .module := by
  obtain ⟨f, _, rfl⟩ | ⟨s, _, rfl⟩ := Module.mem_members_iff.mp h
  all_goals exact nofun

theorem exists_origin (ht : t ∈ projectTree packages root) (he : e.In [t])
    (hk : e.entry.kind.IsItem) : ∃ p ∈ packages.head?, ∃ m ∈ p.modules,
      (m.isDefault ↔ t.entry.kind ≠ .module) ∧ ∃ file, Origin root t m file e := by
  obtain ⟨message, rfl⟩ | ⟨p, hp, m, hm, ⟨hd, h⟩ | ⟨hd, rfl⟩⟩ := mem_projectTree_cases ht
  case inl =>
    obtain rfl | hi := Element.in_singleton_iff.mp he
    · cases hk
    · exact absurd hi Element.not_in_nil
  case inr.inl =>
    have hn := kind_ne_module_of_mem_members h
    have he := he.mono <| List.cons_subset.mpr ⟨h, List.nil_subset _⟩
    have ⟨file, ho⟩ := Module.exists_declares he
    exact ⟨p, hp, m, hm, iff_of_true hd hn, file, .default hn ho⟩
  case inr.inr =>
    obtain rfl | hi := Element.in_singleton_iff.mp he
    · cases hk
    · have ⟨file, ho⟩ := Module.exists_declares hi
      exact ⟨p, hp, m, hm, iff_of_false hd (· rfl), file, .other rfl ho⟩

end Origin

section Place

variable {root : Path} {m : Module} {name file : String} {hn : '/' ∉ name.toList} {s : Segment}
  (h : root.fileName? = some (.text name hn)) (hs : (Path.ofString file).components = [.normal s])
include h hs

theorem moduleName?_defaultContext :
    moduleName? root ((m.defaultContext root).filePath file) = some name := by
  obtain ⟨text, _, rfl⟩ := Path.text_of_components hs
  exact moduleName?_of_top h <| Path.components_join_ofString hs

theorem moduleName?_context
    (hc : (Path.ofString m.title).components = [.normal (.text c ht)]) :
    moduleName? root ((m.context root).filePath file) = some c := by
  obtain ⟨text, hs', rfl⟩ := Path.text_of_components hs
  have hm : (Path.ofString "modules").components = [.normal (.text "modules")] := rfl
  have hf : ((m.context root).filePath file).components =
      (m.context root).fileRoot.components ++ [.normal (.text text hs')] :=
    Path.components_join_ofString hs
  have hp : ((m.context root).filePath file).components = root.components ++
      [.normal (.text "modules"), .normal (.text c ht), .normal (.text text hs')] := by
    rw [hf, Module.context, Path.components_join_ofString hc, Path.components_join_ofString hm]
    simp only [List.append_assoc, List.cons_append, List.nil_append]
  exact moduleName?_of_modules h hp

end Place

-- What `text` has after `c` are slashes and dots that count for nothing.
def Trims (text c : String) : Prop :=
  ∃ trail, text = "/".intercalate (c :: trail) ∧ ∀ piece ∈ trail, piece = "" ∨ piece = "."

theorem trims_of_components (h : (Path.ofString text).components = [.normal (.text c hc)]) :
    Trims text c := by
  have ⟨rest, hs, _, ht⟩ := Path.segments_of_components_eq_normal h
  refine ⟨rest.map Segment.shown, ?_, fun piece hp => ?_⟩
  case refine_1 =>
    conv => lhs; rw [← Path.shown_ofString text, Path.shown, hs]
    rfl
  case refine_2 =>
    obtain ⟨t, hm, he⟩ := List.mem_map.mp hp
    obtain rfl | rfl : t = .empty ∨ t = .dot := by simpa [Segment.isTrivial] using ht t hm
    · exact .inl he.symm
    · exact .inr he.symm

theorem overview_agrees_with_lenses (h : root.fileName? = some (.text name hn))
    (packages : List Package) : ∀ t ∈ projectTree packages root, ∀ e, e.In [t] →
      e.entry.kind.IsItem →
      (∃ p ∈ packages.head?, ∃ m ∈ p.modules,
        (m.isDefault ↔ t.entry.kind ≠ .module) ∧ ∃ file, Origin root t m file e) ∧
      ∀ m file s, Origin root t m file e → (Path.ofString file).components = [.normal s] →
        ∃ place, e.entry.filePath = some place ∧
          (t.entry.kind ≠ .module → moduleName? root place = some name) ∧
          (t.entry.kind = .module → ∀ c hc, (Path.ofString t.entry.name).components =
            [.normal (.text c hc)] → moduleName? root place = some c ∧
              ∃ own, e.entry.moduleName = some own ∧ Trims own c) := by
  intro t ht e he hk
  refine ⟨exists_origin ht he hk, fun m file s ho hs => ?_⟩
  cases ho
  case default hn hd =>
    exact ⟨_, hd.filePath, fun _ => moduleName?_defaultContext h hs, fun hm => absurd hm hn⟩
  case other hm hd =>
    subst hm
    refine ⟨_, hd.filePath, fun hn => absurd rfl hn, fun _ c _ hc => ?_⟩
    refine ⟨moduleName?_context h hs hc, m.title, ?_, trims_of_components hc⟩
    exact hd.moduleName.trans <| Module.name_of_components_title hc

-- A module and a default one, each with a function.
def lister : Callable := ⟨"list", "a.bal", ⟨0, 0⟩⟩

def store : Module := ⟨some "store/.", false, [lister], []⟩

def shop : Package := ⟨"shop", [store, { store with isDefault := true }]⟩

def shopRoot : Path := .ofString "/w/../shop/"

theorem overview_agrees_with_lenses_shop : ∃ d t e : Element, ∃ here there,
    d ∈ projectTree [shop] shopRoot ∧ t ∈ projectTree [shop] shopRoot ∧ e.In [t] ∧
    d.entry.filePath = some here ∧ moduleName? shopRoot here = some "shop" ∧
    e.entry.filePath = some there ∧ moduleName? shopRoot there = some "store" := by
  let context := { store with isDefault := true }.defaultContext shopRoot
  have h : shopRoot.fileName? = some (.text "shop") := by decide
  have hf : (Path.ofString "a.bal").components = [.normal (.text "a.bal")] := by decide
  have hd : context.functionElement lister ∈ projectTree [shop] shopRoot := by
    refine List.mem_append_left _ ?_
    exact Module.mem_members_iff.mpr <| .inl ⟨lister, by decide, rfl⟩
  have ht : store.element shopRoot ∈ projectTree [shop] shopRoot := by
    refine List.mem_append_right _ <| List.mem_map.mpr ⟨store, ?_, rfl⟩
    exact perm_sortByName.mem_iff.mpr <| by decide
  have he : (store.context shopRoot).functionElement lister ∈ (store.element shopRoot).children :=
    Module.mem_members_iff.mpr <| .inl ⟨lister, by decide, rfl⟩
  have he := Element.in_singleton_iff.mpr <| .inr <| .here he
  have agree := overview_agrees_with_lenses h [shop]
  have ⟨_, hd'⟩ := agree _ hd _ (.here <| List.mem_singleton_self _) trivial
  have ⟨_, he'⟩ := agree _ ht _ he trivial
  have ⟨here, hh, hn, _⟩ := hd' _ _ _ (.default nofun <| .function <| by decide) hf
  have ⟨there, hh', _, hn'⟩ := he' _ _ _ (.other rfl <| .function <| by decide) hf
  have ⟨hn', _⟩ := hn' rfl "store" (by decide) (by decide)
  exact ⟨_, _, _, here, there, hd, ht, he, hh, hn nofun, hh', hn'⟩

end ApiLens
