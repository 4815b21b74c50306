import ApiLens.Proofs.Lens

/-!
The documents that belong to a module.

A project is laid out in two ways: `project/file` and `project/modules/module/file`. A document in
one of them belongs to its module. But what is no name is passed over before the names are counted,
so a document that is reached in a roundabout way may belong to a module too.
-/

namespace ApiLens

-- The names that lead to a document of a module.
inductive Layout : (names : List String) → (module : String) → Prop
  | top    : Layout [project, file] project
  | nested : Layout [project, modules, module, file] module

-- From the directory above the workspace, `rest` leads to the document.
def Leads (workspace file : Path) (rest : List Component) : Prop :=
  ∃ parent, workspace.parent? = some parent ∧ file.components = parent.components ++ rest

-- A component that is a name, and the text of it.
inductive Component.IsNamed : Component → String → Prop
  | normal (h : '/' ∉ name.toList) : IsNamed (.normal (.text name h)) name

-- Nothing but the names of a layout leads to the document.
def LaidOut (workspace file : Path) (module : String) : Prop :=
  ∃ rest names, Leads workspace file rest ∧ List.Forall₂ Component.IsNamed rest names ∧
    Layout names module

variable {workspace file : Path} {rest more : List Component} {names : List String}

theorem Path.afterBase?_eq_some_iff {base path : List Component} :
    afterBase? base path = some rest ↔ path = base ++ rest := by
  constructor
  case mp =>
    intro h
    induction base generalizing path
    case nil => exact Option.some.inj h
    case cons b base ih =>
      cases path
      case nil => cases h
      case cons c path =>
        simp only [afterBase?] at h
        split at h
        case isTrue hc => rw [← hc, ih h, List.cons_append]
        case isFalse   => cases h
  case mpr => rintro rfl; exact afterBase?_append base rest

theorem Component.name?_eq_some_iff {c : Component} : c.name? = some n ↔ c.IsNamed n := by
  constructor
  case mp =>
    intro h
    rcases c with _ | _ | _ | ⟨_ | _⟩ <;> cases h
    constructor
  case mpr =>
    intro h
    cases h
    rfl

theorem filterMap_name?_of_named (h : List.Forall₂ Component.IsNamed rest names) :
    rest.filterMap Component.name? = names := by
  induction h
  case nil => rfl
  case cons hc _ ih => rw [List.filterMap_cons_some (Component.name?_eq_some_iff.mpr hc), ih]

theorem forall₂_isNamed_iff : List.Forall₂ Component.IsNamed rest (rest.filterMap Component.name?) ↔
    ∀ c ∈ rest, c.name?.isSome := by
  induction rest
  case nil => simp
  case cons c rest ih =>
    cases hc : c.name?
    case none =>
      refine iff_of_false (fun h => ?_) (by simp [hc])
      have hl := h.length_eq
      have hle : (rest.filterMap Component.name?).length ≤ rest.length := List.length_filterMap_le ..
      rw [List.filterMap_cons_none hc, List.length_cons] at hl
      omega
    case some n =>
      rw [List.filterMap_cons_some hc, List.forall₂_cons, ih, List.forall_mem_cons]
      simp [hc, Component.name?_eq_some_iff.mp hc]

theorem Leads.eq (h : Leads workspace file rest) (h' : Leads workspace file more) :
    rest = more := by
  obtain ⟨d, hd, hf⟩ := h
  obtain ⟨d', hd', hf'⟩ := h'
  cases hd.symm.trans hd'
  exact List.append_cancel_left <| hf.symm.trans hf'

theorem Leads.moduleName?_eq_some_iff (h : Leads workspace file rest) :
    moduleName? workspace file = some m ↔ Layout (rest.filterMap Component.name?) m := by
  obtain ⟨d, hd, hf⟩ := h
  rw [moduleName?_eq hd hf]
  constructor
  case mp =>
    intro hm
    split at hm <;> cases hm
    case h_1 hr => exact hr ▸ .top
    case h_2 hr => exact hr ▸ .nested
  case mpr =>
    intro hl
    generalize rest.filterMap Component.name? = names at hl ⊢
    cases hl <;> rfl

theorem exists_leads_of_moduleName? (h : moduleName? workspace file = some m) :
    ∃ rest, Leads workspace file rest := by
  obtain ⟨d, hd, h⟩ := Option.bind_eq_some_iff.mp h
  obtain ⟨rest, hr, -⟩ := Option.bind_eq_some_iff.mp h
  exact ⟨rest, d, hd, Path.afterBase?_eq_some_iff.mp hr⟩

theorem moduleName?_eq_some_iff : moduleName? workspace file = some m ↔
    ∃ rest, Leads workspace file rest ∧ Layout (rest.filterMap Component.name?) m := by
  constructor
  case mp =>
    intro h
    have ⟨rest, hl⟩ := exists_leads_of_moduleName? h
    exact ⟨rest, hl, hl.moduleName?_eq_some_iff.mp h⟩
  case mpr => exact fun ⟨_, hl, hn⟩ => hl.moduleName?_eq_some_iff.mpr hn

theorem LaidOut.moduleName? (h : LaidOut workspace file m) :
    moduleName? workspace file = some m := by
  obtain ⟨rest, names, hl, hr, hn⟩ := h
  exact hl.moduleName?_eq_some_iff.mpr <| by rwa [filterMap_name?_of_named hr]

-- Of the documents of a module, those are laid out to which only names lead.
theorem laidOut_iff : LaidOut workspace file m ↔ moduleName? workspace file = some m ∧
    ∀ rest, Leads workspace file rest → ∀ c ∈ rest, c.name?.isSome := by
  constructor
  case mp =>
    refine fun h => ⟨h.moduleName?, fun rest' hr' => ?_⟩
    obtain ⟨rest, names, hl, hr, -⟩ := h
    rw [← forall₂_isNamed_iff, hr'.eq hl, filterMap_name?_of_named hr]
    exact hr
  case mpr =>
    intro ⟨h, hs⟩
    obtain ⟨rest, hl, hn⟩ := moduleName?_eq_some_iff.mp h
    exact ⟨rest, _, hl, forall₂_isNamed_iff.mpr (hs rest hl), hn⟩

theorem documentLenses_of_moduleName?_eq_none (h : moduleName? workspace file = none) :
    documentLenses tree workspace file settings = [] := by
  cases tree <;> simp [documentLenses, h]

theorem documents_of_modules (workspace file : Path) :
    (∀ m, moduleName? workspace file = some m ↔
      ∃ rest, Leads workspace file rest ∧ Layout (rest.filterMap Component.name?) m) ∧
    (∀ m, LaidOut workspace file m ↔ moduleName? workspace file = some m ∧
      ∀ rest, Leads workspace file rest → ∀ c ∈ rest, c.name?.isSome) ∧
    ((∃ m, moduleName? workspace file = some m) ∨
      ∀ tree settings, documentLenses tree workspace file settings = []) := by
  refine ⟨fun _ => moduleName?_eq_some_iff, fun _ => laidOut_iff, ?_⟩
  cases hm : moduleName? workspace file
  case none   => exact .inr fun _ _ => documentLenses_of_moduleName?_eq_none hm
  case some m => exact .inl ⟨m, rfl⟩

-- Out of the project and no further, so that two names are left on the way.
def detour : Path := .ofString "/home/dev/shop/../main.bal"

theorem not_laidOut_detour : moduleName? (.ofString "/home/dev/shop") detour = some "shop" ∧
    ¬∃ m, LaidOut (.ofString "/home/dev/shop") detour m := by
  have hl : Leads (.ofString "/home/dev/shop") detour
      [.normal (.text "shop"), .up, .normal (.text "main.bal")] :=
    ⟨.ofString "/home/dev", by decide, by decide⟩
  refine ⟨hl.moduleName?_eq_some_iff.mpr .top, fun ⟨m, h⟩ => ?_⟩
  have hn := (laidOut_iff.mp h).2 _ hl .up <| by decide
  cases hn

end ApiLens
