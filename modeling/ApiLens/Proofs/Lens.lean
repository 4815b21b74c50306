import ApiLens.Lens
import ApiLens.Proofs.Path.Components
import Mathlib.Data.List.Forall2

/-!
The lenses of some declarations, and the module that a document belongs to.
-/

namespace ApiLens

section Lenses

variable {d : Declaration} {settings : Settings}

theorem Declaration.isSome_lens? : (d.lens? settings).isSome = d.span.isComplete := by
  obtain ⟨⟨_ | _, _ | _, _ | _, _ | _⟩, _, _, _⟩ := d <;> rfl

-- A lens for each declaration with a complete span, in their order.
theorem forall₂_lenses (ds : List Declaration) :
    List.Forall₂ (fun d l => d.lens? settings = some l) (ds.filter (·.span.isComplete))
      (lenses settings ds) := by
  induction ds
  case nil => exact .nil
  case cons d ds ih =>
    have hs : (d.lens? settings).isSome = d.span.isComplete := Declaration.isSome_lens?
    cases hl : d.lens? settings <;> rw [hl] at hs
    case none =>
      rwa [List.filter_cons_of_neg (by simp [← hs]), lenses, List.filterMap_cons_none hl]
    case some l =>
      rw [List.filter_cons_of_pos (by simp [← hs]), lenses, List.filterMap_cons_some hl]
      exact .cons hl ih

theorem documentLenses_eq (he : settings.enableCodeLens)
    (hm : moduleName? workspace file = some module) :
    documentLenses tree workspace file settings = (tree.map fun root =>
      lenses settings (declarations module settings.policy root)).getD [] := by
  cases tree <;> simp [documentLenses, he, hm]

end Lenses

section ModuleName

variable {root file d : Path} {rest : List Component}

theorem moduleName?_eq (hd : root.parent? = some d) (hf : file.components = d.components ++ rest) :
    moduleName? root file =
      match rest.filterMap Component.name? with
      | [project, _] => some project
      | [_, _, module, _] => some module
      | _ => none := by
  rw [moduleName?, hd, hf]
  change (Path.afterBase? d.components (d.components ++ rest)).bind _ = _
  rw [Path.afterBase?_append]
  rfl

variable (h : root.fileName? = some (.text name hn))
include h

-- A document in the root itself belongs to the project.
theorem moduleName?_of_top (hf : file.components = root.components ++ [.normal (.text s hs)]) :
    moduleName? root file = some name := by
  have ⟨d, hd, he⟩ := Path.parent?_of_fileName? h
  rw [he, List.append_assoc] at hf
  exact moduleName?_eq hd hf

theorem moduleName?_of_modules (hf : file.components =
    root.components ++ [.normal (.text a ha), .normal (.text c hc), .normal (.text s hs)]) :
    moduleName? root file = some c := by
  have ⟨d, hd, he⟩ := Path.parent?_of_fileName? h
  rw [he, List.append_assoc] at hf
  exact moduleName?_eq hd hf

end ModuleName

end ApiLens
