import ApiLens.Proofs.Json.Keys
import ApiLens.Settings.Load
import Mathlib.Data.List.Induction

/-!
What two files of settings say together.

A file is known by the entries that it makes by itself: their keys are in lower case, and a key that
is a path leads into the entry that it starts with. For each of the three settings the file of the
workspace is asked first, then the one of the home directory, and then there is the default.
-/

namespace ApiLens

-- What is no list and no table.
def Datum.isPlain : Datum → Bool
  | list _ | table _ => false
  | _ => true

namespace Sourced

variable {old : Option Sourced} {v : Datum}

-- The entry after a value has been written to it or somewhere inside of it.
def place (old : Option Sourced) (steps : List KeyStep) (value : Datum) (origin : String) :
    Sourced :=
  match steps with
  | []        => write old value origin
  | step :: _ => writeInside old step value

theorem not_isPlain_writeInside : ¬(writeInside old step v).value.isPlain := by
  unfold writeInside
  split <;> split <;> nofun

-- A plain value covers what was there before, unless it was there itself.
theorem place_of_isPlain (h : (place old steps v file).value.isPlain) :
    old = some (place old steps v file) ∨
      ∀ other, place other steps v file = place old steps v file := by
  cases steps
  case cons => exact absurd h not_isPlain_writeInside
  case nil =>
    -- Tables alone look at what was there, and only an empty one leaves it plain.
    cases v
    case table entries =>
      cases entries <;> cases old
      case nil.some => exact .inl rfl
      case cons.some old => obtain ⟨value, file⟩ := old; cases value <;> cases h
      all_goals cases h
    all_goals exact .inr fun _ => rfl

end Sourced

namespace Layers

variable {layers own : Layers} {entries : List (String × Datum)}

theorem lookup_put : (layers.put name s).lookup key =
    if key = name then some s else layers.lookup key := by
  induction layers
  case nil => by_cases h : key = name <;> simp [put, h]
  case cons e rest ih =>
    obtain ⟨k, old⟩ := e
    by_cases hk : k = name
    case pos => rw [put, if_pos hk, lookup_cons_eq, lookup_cons_eq, hk]; split <;> rfl
    case neg =>
      rw [put, if_neg hk, lookup_cons_eq, lookup_cons_eq, ih]
      by_cases h : key = k <;> simp_all

theorem lookup_write : (write origin layers k value).lookup key =
    if key = (KeyPath.ofKey k).name then
      some (Sourced.place (layers.lookup key) (KeyPath.ofKey k).steps value origin)
    else layers.lookup key := by
  simp only [write]
  cases (KeyPath.ofKey k).steps
  all_goals
    rw [lookup_put]
    split
    case isTrue h  => rw [h]; rfl
    case isFalse h => rfl

theorem add_concat :
    layers.add origin (entries ++ [(k, v)]) = write origin (layers.add origin entries) k v :=
  List.foldl_concat ..

-- On top of `old`, a plain entry of a file is the one that counts.
structure Covers (own old result : Option Sourced) : Prop where
  missing : own = none → result = old
  plain s : own = some s → s.value.isPlain → result = some s

theorem covers_add : Covers ((add [] origin entries).lookup key) (layers.lookup key)
    ((layers.add origin entries).lookup key) := by
  induction entries using List.reverseRecOn
  case nil => exact ⟨fun _ => rfl, nofun⟩
  case append_singleton entries e ih =>
    obtain ⟨k, value⟩ := e
    rw [add_concat, add_concat, lookup_write, lookup_write]
    split
    case isFalse => exact ih
    case isTrue =>
      refine ⟨nofun, fun s hs hp => ?_⟩
      cases hs
      obtain ho | hi := Sourced.place_of_isPlain hp
      case inl => rw [(ih.plain _ ho hp).trans ho.symm]
      case inr => exact congrArg some (hi _)

theorem lookup_add (h : ∀ s ∈ (add [] origin entries).lookup key, s.value.isPlain) :
    (layers.add origin entries).lookup key =
      ((add [] origin entries).lookup key).or (layers.lookup key) := by
  have hc : Covers ((add [] origin entries).lookup key) (layers.lookup key)
    ((layers.add origin entries).lookup key) := covers_add
  cases ho : (add [] origin entries).lookup key
  case none   => exact hc.missing ho
  case some s => exact hc.plain s ho (h s ho)

-- No setting has a list or a table for its value.
def IsPlain (layers : Layers) : Prop :=
  ∀ key ∈ Settings.shape.fields, ∀ s ∈ layers.lookup key, s.value.isPlain

instance (layers : Layers) : Decidable layers.IsPlain :=
  inferInstanceAs <| Decidable <|
    ∀ key ∈ Settings.shape.fields, ∀ s ∈ layers.lookup key, s.value.isPlain

end Layers

namespace Settings

-- Each setting as the nearest file has it that has its key, if it can be read.
def chosen (above below : Layers) : Parts where
  enableCodeLens := choose "enable_code_lens" Datum.switch? ({} : Settings).enableCodeLens
  showDocsCommand := choose "show_docs_command" Datum.text? ({} : Settings).showDocsCommand
  innerFunctionsRequirePublic := choose "inner_functions_require_public" Datum.switch?
    ({} : Settings).innerFunctionsRequirePublic
where
  choose {α : Type} (key : String) (read : Datum → Option α) (fallback : α) : Option α :=
    match above.lookup key, below.lookup key with
    | some found, _ => read found.value
    | none, some found => read found.value
    | none, none => some fallback

-- What the file of the home directory and the one of the workspace say by themselves, which is
-- nothing where there is no file.
structure Given (tree : FileTree) (home root : Path) (below above : Layers) : Prop where
  home : layer tree [] (homeFile home) = .ok below
  workspace : layer tree [] (workspaceFile root) = .ok above
  plainBelow : below.IsPlain
  plainAbove : above.IsPlain

variable {tree : FileTree} {home root base : Path} {layers own below above : Layers}
  {read : Datum → Option α}

theorem lookup_layer (h : layer tree [] base = .ok own) (hp : own.IsPlain) (layers) :
    ∃ result, layer tree layers base = .ok result ∧ ∀ key ∈ shape.fields,
      result.lookup key = (own.lookup key).or (layers.lookup key) := by
  simp only [layer] at h ⊢
  split at h
  case h_1 => cases h; exact ⟨layers, rfl, fun _ _ => rfl⟩
  case h_2 file _ =>
    cases he : file.entries tree <;> rw [he] at h <;> cases h
    exact ⟨_, rfl, fun key hk => Layers.lookup_add (hp key hk)⟩

theorem load_eq (h : Given tree home root below above) : ∃ layers,
    load tree home root = (if root.text?.isSome then ofLayers layers else .error .rootNotText) ∧
    ∀ key ∈ shape.fields, layers.lookup key =
      (above.lookup key).or ((below.lookup key).or (Layers.defaults.lookup key)) := by
  have ⟨first, hf, hl⟩ := lookup_layer h.home h.plainBelow .defaults
  have ⟨second, hs, hl'⟩ := lookup_layer h.workspace h.plainAbove first
  refine ⟨second, ?_, fun key hk => by rw [hl' key hk, hl key hk]⟩
  simp only [load, hf]
  cases root.text?
  case none => rfl
  case some => simp only [bind, Except.bind, hs]; rfl

theorem field_eq_ok_iff : field layers key expected read = .ok a ↔
    ∃ found, layers.lookup key = some found ∧ read found.value = some a := by
  simp only [field]
  cases layers.lookup key
  case none => simp
  case some found => cases hr : read found.value <;> simp [hr]

theorem ofLayers_eq_ok_iff : ofLayers layers = .ok s ↔
    field layers "enable_code_lens" "a boolean" Datum.switch? = .ok s.enableCodeLens ∧
    field layers "show_docs_command" "a string" Datum.text? = .ok s.showDocsCommand ∧
    field layers "inner_functions_require_public" "a boolean" Datum.switch? =
      .ok s.innerFunctionsRequirePublic := by
  cases s
  simp only [ofLayers]
  cases field layers "enable_code_lens" "a boolean" Datum.switch? <;>
    cases field layers "show_docs_command" "a string" Datum.text? <;>
      cases field layers "inner_functions_require_public" "a boolean" Datum.switch? <;>
        simp [bind, Except.bind, pure, Except.pure]

theorem ofLayers_congr {layers' : Layers}
    (h : ∀ key ∈ shape.fields, layers'.lookup key = layers.lookup key) :
    ofLayers layers' = ofLayers layers := by
  simp only [shape, List.forall_mem_cons] at h
  simp only [ofLayers, field, h]

-- A setting is read from its entry in the layers as it is chosen from the two files.
theorem field_eq_ok_iff_choose (read : Datum → Option α) (fallback : α)
    (hd : Layers.defaults.lookup key = some d) (hr : read d.value = some fallback)
    (hl : layers.lookup key =
      (above.lookup key).or ((below.lookup key).or (Layers.defaults.lookup key))) :
    field layers key expected read = .ok a ↔
      chosen.choose above below key read fallback = some a := by
  rw [field_eq_ok_iff, hl, hd]
  simp only [chosen.choose]
  cases above.lookup key <;> cases below.lookup key <;> simp [hr]

theorem load_eq_ok_iff (h : Given tree home root below above) :
    load tree home root = .ok s ↔ root.text?.isSome ∧
      (chosen above below).enableCodeLens = some s.enableCodeLens ∧
      (chosen above below).showDocsCommand = some s.showDocsCommand ∧
      (chosen above below).innerFunctionsRequirePublic = some s.innerFunctionsRequirePublic := by
  have ⟨layers, hl, hk⟩ := load_eq h
  rw [hl]
  split
  case isFalse hr => simp [hr]
  case isTrue hr =>
    simp only [shape, List.forall_mem_cons] at hk
    obtain ⟨he, hs, hi, -⟩ := hk
    rw [ofLayers_eq_ok_iff, and_iff_right hr,
      field_eq_ok_iff_choose Datum.switch? ({} : Settings).enableCodeLens rfl rfl he,
      field_eq_ok_iff_choose Datum.text? ({} : Settings).showDocsCommand rfl rfl hs,
      field_eq_ok_iff_choose Datum.switch? ({} : Settings).innerFunctionsRequirePublic rfl rfl hi]
    rfl

theorem exists_load_iff (h : Given tree home root below above) :
    (∃ s, load tree home root = .ok s) ↔ root.text?.isSome ∧
      (chosen above below).enableCodeLens.isSome ∧
      (chosen above below).showDocsCommand.isSome ∧
      (chosen above below).innerFunctionsRequirePublic.isSome := by
  simp only [load_eq_ok_iff h, Option.isSome_iff_exists]
  constructor
  case mp  => exact fun ⟨s, hr, he, hs, hi⟩ => ⟨hr, ⟨_, he⟩, ⟨_, hs⟩, ⟨_, hi⟩⟩
  case mpr => exact fun ⟨hr, ⟨e, he⟩, ⟨c, hs⟩, ⟨i, hi⟩⟩ => ⟨⟨e, c, i⟩, hr, he, hs, hi⟩

section Other

variable {tree' : FileTree} {home' root' : Path} {below' above' : Layers}

-- Neither file says anything else of a key than in the other case.
structure Agree (below above below' above' : Layers) (key : String) : Prop where
  below : below'.lookup key = below.lookup key
  above : above'.lookup key = above.lookup key

theorem Agree.choose_eq (h : Agree below above below' above' key) (read : Datum → Option α) :
    chosen.choose above' below' key read = chosen.choose above below key read := by
  funext fallback
  simp only [chosen.choose, h.below, h.above]

variable (h : Given tree home root below above) (h' : Given tree' home' root' below' above')
include h h'

theorem load_congr (hr : root'.text?.isSome = root.text?.isSome)
    (ha : ∀ key ∈ shape.fields, Agree below above below' above' key) :
    load tree' home' root' = load tree home root := by
  have ⟨layers, hl, hk⟩ := load_eq h
  have ⟨layers', hl', hk'⟩ := load_eq h'
  have hs key (hm : key ∈ shape.fields) : layers'.lookup key = layers.lookup key := by
    rw [hk key hm, hk' key hm, (ha key hm).below, (ha key hm).above]
  rw [hl, hl', hr, ofLayers_congr hs]

theorem load_apart (hs : load tree home root = .ok s) (hs' : load tree' home' root' = .ok s') :
    (Agree below above below' above' "enable_code_lens" →
      s'.enableCodeLens = s.enableCodeLens) ∧
    (Agree below above below' above' "show_docs_command" →
      s'.showDocsCommand = s.showDocsCommand) ∧
    (Agree below above below' above' "inner_functions_require_public" →
      s'.innerFunctionsRequirePublic = s.innerFunctionsRequirePublic) := by
  obtain ⟨-, he, hc, hi⟩ := (load_eq_ok_iff h).mp hs
  obtain ⟨-, he', hc', hi'⟩ := (load_eq_ok_iff h').mp hs'
  simp only [chosen] at he hc hi he' hc' hi'
  refine ⟨fun ha => ?_, fun ha => ?_, fun ha => ?_⟩
  case refine_1 => exact Option.some.inj <| by rw [← he, ← he', ha.choose_eq]
  case refine_2 => exact Option.some.inj <| by rw [← hc, ← hc', ha.choose_eq]
  case refine_3 => exact Option.some.inj <| by rw [← hi, ← hi', ha.choose_eq]

end Other

-- What the settings of a workspace are, given what its two files say.
structure Layered (tree : FileTree) (home root : Path) (below above : Layers) : Prop where
  -- Each setting is chosen on its own.
  loaded s : load tree home root = .ok s ↔ root.text?.isSome ∧
    (chosen above below).enableCodeLens = some s.enableCodeLens ∧
    (chosen above below).showDocsCommand = some s.showDocsCommand ∧
    (chosen above below).innerFunctionsRequirePublic = some s.innerFunctionsRequirePublic
  loads : (∃ s, load tree home root = .ok s) ↔ root.text?.isSome ∧
    (chosen above below).enableCodeLens.isSome ∧
    (chosen above below).showDocsCommand.isSome ∧
    (chosen above below).innerFunctionsRequirePublic.isSome
  -- What else the files say does not count, not even where the load fails.
  unread tree' home' root' below' above' : Given tree' home' root' below' above' →
    root'.text?.isSome = root.text?.isSome →
    (∀ key ∈ shape.fields, Agree below above below' above' key) →
    load tree' home' root' = load tree home root
  apart tree' home' root' below' above' s s' : Given tree' home' root' below' above' →
    load tree home root = .ok s → load tree' home' root' = .ok s' →
    (Agree below above below' above' "enable_code_lens" →
      s'.enableCodeLens = s.enableCodeLens) ∧
    (Agree below above below' above' "show_docs_command" →
      s'.showDocsCommand = s.showDocsCommand) ∧
    (Agree below above below' above' "inner_functions_require_public" →
      s'.innerFunctionsRequirePublic = s.innerFunctionsRequirePublic)

theorem load_layered (h : Given tree home root below above) :
    Layered tree home root below above where
  loaded _ := load_eq_ok_iff h
  loads := exists_load_iff h
  unread _ _ _ _ _ h' := load_congr h h'
  apart _ _ _ _ _ _ _ h' := load_apart h h'

-- What a file says by itself, as far as it can be read.
def said (tree : FileTree) (base : Path) : Layers := (layer tree [] base).toOption.getD []

theorem layer_eq_ok_said (h : (layer tree [] base).toOption.isSome) :
    layer tree [] base = .ok (said tree base) := by
  rw [said]
  cases hl : layer tree [] base <;> rw [hl] at h
  case error => cases h
  case ok    => rfl

-- The home directory has a switch that is neither on nor off, but the workspace has a better one.
def mended : FileTree :=
  ((FileTree.bare []).record (.ofString "/h/.config/doclens/settings.ini")
    "enable_code_lens=maybe\nshow_docs_command=docs.open").record
      (.ofString "/w/.doclens.ini") "ENABLE_CODE_LENS=off"

theorem load_layered_mended : ∃ below above,
    Given mended (.ofString "/h") (.ofString "/w") below above ∧
    (chosen [] below).enableCodeLens = none ∧
    load mended (.ofString "/h") (.ofString "/w") =
      .ok { enableCodeLens := false, showDocsCommand := "docs.open" } := by
  let below := said mended (homeFile (.ofString "/h"))
  let above := said mended (workspaceFile (.ofString "/w"))
  have ⟨⟨hb, hpb⟩, ⟨ha, hpa⟩, hn, he, hc, hi⟩ :
      ((layer mended [] (homeFile (.ofString "/h"))).toOption.isSome ∧ below.IsPlain) ∧
      ((layer mended [] (workspaceFile (.ofString "/w"))).toOption.isSome ∧ above.IsPlain) ∧
      (chosen [] below).enableCodeLens = none ∧
      (chosen above below).enableCodeLens = some false ∧
      (chosen above below).showDocsCommand = some "docs.open" ∧
      (chosen above below).innerFunctionsRequirePublic = some false := by decide +kernel
  have given : Given mended (.ofString "/h") (.ofString "/w") below above :=
    ⟨layer_eq_ok_said hb, layer_eq_ok_said ha, hpb, hpa⟩
  exact ⟨below, above, given, hn, ((load_layered given).loaded _).mpr ⟨rfl, he, hc, hi⟩⟩

-- A directory whose name is no text.
def wordless : Path := .ofBytes [0x2f, 0xff]

-- There nothing is loaded, though no file says anything that cannot be read.
theorem not_load_wordless : Given (.bare []) (.ofString "/h") wordless [] [] ∧
    ¬((∃ s, load (.bare []) (.ofString "/h") wordless = .ok s) ↔
      (chosen [] []).enableCodeLens.isSome ∧ (chosen [] []).showDocsCommand.isSome ∧
      (chosen [] []).innerFunctionsRequirePublic.isSome) := by
  have given : Given (.bare []) (.ofString "/h") wordless [] [] := ⟨rfl, rfl, by decide, by decide⟩
  refine ⟨given, fun h => ?_⟩
  have ⟨s, hs⟩ := h.mpr ⟨rfl, rfl, rfl⟩
  have ht := ((load_eq_ok_iff given).mp hs).1
  cases ht

end Settings
end ApiLens
