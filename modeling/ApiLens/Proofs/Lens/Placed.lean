import ApiLens.Proofs.Declaration.Shuffled
import ApiLens.Proofs.Declaration.Traced
import ApiLens.Proofs.Json.Decode
import ApiLens.Proofs.Lens

/-!
The lenses of a value, told by the positions that its objects give.

Where a declaration stands decides about its own lens only.
-/

namespace ApiLens

namespace Json

-- The four numbers of the range, each as a whole literal of 32 bits.
def Fields.Bounds (position : Fields) (r : Range) : Prop :=
  position.get? "startLine" = some (.ofWord r.start.line) ∧
  position.get? "startColumn" = some (.ofWord r.start.character) ∧
  position.get? "endLine" = some (.ofWord r.stop.line) ∧
  position.get? "endColumn" = some (.ofWord r.stop.character)

-- The object gives a position, and this is the range.
def Fields.Spans (fields : Fields) (r : Range) : Prop :=
  ∃ position : Fields, fields.get? "position" = some (.obj position) ∧ position.Bounds r

end Json

open Json (Fields)

section Range

theorem Span.range?_eq_some_iff {s : Span} : s.range? = some r ↔
    s.startLine = some r.start.line ∧ s.startColumn = some r.start.character ∧
      s.endLine = some r.stop.line ∧ s.endColumn = some r.stop.character := by
  obtain ⟨⟨l, c⟩, ⟨l', c'⟩⟩ := r
  obtain ⟨_ | _, _ | _, _ | _, _ | _⟩ := s <;> simp [range?, and_assoc]

theorem Span.range?_ofJson_iff {p : Json} : (Span.ofJson p).range? = some r ↔
    ∃ position : Fields, p = .obj position ∧ position.Bounds r := by
  cases p
  case obj position =>
    simp [range?_eq_some_iff, ofJson, Json.get?, Json.fields?, Option.bind_eq_some_iff,
      Json.word?_eq_some_iff, Fields.Bounds]
  all_goals simp [range?_eq_some_iff, ofJson, Json.get?, Json.fields?]

theorem range?_eq_some_iff_spans {fields : Fields} :
    (((fields.get? "position").map Span.ofJson).getD .unknown).range? = some r ↔
      fields.Spans r := by
  cases h : fields.get? "position"
  case none   => simp [Json.Fields.Spans, h, Span.range?_eq_some_iff, Span.unknown]
  case some p => simp [Json.Fields.Spans, h, Span.range?_ofJson_iff]

end Range

-- The lens shows a preview of the node in the module when it is clicked.
structure CodeLens.Previews (l : CodeLens) (settings : Settings) (moduleName : String)
    (d : Declaration) : Prop where
  data : l.data = none
  command : l.command = some
    { title := "Preview Docs"
      command := settings.showDocsCommand
      arguments := some [.obj [("moduleName", .str moduleName), ("nodeName", .str d.displayName),
        ("nodeType", .str d.category.directory)]] }

-- The declarations that give their positions in full have the lenses, each one its own.
structure Lensed (v : Json) (settings : Settings) (moduleName : String) (sources : List Source)
    (lenses : List CodeLens) : Prop where
  inOrder : lenses = sources.filterMap (·.declaration.lens? settings)
  lens s l : s ∈ sources → (s.declaration.lens? settings = some l ↔
    l.Previews settings moduleName s.declaration ∧
      ∃ fields : Fields, v.at? s.place = some (.obj fields) ∧ fields.Spans l.range)

def Source.unplaced (s : Source) : Source := { s with declaration := s.declaration.unplaced }

-- The same declaration in two values. If its object gives the same position in both, then it keeps
-- its lens or stays without one.
structure Source.Kept (settings : Settings) (v w : Json) (s s' : Source) : Prop where
  mark : s.mark = s'.mark
  place : s.place = s'.place
  displayName : s.declaration.displayName = s'.declaration.displayName
  category : s.declaration.category = s'.declaration.category
  lens : v.positionAt? s.place = w.positionAt? s.place →
    s.declaration.lens? settings = s'.declaration.lens? settings

theorem Declaration.lens?_eq_some_iff {d : Declaration} : d.lens? settings = some l ↔
    l.Previews settings d.moduleName d ∧ d.span.range? = some l.range := by
  obtain ⟨range, command, data⟩ := l
  simp only [lens?, Option.map_eq_some_iff, CodeLens.mk.injEq]
  constructor
  case mp =>
    rintro ⟨r, hr, rfl, rfl, rfl⟩
    exact ⟨⟨rfl, rfl⟩, hr⟩
  case mpr =>
    rintro ⟨⟨rfl, rfl⟩, hr⟩
    exact ⟨range, hr, rfl, rfl, rfl⟩

section Traced

variable {v w : Json} {root root' : Node} {sources sources' : List Source}

theorem Traced.lensed (h : Traced v root moduleName settings.policy sources)
    (he : settings.enableCodeLens) (hm : moduleName? workspace file = some moduleName) :
    Lensed v settings moduleName sources (documentLenses (some root) workspace file settings) where
  inOrder := by
    rw [documentLenses_eq he hm, Option.map_some, Option.getD_some, lenses, ← h.declarations,
      List.filterMap_map]
    rfl
  lens s l hs := by
    obtain ⟨rows, hr, hp⟩ := h.mirrored
    obtain ⟨_, fields, _, _, hf, _⟩ := hr.label _ _ (hp s hs)
    rw [Declaration.lens?_eq_some_iff, (h.recorded s hs).moduleName_eq, h.span_eq hs,
      Json.positionAt?, hf]
    simp only [Option.some.injEq, Json.obj.injEq, exists_eq_left']
    exact and_congr_right fun _ => range?_eq_some_iff_spans

theorem Json.placeOf_eq (h : v.Repositioned w) : v.placeOf = w.placeOf :=
  funext fun p => by rw [placeOf, placeOf, h.rows_eq]

theorem map_unplaced_sources (hu : root.unplaced = root'.unplaced) (h : v.Repositioned w) :
    (v.sources root moduleName policy).map Source.unplaced =
      (w.sources root' moduleName policy).map Source.unplaced := by
  have hr := congrArg (Node.rows moduleName policy false) hu
  rw [Node.rows_unplaced, Node.rows_unplaced] at hr
  have hs := congrArg (List.map fun r => Source.mk r.1 (v.placeOf r.1.address) r.2) hr
  rw [List.map_map, List.map_map] at hs
  rw [Json.sources, Json.sources, List.map_map, List.map_map, ← Json.placeOf_eq h]
  exact hs

theorem forall₂_kept (h : Traced v root moduleName policy sources)
    (h' : Traced w root' moduleName policy sources')
    (hs : sources.map Source.unplaced = sources'.map Source.unplaced) :
    List.Forall₂ (Source.Kept settings v w) sources sources' := by
  rw [← List.forall₂_eq_eq_eq, List.forall₂_map_left_iff, List.forall₂_map_right_iff,
    List.forall₂_iff_zip] at hs
  refine List.forall₂_iff_zip.mpr ⟨hs.1, fun {s s'} hz => ?_⟩
  have ⟨hin, hin'⟩ := List.of_mem_zip hz
  obtain ⟨hmark, hplace, hd⟩ := Source.mk.inj (hs.2 hz)
  have ⟨_, hname, _, hcategory⟩ := Declaration.mk.inj hd
  refine ⟨hmark, hplace, hname, hcategory, fun hp => ?_⟩
  have hspan : s.declaration.span = s'.declaration.span := by
    rw [h.span_eq hin, h'.span_eq hin', ← hplace, hp]
  rw [Declaration.eq_of_unplaced_eq hd hspan]

end Traced

theorem Json.Repositioned.ofJson {v w : Json} (h : v.Repositioned w)
    (hv : Node.ofJson v = .ok root) :
    ∃ root', Node.ofJson w = .ok root' ∧ root.unplaced = root'.unplaced := by
  have ⟨ht, hw⟩ := h.reading
  obtain ⟨e, he, -⟩ | ⟨n, m, hn, hm, hu⟩ := ofJson_rel (congrArg Traits.found ht) hw
  case inl => cases hv.symm.trans he
  case inr =>
    cases hv.symm.trans hn
    exact ⟨m, hm, hu⟩

theorem lenses_told_by_positions (h : Node.ofJson v = .ok root) (he : settings.enableCodeLens)
    (hm : moduleName? workspace file = some moduleName) :
    ∃ sources, Traced v root moduleName settings.policy sources ∧
      Lensed v settings moduleName sources (documentLenses (some root) workspace file settings) ∧
      ∀ w, v.Repositioned w → ∃ root' sources', Node.ofJson w = .ok root' ∧
        Traced w root' moduleName settings.policy sources' ∧
        Lensed w settings moduleName sources'
          (documentLenses (some root') workspace file settings) ∧
        List.Forall₂ (Source.Kept settings v w) sources sources' := by
  have ht : Traced v root moduleName settings.policy (v.sources root moduleName settings.policy) :=
    Json.traced_sources h
  refine ⟨_, ht, ht.lensed he hm, fun w hw => ?_⟩
  have ⟨root', h', hu⟩ := hw.ofJson h
  have ht' : Traced w root' moduleName settings.policy
      (w.sources root' moduleName settings.policy) := Json.traced_sources h'
  exact ⟨root', _, h', ht', ht'.lensed he hm,
    forall₂_kept ht ht' <| map_unplaced_sources hu hw⟩

-- Two functions, where the start of the second is no line at all.
def position (line : Int) (stop : Int) : Json :=
  .obj [("startLine", .num (.int line)), ("startColumn", .num (.int 0)),
    ("endLine", .num (.int stop)), ("endColumn", .num (.int 1))]

def functions (second : Json) : Json :=
  .obj [("kind", .str "ModulePart"), ("members", .arr [
    .obj (("position", position 1 3) :: publicFunction "f"),
    .obj (("position", second) :: publicFunction "g")])]

def homeDirectory : Path := .ofString "/w"

def homeFile : Path := .ofString "/w/a"

def shownRanges (v : Json) : List Range :=
  ((Node.ofJson v).toOption.map fun root =>
    (documentLenses (some root) homeDirectory homeFile {}).map (·.range)).getD []

theorem plain_position : (position line stop).Plain := by
  have hn (i : Int) : (Json.num (.int i)).Plain :=
    Json.plain_iff.mpr ⟨by simp [Json.Tagged], by simp [Json.parts]⟩
  refine Json.plain_iff.mpr ⟨?_, by simp [position, Json.parts, hn]⟩
  rintro ⟨_, _, ⟨⟩, ht⟩
  cases ht

theorem repositioned_functions :
    (functions (position (-5) 7)).Repositioned (functions (position 5 7)) :=
  .field [("kind", .str "ModulePart")] "members" [] <|
    .item [_] [] <| .here <| .position [] _ plain_position plain_position

theorem lenses_told_by_positions_functions : ∃ sources sources',
    List.Forall₂ (Source.Kept {} (functions (position (-5) 7)) (functions (position 5 7)))
      sources sources' ∧
    (sources.filterMap (·.declaration.lens? {})).map (·.range) = [⟨⟨1, 0⟩, ⟨3, 1⟩⟩] ∧
    (sources'.filterMap (·.declaration.lens? {})).map (·.range) =
      [⟨⟨1, 0⟩, ⟨3, 1⟩⟩, ⟨⟨5, 0⟩, ⟨7, 1⟩⟩] := by
  have hb : shownRanges (functions (position (-5) 7)) = [⟨⟨1, 0⟩, ⟨3, 1⟩⟩] := by decide
  have hm : shownRanges (functions (position 5 7)) = [⟨⟨1, 0⟩, ⟨3, 1⟩⟩, ⟨⟨5, 0⟩, ⟨7, 1⟩⟩] := by
    decide
  have ⟨root, hr⟩ : ∃ root, Node.ofJson (functions (position (-5) 7)) = .ok root := ⟨_, rfl⟩
  have he : ({} : Settings).enableCodeLens := rfl
  have hw : moduleName? homeDirectory homeFile = some "w" := by decide
  have ⟨sources, _, hl, h⟩ := lenses_told_by_positions hr he hw
  have ⟨root', sources', hr', _, hl', hk⟩ := h _ repositioned_functions
  simp only [shownRanges, hr, hr', Except.toOption, Option.map_some, Option.getD_some,
    hl.inOrder, hl'.inOrder] at hb hm
  exact ⟨sources, sources', hk, hb, hm⟩

end ApiLens
