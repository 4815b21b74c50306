import ApiLens.Overview.Query
import ApiLens.Overview.Roots
import ApiLens.Proofs.Declaration.Wire
import ApiLens.Proofs.Path.Written

/-!
Elements and queries come back as they were written, as far as their paths can be written.
-/

namespace ApiLens

theorem Decoder.path_shown {p : Path} (h : p.Written) : path (.str p.shown) = .ok p := by
  rw [path, h.ofString_shown]

theorem Decoder.option_path {part : Option Path} (h : ∀ p ∈ part, p.Written) :
    option path (.ofOption (.str ·.shown) part) = .ok part :=
  option_ofOption (fun p hp => path_shown (h p hp)) (by simp)

section Package

theorem Place.decode_toJson (p : Place) : decode p.toJson = .ok p := by
  rw [decode, toJson, RecordShape.read_obj]
  simp only [List.foldlM_cons, List.foldlM_nil, step, Decoder.word_ofWord]
  rfl

theorem Callable.decode_toJson (c : Callable) : decode c.toJson = .ok c := by
  rw [decode, toJson, RecordShape.read_obj]
  simp only [List.foldlM_cons, List.foldlM_nil, step, Place.decode_toJson]
  rfl

theorem Service.decode_toJson (s : Service) : decode s.toJson = .ok s := by
  have hr : Decoder.list Callable.decode (.arr (s.resources.map Callable.toJson)) =
      .ok s.resources := Decoder.list_map fun c _ => c.decode_toJson
  rw [decode, toJson, RecordShape.read_obj]
  simp only [List.foldlM_cons, List.foldlM_nil, step, Place.decode_toJson, hr]
  rfl

theorem Module.decode_toJson (m : Module) : decode m.toJson = .ok m := by
  have hf : Decoder.list Callable.decode (.arr (m.functions.map Callable.toJson)) =
      .ok m.functions := Decoder.list_map fun c _ => c.decode_toJson
  have hs : Decoder.list Service.decode (.arr (m.services.map Service.toJson)) =
      .ok m.services := Decoder.list_map fun s _ => s.decode_toJson
  rw [decode, toJson, RecordShape.read_obj]
  simp only [List.foldlM_cons, List.foldlM_nil, step, Decoder.option_text, hf, hs]
  rfl

theorem Package.decode_toJson (p : Package) : decode p.toJson = .ok p := by
  have hm : Decoder.list Module.decode (.arr (p.modules.map Module.toJson)) = .ok p.modules :=
    Decoder.list_map fun m _ => m.decode_toJson
  rw [decode, toJson, RecordShape.read_obj]
  simp only [List.foldlM_cons, List.foldlM_nil, step, hm]
  rfl

end Package

section Query

theorem OverviewQuery.decode_toJson {q : OverviewQuery} (h : q.sourceRoot.Written) :
    decode q.toJson = .ok q := by
  have hp : Decoder.list Package.decode (.arr (q.packages.map Package.toJson)) =
      .ok q.packages := Decoder.list_map fun p _ => p.decode_toJson
  rw [decode, toJson, RecordShape.read_obj]
  simp only [List.foldlM_cons, List.foldlM_nil, step, Decoder.path_shown h, hp]
  rfl

-- All paths of a query can be written.
@[mk_iff]
structure RootsQuery.Written (q : RootsQuery) : Prop where
  workspaceFolders : ∀ p ∈ q.workspaceFolders, p.Written
  activeDocument : ∀ p ∈ q.activeDocument, p.Written
  home : ∀ p ∈ q.home, p.Written

theorem RootsQuery.decode_toJson {q : RootsQuery} (h : q.Written) : decode q.toJson = .ok q := by
  have hw : Decoder.list .path (.arr (q.workspaceFolders.map (.str ·.shown))) =
      .ok q.workspaceFolders :=
    Decoder.list_map fun p hp => Decoder.path_shown <| h.workspaceFolders p hp
  rw [decode, toJson, RecordShape.read_obj]
  simp only [List.foldlM_cons, List.foldlM_nil, step, hw, Decoder.option_path h.activeDocument,
    Decoder.option_path h.home]
  rfl

end Query

-- All paths of an entry can be written.
@[mk_iff]
structure Entry.Written (x : Entry) : Prop where
  path : ∀ p ∈ x.path, p.Written
  sourceRoot : ∀ p ∈ x.sourceRoot, p.Written
  filePath : ∀ p ∈ x.filePath, p.Written

theorem Entry.mem_optionalField {part : Option α} {g : α → Json} :
    f ∈ optionalField key g part ↔ ∃ a ∈ part, f = (key, g a) := by
  simp only [optionalField, Option.mem_toList, Option.mem_def, Option.map_eq_some_iff]
  exact exists_congr fun _ => and_congr_right fun _ => eq_comm

-- What is absent is not written.
theorem Entry.ne_null_of_mem_fields {x : Entry} (h : f ∈ x.fields) :
    f.2 ≠ .null ∧ f.2 ≠ .arr [] := by
  simp only [fields, List.mem_append, List.mem_cons, List.not_mem_nil, or_false,
    mem_optionalField] at h
  rcases h with ((((((((rfl | rfl) | ⟨_, _, rfl⟩) | ⟨_, _, rfl⟩) | ⟨_, _, rfl⟩) | ⟨_, _, rfl⟩) |
    ⟨_, _, rfl⟩) | ⟨_, _, rfl⟩) | ⟨_, _, rfl⟩)
  all_goals simp [Json.ofWord, Json.ofNat]

theorem ElementKind.decode_text (k : ElementKind) : decode (.str k.text) = .ok k := by
  cases k <;> rfl

namespace Element

@[induction_eliminator]
theorem induct {motive : Element → Prop}
    (mk : ∀ x es, (∀ e ∈ es, motive e) → motive (.mk x es)) : ∀ e, motive e
  | .mk x es => mk x es fun e _ => induct mk e

theorem preorderAll_eq_flatMap : preorderAll es = es.flatMap preorder := by
  induction es <;> simp_all [preorderAll]

theorem toJsonAll_eq_map : toJsonAll es = es.map toJson := by
  induction es <;> simp_all [toJsonAll]

theorem decodeAll_eq_list : decodeAll items = Decoder.list decode (.arr items) := by
  rw [Decoder.list]
  induction items
  case nil => rfl
  case cons v rest ih => rw [decodeAll, ih, List.mapM_cons]

-- All paths of an element and of those below it can be written.
def Written (e : Element) : Prop := ∀ x ∈ e.preorder, x.Written

theorem written_mk_iff : (mk x es).Written ↔ x.Written ∧ ∀ e ∈ es, e.Written := by
  simp only [Written, preorder, preorderAll_eq_flatMap, List.forall_mem_cons, List.mem_flatMap]
  refine and_congr_right fun _ => ⟨fun h e he y hy => h y ⟨e, he, hy⟩, ?_⟩
  rintro h y ⟨e, he, hy⟩
  exact h e he y hy

-- What an editor shows of an element and of those below it.
def presented (e : Element) : List (Bool × Option String × Except WriteError (Option Command)) :=
  e.preorder.map fun x => (x.collapsible, x.tooltip, x.command)

section Fields

variable {part : Option α} {f : α → Json} {p : Parts} {x : Entry}

theorem decodeFields_cons (hk : key ≠ "children") (h : step p key v = .ok q) :
    decodeFields p ((key, v) :: rest) = decodeFields q rest := by
  rw [decodeFields, if_neg hk, h]
  rfl

-- A field that is left out does as much as one that is null.
theorem decodeFields_optionalField (hk : key ≠ "children") (hn : step p key .null = .ok p)
    (h : step p key (.ofOption f part) = .ok q) :
    decodeFields p (Entry.optionalField key f part ++ rest) = decodeFields q rest := by
  cases part
  case some a => exact decodeFields_cons hk h
  case none =>
    cases hn.symm.trans h
    rfl

theorem decodeFields_fields (h : x.Written) : decodeFields {} (x.fields ++ rest) =
    decodeFields ⟨x.name, x.kind, x.path, x.sourceRoot, x.moduleName, x.serviceName, x.filePath,
      x.startLine, x.startColumn, []⟩ rest := by
  have hname p : step p "name" (.str x.name) = .ok { p with name := x.name } := rfl
  have hkind p : step p "kind" (.str x.kind.text) = .ok { p with kind := x.kind } := by
    rw [step, ElementKind.decode_text]; rfl
  have hpath p : step p "path" (.ofOption (.str ·.shown) x.path) =
      .ok { p with path := x.path } := by
    rw [step, Decoder.option_path h.path]; rfl
  have hroot p : step p "sourceRoot" (.ofOption (.str ·.shown) x.sourceRoot) =
      .ok { p with sourceRoot := x.sourceRoot } := by
    rw [step, Decoder.option_path h.sourceRoot]; rfl
  have hmodule p : step p "moduleName" (.ofOption .str x.moduleName) =
      .ok { p with moduleName := x.moduleName } := by
    rw [step, Decoder.option_text]; rfl
  have hservice p : step p "serviceName" (.ofOption .str x.serviceName) =
      .ok { p with serviceName := x.serviceName } := by
    rw [step, Decoder.option_text]; rfl
  have hfile p : step p "filePath" (.ofOption (.str ·.shown) x.filePath) =
      .ok { p with filePath := x.filePath } := by
    rw [step, Decoder.option_path h.filePath]; rfl
  have hline p : step p "startLine" (.ofOption .ofWord x.startLine) =
      .ok { p with startLine := x.startLine } := by
    rw [step, Decoder.option_word]; rfl
  have hcolumn p : step p "startColumn" (.ofOption .ofWord x.startColumn) =
      .ok { p with startColumn := x.startColumn } := by
    rw [step, Decoder.option_word]; rfl
  simp only [Entry.fields, List.append_assoc, List.cons_append, List.nil_append]
  rw [decodeFields_cons (by simp) (hname _), decodeFields_cons (by simp) (hkind _),
    decodeFields_optionalField (by simp) rfl (hpath _),
    decodeFields_optionalField (by simp) rfl (hroot _),
    decodeFields_optionalField (by simp) rfl (hmodule _),
    decodeFields_optionalField (by simp) rfl (hservice _),
    decodeFields_optionalField (by simp) rfl (hfile _),
    decodeFields_optionalField (by simp) rfl (hline _),
    decodeFields_optionalField (by simp) rfl (hcolumn _)]

end Fields

theorem decode_toJson {e : Element} (h : e.Written) : decode e.toJson = .ok e := by
  induction e
  case mk x es ih =>
    have ⟨hx, hes⟩ := written_mk_iff.mp h
    have hc : decodeChildren (.arr (toJsonAll es)) = .ok es := by
      rw [decodeChildren, decodeAll_eq_list, toJsonAll_eq_map]
      exact Decoder.list_map fun e he => ih e he (hes e he)
    rw [toJson, decode, decodeFields_fields hx]
    cases es
    case nil => rfl
    case cons =>
      rw [List.isEmpty_cons, if_neg Bool.false_ne_true, decodeFields, if_pos rfl, hc]
      rfl

-- Neither absent parts nor an empty list of children are written.
theorem ne_null_of_mem_toJson {e : Element} (h : e.toJson = .obj fields) (hf : f ∈ fields) :
    f.2 ≠ .null ∧ f.2 ≠ .arr [] := by
  obtain ⟨x, es⟩ := e
  cases h
  obtain hf | hf := List.mem_append.mp hf
  case inl => exact Entry.ne_null_of_mem_fields hf
  case inr =>
    cases es
    case nil  => cases hf
    case cons => cases List.mem_singleton.mp hf; simp [toJsonAll]

end Element

-- All that is exchanged comes back as it was written. An element is written without what is absent,
-- and yet it shows the same.
theorem exchanged_values_restored :
    (∀ e : Element, e.Written → Element.decode e.toJson = .ok e ∧
      (Element.decode e.toJson).map Element.presented = .ok e.presented ∧
      ∀ fields, e.toJson = .obj fields → ∀ f ∈ fields, f.2 ≠ .null ∧ f.2 ≠ .arr []) ∧
    (∀ q : OverviewQuery, q.sourceRoot.Written → OverviewQuery.decode q.toJson = .ok q) ∧
    (∀ q : RootsQuery, q.Written → RootsQuery.decode q.toJson = .ok q) ∧
    ∀ ds : List Declaration,
      Decoder.list Declaration.decode (.arr (ds.map Declaration.toJson)) = .ok ds := by
  refine ⟨fun e h => ⟨e.decode_toJson h, ?shown, ?sparse⟩, ?overview, ?roots, ?declarations⟩
  case shown        => rw [e.decode_toJson h]; rfl
  case sparse       => exact fun _ hf _ => Element.ne_null_of_mem_toJson hf
  case overview     => exact fun q => q.decode_toJson
  case roots        => exact fun q => q.decode_toJson
  case declarations => exact fun ds => Decoder.list_map fun d _ => d.decode_toJson

-- A service with a resource, with some of the parts that an element may have.
def service : Element :=
  .mk { name := "api", kind := .service, sourceRoot := some (.ofString "/work/shop"),
        filePath := some (.ofString "/work/shop/api.bal"), startLine := some 4 }
    [.mk { name := "get", kind := .resource, serviceName := some "api" } []]

def serviceRoots : RootsQuery where
  workspaceFolders := [.ofString "/work/shop", .ofString "notes/"]
  home := some (.ofString "/work")

theorem exchanged_values_restored_service :
    service.Written ∧ Element.decode service.toJson = .ok service ∧
    service.presented.map (·.1) = [true, false] ∧
    (Element.decode service.toJson).map Element.presented = .ok service.presented ∧
    OverviewQuery.decode (OverviewQuery.toJson ⟨.ofString "/work/shop", [{}]⟩) =
      .ok ⟨.ofString "/work/shop", [{}]⟩ ∧
    serviceRoots.Written ∧ RootsQuery.decode serviceRoots.toJson = .ok serviceRoots := by
  have hs : service.Written := by simp [service, Element.written_mk_iff, Entry.written_iff]
  have hr : serviceRoots.Written := by simp [serviceRoots, RootsQuery.written_iff]
  have ⟨elements, overviews, roots, _⟩ := exchanged_values_restored
  have ⟨hd, hp, _⟩ := elements service hs
  exact ⟨hs, hd, rfl, hp, overviews _ ⟨_, rfl⟩, hr, roots _ hr⟩

end ApiLens
