import ApiLens.Proofs.Overview.Place

/-!
What the elements of a project's tree carry: the root of the project, their module and service, and
the file that a click leads to.
-/

namespace ApiLens

namespace Path

variable {p q : Path} {text : String}

-- What is joined to a path goes on from it, unless it starts at the root itself.
theorem prefix_components_join (ha : ¬(ofString text).isAbsolute) :
    p.components <+: (p.join (ofString text)).components := by
  by_cases hp : p.components = []
  case pos => rw [hp]; exact List.nil_prefix
  case neg =>
    rw [components_join hp ha]
    exact List.prefix_append ..

end Path

-- An element that leads somewhere tells its file, if the path of that is text.
theorem Entry.command_of_filePath {x : Entry} (hn : x.navigates) (hf : x.filePath = some file) :
    x.command = match file.text? with
      | none      => .error .pathNotText
      | some text => .ok <| some {
          title := "Execute Tree Command"
          command := "ballerina.executeTreeElement"
          arguments := some [
            .ofOption .str (x.sourceRoot.bind Uri.ofPath?), .str text, .ofOption .str x.moduleName,
            .ofOption .str (if x.kind = .resource then x.serviceName else none), .str x.name,
            .ofOption .ofWord x.startLine, .ofOption .ofWord x.startColumn] } := by
  simp only [command, hn, hf, Path.toJson, if_true]
  cases file.text? <;> rfl

namespace Element

variable {e t : Element} {es : List Element}

-- What holds on top of a forest and passes from parents to children holds in all of it.
theorem In.invariant {P : Element → Prop} (h : e.In es) (top : ∀ t ∈ es, P t)
    (below : ∀ t, P t → ∀ c ∈ t.children, P c) : P e := by
  induction h
  case here h         => exact top _ h
  case inside h _ ih => exact ih <| below _ (top _ h)

theorem In.mem_or_child (h : e.In es) : e ∈ es ∨ ∃ t : Element, t.In es ∧ e ∈ t.children := by
  induction h
  case here h => exact .inl h
  case inside ht _ ih =>
    obtain h | ⟨t', ht', h⟩ := ih
    · exact .inr ⟨_, .here ht, h⟩
    · exact .inr ⟨t', .inside ht ht', h⟩

theorem In.exists_top (h : e.In es) : ∃ t ∈ es, e.In [t] := by
  cases h
  case here h       => exact ⟨e, h, in_singleton_iff.mpr <| .inl rfl⟩
  case inside hi ht => exact ⟨_, ht, in_singleton_iff.mpr <| .inr hi⟩

-- What may stand below an element of each kind.
def Nested (e : Element) : Prop :=
  match e.entry.kind with
  | .module              => ∀ c ∈ e.children, c.entry.kind = .function ∨ c.entry.kind = .service
  | .service             => ∀ c ∈ e.children, c.entry.kind = .resource
  | .function | .resource => e.children = []
  | .projectRoot | .info => False

theorem Nested.kind_eq_service (h : t.Nested) (he : e ∈ t.children)
    (hk : e.entry.kind = .resource) : t.entry.kind = .service := by
  unfold Nested at h
  split at h
  case h_1 => simpa [hk] using h e he
  case h_2 hs => exact hs
  case h_3 | h_4 => simp [h] at he
  all_goals cases h

-- Only a module leads nowhere. The other elements all know their file and their place in it, and
-- tell them, unless the path of the file is no text.
def Leads (e : Element) (root : Path) : Prop :=
  match e.entry.command with
  | .ok none           => e.entry.kind = .module
  | .ok (some command) => e.entry.kind ≠ .module ∧ ∃ file text line column,
      e.entry.filePath = some file ∧ file.text? = some text ∧ e.entry.startLine = some line ∧
      e.entry.startColumn = some column ∧
      command.arguments = some [.ofOption .str (Uri.ofPath? root), .str text,
        .ofOption .str e.entry.moduleName, .ofOption .str e.entry.serviceName, .str e.entry.name,
        .ofWord line, .ofWord column]
  | .error _           => e.entry.kind ≠ .module ∧ ∃ file,
      e.entry.filePath = some file ∧ file.text? = none

end Element

-- The element `e` shows an item of `m` whose file is declared as `file`. A resource stands in the
-- file of its service.
inductive Module.Shows (m : Module) : String → Element → Prop
  | function (h : f ∈ m.functions) (ht : e.Tells .function f.name f.place m.name none) :
    m.Shows f.filePath e
  | service (h : s ∈ m.services) (ht : e.Tells .service s.name s.place m.name none) :
    m.Shows s.filePath e
  | resource (hs : s ∈ m.services) (hr : r ∈ s.resources)
    (ht : e.Tells .resource r.name r.place m.name (some s.name)) : m.Shows s.filePath e

-- The module that an element on top of the tree is for, and the directory that its files start
-- from.
inductive Package.Owns (p : Package) (root : Path) (t : Element) : Module → Path → Prop
  | default (hm : LastDefault p.modules (some m)) (ht : t.entry.kind ≠ .module) :
    p.Owns root t m root
  | other (hm : m ∈ p.modules) (hd : ¬m.isDefault) (ht : t.entry.kind = .module)
    (hn : t.entry.name = m.title) :
    p.Owns root t m ((root.join (.ofString "modules")).join (.ofString m.title))

-- What is shown in the tree of `t` are items of `m` with their files. These are below the root of
-- the project, unless a name on the way to them starts at the root of the files itself.
def Module.Houses (m : Module) (root fileRoot : Path) (t : Element) : Prop :=
  ∀ e : Element, e.In [t] → e.entry.kind ≠ .module → ∃ declared, m.Shows declared e ∧
    e.entry.filePath = some (fileRoot.join (.ofString declared)) ∧
    ((t.entry.kind = .module → ¬(Path.ofString m.title).isAbsolute) →
      ¬(Path.ofString declared).isAbsolute →
      root.components <+: (fileRoot.join (.ofString declared)).components)

structure Contextual (p : Package) (root : Path) (es : List Element) : Prop where
  rooted (e : Element) : e.In es → e.entry.sourceRoot = some root ∧ e.entry.path = none
  nested (e : Element) : e.In es → e.Nested
  owned (t : Element) : t ∈ es →
    ∃ m fileRoot, p.Owns root t m fileRoot ∧ m.Houses root fileRoot t
  served (e : Element) : e.In es → (e.entry.serviceName.isSome ↔ e.entry.kind = .resource)
  enclosed (r : Element) : r.In es → r.entry.kind = .resource →
    ∃ s : Element, s.In es ∧ s.entry.kind = .service ∧ r ∈ s.children
  inherited (s r : Element) : s.In es → s.entry.kind = .service → r ∈ s.children →
    r.entry.serviceName = some s.entry.name ∧ r.entry.filePath = s.entry.filePath
  leads (e : Element) : e.In es → e.Leads root
  -- Under a root that is text there is nothing that cannot be told.
  told (e : Element) : e.In es → root.text?.isSome → ∃ command, e.entry.command = .ok command

namespace Module

variable {m : Module} {c : ModuleContext} {e : Element} {file : String} {root : Path}

theorem Declares.shows (h : m.Declares c file e) (hn : c.moduleName = m.name) : m.Shows file e := by
  cases h
  case function h     => exact .function h ⟨rfl, rfl, rfl, rfl, hn, rfl⟩
  case service h      => exact .service h ⟨rfl, rfl, rfl, rfl, hn, rfl⟩
  case resource hs hr => exact .resource hs hr ⟨rfl, rfl, rfl, rfl, hn, rfl⟩

end Module

-- The elements that there are in a tree: those of modules and those of their items.
inductive Drawn (root : Path) : Element → Prop
  | module {m : Module} : Drawn root (m.element root)
  | item (hr : c.sourceRoot = root) (h : Module.Declares m c file e) : Drawn root e

namespace Drawn

variable {p : Package} {root : Path} {e t r s : Element} {m : Module} {c : ModuleContext}

theorem of_mem_members (h : e ∈ m.members c) (hr : c.sourceRoot = root) : Drawn root e :=
  have ⟨_, hd⟩ := Module.exists_declares <| .here h
  .item hr hd

theorem of_mem_elements (h : e ∈ p.elements root) : Drawn root e := by
  obtain ⟨d, _, h⟩ | ⟨m, _, rfl⟩ := Package.mem_elements_iff.mp h
  case inl => exact of_mem_members h rfl
  case inr => exact .module

theorem child (h : Drawn root t) (hc : e ∈ t.children) : Drawn root e := by
  cases h
  case module => exact of_mem_members hc rfl
  case item hr h =>
    cases h
    case service hs =>
      obtain ⟨r, hm, rfl⟩ := List.mem_map.mp hc
      exact .item hr <| .resource hs <| perm_sortByName.mem_iff.mp hm
    all_goals cases hc

theorem of_in (h : e.In (p.elements root)) : Drawn root e :=
  h.invariant (fun _ => of_mem_elements) fun _ ht _ => ht.child

theorem rooted (h : Drawn root e) : e.entry.sourceRoot = some root ∧ e.entry.path = none := by
  cases h
  case module    => exact ⟨rfl, rfl⟩
  case item hr h => subst hr; cases h <;> exact ⟨rfl, rfl⟩

theorem nested (h : Drawn root e) : e.Nested := by
  cases h
  case module =>
    intro t ht
    obtain ⟨f, _, rfl⟩ | ⟨s, _, rfl⟩ := Module.mem_members_iff.mp ht
    case inl => exact .inl rfl
    case inr => exact .inr rfl
  case item h =>
    cases h
    case service =>
      intro r hr
      obtain ⟨r, _, rfl⟩ := List.mem_map.mp hr
      rfl
    all_goals rfl

theorem served (h : Drawn root e) : e.entry.serviceName.isSome ↔ e.entry.kind = .resource := by
  cases h
  case module => exact iff_of_false nofun nofun
  case item h =>
    cases h
    case resource => exact iff_of_true rfl rfl
    all_goals exact iff_of_false nofun nofun

theorem leads (h : Drawn root e) : e.Leads root := by
  cases h
  case module    => rfl
  case item hr h =>
    subst hr
    have hn : e.entry.navigates := by cases h <;> rfl
    have hf := h.filePath
    rw [Element.Leads, Entry.command_of_filePath hn hf]
    generalize ModuleContext.filePath _ _ = path at hf ⊢
    cases ht : path.text?
    case none => cases h <;> exact ⟨nofun, _, hf, ht⟩
    case some => cases h <;> exact ⟨nofun, _, _, _, _, hf, ht, rfl, rfl, rfl⟩

theorem inherited (h : Drawn root s) (hs : s.entry.kind = .service) (hr : r ∈ s.children) :
    r.entry.serviceName = some s.entry.name ∧ r.entry.filePath = s.entry.filePath := by
  cases h
  case module => cases hs
  case item h =>
    cases h
    case service =>
      obtain ⟨r, _, rfl⟩ := List.mem_map.mp hr
      exact ⟨rfl, rfl⟩
    all_goals cases hs

end Drawn

section Owned

variable {p : Package} {root : Path} {e t : Element}

theorem kind_ne_resource_of_mem_elements (h : t ∈ p.elements root) : t.entry.kind ≠ .resource := by
  obtain ⟨d, _, h⟩ | ⟨m, _, rfl⟩ := Package.mem_elements_iff.mp h
  case inl => obtain ⟨f, _, rfl⟩ | ⟨s, _, rfl⟩ := Module.mem_members_iff.mp h <;> exact nofun
  case inr => exact nofun

theorem exists_owns (h : t ∈ p.elements root) :
    ∃ m fileRoot, p.Owns root t m fileRoot ∧ m.Houses root fileRoot t := by
  obtain ⟨d, hd, h⟩ | ⟨m, hm, rfl⟩ := Package.mem_elements_iff.mp h
  case inl =>
    have hl : LastDefault p.modules (some d) := Option.mem_def.mp hd ▸ p.lastDefault
    refine ⟨d, root, .default hl <| kind_ne_module_of_mem_members h, fun e he _ => ?_⟩
    have he := he.mono <| List.cons_subset.mpr ⟨h, List.nil_subset _⟩
    have ⟨file, hd⟩ := Module.exists_declares he
    exact ⟨file, hd.shows rfl, hd.filePath, fun _ => Path.prefix_components_join⟩
  case inr =>
    have ⟨hm, hn⟩ := List.mem_filter.mp hm
    refine ⟨m, _, .other hm (by simpa using hn) rfl rfl, fun e he hk => ?_⟩
    obtain rfl | he := Element.in_singleton_iff.mp he
    case inl => exact absurd rfl hk
    case inr =>
      have ⟨file, hd⟩ := Module.exists_declares he
      refine ⟨file, hd.shows rfl, hd.filePath, fun ht ha => ?_⟩
      have hs : ¬(Path.ofString "modules").isAbsolute := by decide
      have hm : root.components <+: ((root.join (.ofString "modules")).join _).components :=
        (Path.prefix_components_join hs).trans <| Path.prefix_components_join <| ht rfl
      exact hm.trans <| Path.prefix_components_join ha

theorem written_filePath (hr : root.Written) (h : e.In (p.elements root))
    (hk : e.entry.kind ≠ .module) : ∃ file, e.entry.filePath = some file ∧ file.Written := by
  have ⟨t, ht, he⟩ := h.exists_top
  have ⟨m, fileRoot, ho, hm⟩ := exists_owns ht
  have ⟨declared, _, hf, _⟩ := hm e he hk
  refine ⟨_, hf, .join ?_ Path.written_ofString⟩
  cases ho
  case default => exact hr
  case other   => exact (hr.join Path.written_ofString).join Path.written_ofString

theorem exists_command (hr : root.Written) (h : e.In (p.elements root)) :
    ∃ command, e.entry.command = .ok command := by
  have hl : e.Leads root := (Drawn.of_in h).leads
  cases hc : e.entry.command
  case ok command => exact ⟨command, rfl⟩
  case error =>
    rw [Element.Leads, hc] at hl
    have ⟨hk, file, hf, ht⟩ := hl
    have ⟨file', hf', hw⟩ := written_filePath hr h hk
    cases hf.symm.trans hf'
    simp [Path.written_iff, ht] at hw

end Owned

theorem projectTree_contextual (p : Package) (rest : List Package) (root : Path) :
    Contextual p root (projectTree (p :: rest) root) where
  rooted _ he := (Drawn.of_in he).rooted
  nested _ he := (Drawn.of_in he).nested
  owned _ ht := exists_owns ht
  served _ he := (Drawn.of_in he).served
  enclosed r hr hk := by
    obtain h | ⟨s, hs, h⟩ := hr.mem_or_child
    case inl => exact absurd hk <| kind_ne_resource_of_mem_elements h
    case inr => exact ⟨s, hs, (Drawn.of_in hs).nested.kind_eq_service h hk, h⟩
  inherited _ _ hs := (Drawn.of_in hs).inherited
  leads _ he := (Drawn.of_in he).leads
  told _ he hr := exists_command (Path.written_iff.mpr hr) he

-- A project with one function.
def greet : Callable := ⟨"greet", "main.bal", ⟨0, 0⟩⟩

def hut : Module := ⟨some "hut", true, [greet], []⟩

def hutElement (root : Path) : Element := (hut.defaultContext root).functionElement greet

theorem hutElement_mem (root : Path) : hutElement root ∈ projectTree [⟨"hut", [hut]⟩] root := by
  refine List.mem_append_left _ ?_
  exact Module.mem_members_iff.mpr <| .inl ⟨greet, by decide, rfl⟩

-- A directory whose name is no text.
def nameless : Path := .ofBytes [0x2f, 0xff]

-- There the function has no command, and under a relative root no argument for the root.
theorem not_told_nameless :
    (∃ e ∈ projectTree [⟨"hut", [hut]⟩] nameless, e.entry.kind = .function ∧
      e.entry.command = .error .pathNotText) ∧
    ∃ e ∈ projectTree [⟨"hut", [hut]⟩] (.ofString "hut"), e.entry.kind = .function ∧
      ∃ command arguments, e.entry.command = .ok (some command) ∧
        command.arguments = some (.null :: arguments) := by
  refine ⟨⟨_, hutElement_mem _, rfl, ?_⟩, _, hutElement_mem _, rfl, ?_⟩
  case refine_1 => rw [Entry.command_of_filePath rfl rfl]; rfl
  case refine_2 => exact ⟨_, _, rfl, rfl⟩

end ApiLens
