import ApiLens.Proofs.Overview.SourceRoot

/-!
The projects of a workspace: its folders and what the active document adds to them.
-/

namespace ApiLens.RootsQuery

-- A source root of the active document that is none of the folders.
structure Adds (q : RootsQuery) (isFile : Path → Bool) (r : Path) : Prop where
  root : ∃ document ∈ q.activeDocument, sourceRoot? isFile q.home document = some r
  new  : ∀ folder ∈ q.workspaceFolders, holdsManifest isFile folder → ¬folder.Same r

structure Surveyed (q : RootsQuery) (isFile : Path → Bool) : Prop where
  nonempty : q.elements isFile ≠ []
  message : q.elements isFile = [.info noProject] ↔
    (∀ folder ∈ q.workspaceFolders, ¬holdsManifest isFile folder) ∧
      ∀ document ∈ q.activeDocument, sourceRoot? isFile q.home document = none
  projects : q.elements isFile ≠ [.info noProject] → ∃ added : Option Path,
    q.elements isFile =
      (q.workspaceFolders.filter (holdsManifest isFile) ++ added.toList).map .projectRoot ∧
    ∀ r, added = some r ↔ q.Adds isFile r
  manifest : ∀ e ∈ q.elements isFile, ∀ p ∈ e.entry.path, holdsManifest isFile p
  -- However often a folder is given, and however it is written.
  repeated : ∀ p : Path, (q.elements isFile).countP (·.entry.path.any (·.Same p)) ≤
    max 1 (q.workspaceFolders.countP (·.Same p))
  home : ∀ e ∈ q.elements isFile, ∀ p ∈ e.entry.path, ∀ h ∈ q.home, p.Same h →
    p ∈ q.workspaceFolders
  active : ∀ document ∈ q.activeDocument, ∀ r, sourceRoot? isFile q.home document = some r →
    ∃ e ∈ q.elements isFile, ∃ p ∈ e.entry.path, p.Same r

variable {q : RootsQuery} {isFile : Path → Bool} {e : Element} {p r : Path}

theorem adds_iff : q.Adds isFile r ↔
    q.activeDocument.bind (sourceRoot? isFile q.home) = some r ∧
      ¬(q.workspaceFolders.filter (holdsManifest isFile)).any (·.Same r) := by
  constructor
  case mp  => exact fun ⟨h, hn⟩ => ⟨Option.bind_eq_some_iff.mpr h, by simpa using hn⟩
  case mpr => exact fun ⟨h, hn⟩ => ⟨Option.bind_eq_some_iff.mp h, by simpa using hn⟩

theorem exists_added (q : RootsQuery) (isFile : Path → Bool) : ∃ added : Option Path,
    q.paths isFile = q.workspaceFolders.filter (holdsManifest isFile) ++ added.toList ∧
    ∀ r, added = some r ↔ q.Adds isFile r := by
  simp only [adds_iff, paths]
  split
  case h_1 root h =>
    split
    case isTrue hs =>
      refine ⟨none, (List.append_nil _).symm, fun r => ⟨nofun, ?_⟩⟩
      rintro ⟨hr, hn⟩
      obtain rfl := Option.some.inj <| h.symm.trans hr
      exact absurd hs hn
    case isFalse hs =>
      refine ⟨some root, rfl, fun r => ⟨?_, fun ⟨hr, _⟩ => h.symm.trans hr⟩⟩
      rintro ⟨rfl⟩
      exact ⟨h, hs⟩
  case h_2 h => exact ⟨none, (List.append_nil _).symm, fun r => ⟨nofun, by simp [h]⟩⟩

theorem mem_paths_iff : p ∈ q.paths isFile ↔
    (p ∈ q.workspaceFolders ∧ holdsManifest isFile p) ∨ q.Adds isFile p := by
  have ⟨added, hp, ha⟩ := q.exists_added isFile
  simp [hp, ← ha]

theorem Adds.eligible (h : q.Adds isFile r) : Eligible isFile q.home r := by
  have ⟨_, _, hr⟩ := h.root
  exact (sourceRoot?_eq_some_iff.mp hr).2.1

-- The source root is listed as it is or as the folder that it is.
theorem exists_path_same (hd : document ∈ q.activeDocument)
    (hr : sourceRoot? isFile q.home document = some r) : ∃ p ∈ q.paths isFile, p.Same r := by
  by_cases hn : ∀ folder ∈ q.workspaceFolders, holdsManifest isFile folder → ¬folder.Same r
  case pos => exact ⟨r, mem_paths_iff.mpr <| .inr ⟨⟨document, hd, hr⟩, hn⟩, rfl⟩
  case neg =>
    push Not at hn
    have ⟨folder, hf, hm, hs⟩ := hn
    exact ⟨folder, mem_paths_iff.mpr <| .inl ⟨hf, hm⟩, hs⟩

theorem paths_eq_nil_iff : q.paths isFile = [] ↔
    (∀ folder ∈ q.workspaceFolders, ¬holdsManifest isFile folder) ∧
      ∀ document ∈ q.activeDocument, sourceRoot? isFile q.home document = none := by
  rw [List.eq_nil_iff_forall_not_mem]
  constructor
  case mp =>
    refine fun h => ⟨fun folder hf hm => h folder <| mem_paths_iff.mpr <| .inl ⟨hf, hm⟩, ?_⟩
    intro document hd
    refine Option.eq_none_iff_forall_ne_some.mpr fun r hr => ?_
    have ⟨p, hp, _⟩ := exists_path_same hd hr
    exact h p hp
  case mpr =>
    intro ⟨hf, hd⟩ p hp
    obtain ⟨hm, hp⟩ | hp := mem_paths_iff.mp hp
    case inl => exact hf p hm hp
    case inr =>
      have ⟨document, ha, hr⟩ := hp.root
      simp [hd document ha] at hr

-- What is added is no folder, so it stands alone.
theorem countP_paths_le (q : RootsQuery) (isFile : Path → Bool) (p : Path) :
    (q.paths isFile).countP (·.Same p) ≤ max 1 (q.workspaceFolders.countP (·.Same p)) := by
  have ⟨added, hp, ha⟩ := q.exists_added isFile
  have hf : (q.workspaceFolders.filter (holdsManifest isFile)).countP (·.Same p) ≤
      max 1 (q.workspaceFolders.countP (·.Same p)) :=
    List.filter_sublist.countP_le.trans <| le_max_right ..
  rw [hp, List.countP_append]
  cases added
  case none => exact hf
  case some r =>
    have hn := (ha r |>.mp rfl).new
    by_cases hr : r.Same p
    case neg => simpa [hr] using hf
    case pos =>
      have h0 : (q.workspaceFolders.filter (holdsManifest isFile)).countP (·.Same p) = 0 := by
        refine List.countP_eq_zero.mpr fun folder hm hs => ?_
        obtain ⟨hm, hh⟩ := List.mem_filter.mp hm
        exact hn folder hm hh <| (of_decide_eq_true hs).trans hr.symm
      rw [h0, Nat.zero_add]
      exact List.countP_le_length.trans <| le_max_left 1 _

-- A message stands where there is nothing else.
theorem elements_cases (q : RootsQuery) (isFile : Path → Bool) :
    (q.paths isFile = [] ∧ q.elements isFile = [.info noProject]) ∨
      (q.paths isFile ≠ [] ∧ q.elements isFile = (q.paths isFile).map .projectRoot) := by
  unfold elements
  split
  case h_1 h => exact .inl ⟨h, rfl⟩
  case h_2 h => exact .inr ⟨h, rfl⟩

theorem exists_element_iff :
    (∃ e ∈ q.elements isFile, p ∈ e.entry.path) ↔ p ∈ q.paths isFile := by
  obtain ⟨hp, he⟩ | ⟨-, he⟩ := q.elements_cases isFile
  case inl => simp [hp, he, Element.info, Element.entry]
  case inr => simp [he, Element.projectRoot, Element.entry]

theorem countP_elements (test : Path → Bool) :
    (q.elements isFile).countP (·.entry.path.any test) = (q.paths isFile).countP test := by
  obtain ⟨hp, he⟩ | ⟨-, he⟩ := q.elements_cases isFile
  case inl => simp [hp, he, Element.info, Element.entry]
  case inr => rw [he, List.countP_map]; rfl

theorem elements_surveyed (q : RootsQuery) (isFile : Path → Bool) : q.Surveyed isFile where
  nonempty := by
    obtain ⟨-, he⟩ | ⟨hp, he⟩ := q.elements_cases isFile
    case inl => simp [he]
    case inr => simpa [he] using hp
  message := by
    rw [← paths_eq_nil_iff]
    obtain ⟨hp, he⟩ | ⟨hp, he⟩ := q.elements_cases isFile
    case inl => simp [hp, he]
    case inr => simp [hp, he, List.map_eq_singleton_iff, Element.projectRoot, Element.info]
  projects h := by
    obtain ⟨-, he⟩ | ⟨-, he⟩ := q.elements_cases isFile
    case inl => exact absurd he h
    case inr =>
      have ⟨added, hp, ha⟩ := q.exists_added isFile
      exact ⟨added, hp ▸ he, ha⟩
  manifest e he p hp := by
    obtain ⟨-, hm⟩ | ha := mem_paths_iff.mp <| exists_element_iff.mp ⟨e, he, hp⟩
    case inl => exact hm
    case inr => exact ha.eligible.manifest
  repeated p := countP_elements (·.Same p) ▸ q.countP_paths_le isFile p
  home e he p hp h hh hs := by
    obtain ⟨hm, -⟩ | ha := mem_paths_iff.mp <| exists_element_iff.mp ⟨e, he, hp⟩
    case inl => exact hm
    case inr => exact absurd hs <| ha.eligible.notHome h hh
  active document hd r hr := by
    have ⟨p, hp, hs⟩ := exists_path_same hd hr
    have ⟨e, he, hp⟩ := exists_element_iff.mpr hp
    exact ⟨e, he, p, hp, hs⟩

-- The home directory is a folder, given twice, and what holds the document lies above it.
def homeQuery : RootsQuery where
  workspaceFolders := [.ofString "/w/home/", .ofString "/w/shop", .ofString "/w/./home"]
  activeDocument := some <| .ofString "/w/home/a.bal"
  home := some <| .ofString "/w/home"

theorem elements_surveyed_homeQuery : homeQuery.elements homeFiles =
    [.projectRoot (.ofString "/w/home/"), .projectRoot (.ofString "/w/./home"),
      .projectRoot (.ofString "/w")] := by
  have surveyed := homeQuery.elements_surveyed homeFiles
  have hn : homeQuery.elements homeFiles ≠ [.info noProject] := fun h => by
    have hf := (surveyed.message.mp h).1 (.ofString "/w/home/") (by decide)
    exact hf <| by decide
  have ⟨added, he, ha⟩ := surveyed.projects hn
  have hr : homeQuery.Adds homeFiles (.ofString "/w") := ⟨⟨_, rfl, by decide⟩, by decide⟩
  rw [he, (ha _).mpr hr]
  rfl

end ApiLens.RootsQuery
