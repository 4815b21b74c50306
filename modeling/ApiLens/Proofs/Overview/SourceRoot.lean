import ApiLens.Overview.Roots
import ApiLens.Proofs.Path.Ancestors

/-!
The source root of a path is the nearest directory at or above it that may be one.
-/

namespace ApiLens

-- Whether a directory may be a source root.
structure Eligible (isFile : Path → Bool) (home : Option Path) (d : Path) : Prop where
  notHome  : ∀ h ∈ home, ¬d.Same h
  manifest : holdsManifest isFile d

structure Searched (isFile : Path → Bool) (home : Option Path) (path : Path) : Prop where
  found : ∀ r, sourceRoot? isFile home path = some r ↔ path.LiesIn r ∧ Eligible isFile home r ∧
    ∀ d, path.LiesIn d → Eligible isFile home d → d.components.length ≤ r.components.length
  missing : sourceRoot? isFile home path = none ↔ ∀ d, path.LiesIn d → ¬Eligible isFile home d
  -- The home directory is passed over, and the search goes on above it.
  beyondHome : ∀ h ∈ home, path.Same h →
    sourceRoot? isFile home path = path.parent?.bind (sourceRoot? isFile home)
  again : ∀ r, sourceRoot? isFile home path = some r → sourceRoot? isFile home r = some r
  -- With no source root in between, what lies below has the same one, however the two are written.
  below : ∀ q : Path, (∀ c ∈ q.components, ∃ s, c = .normal s) →
    (∀ a b : Path, a.Same b → isFile a = isFile b) →
    (∀ q', q.LiesIn q' → q'.components ≠ [] → ¬Eligible isFile home (path.join q')) →
    (sourceRoot? isFile home (path.join q)).map Path.components =
      (sourceRoot? isFile home path).map Path.components

variable {isFile : Path → Bool} {home : Option Path} {path p q d r : Path}

theorem eligible_iff :
    !home.any (d.Same ·) && holdsManifest isFile d ↔ Eligible isFile home d := by
  constructor
  case mp  => exact fun h => ⟨by cases home <;> simp_all, by simp_all⟩
  case mpr => intro ⟨hh, hm⟩; cases home <;> simp_all

theorem sourceRoot?_of_eligible (h : Eligible isFile home p) :
    sourceRoot? isFile home p = some p :=
  List.find?_cons_of_pos <| eligible_iff.mpr h

theorem sourceRoot?_of_not_eligible (h : ¬Eligible isFile home p) :
    sourceRoot? isFile home p = p.parent?.bind (sourceRoot? isFile home) := by
  have hf := mt eligible_iff.mp h
  rw [sourceRoot?, Path.ancestors_eq, List.find?_cons, Bool.of_not_eq_true hf]
  cases p.parent? <;> rfl

theorem liesIn_iff_of_not_eligible (hp : ¬Eligible isFile home p) (hd : Eligible isFile home d) :
    p.LiesIn d ↔ ∃ q, p.parent? = some q ∧ q.LiesIn d := by
  rw [Path.liesIn_iff, or_iff_right]
  rintro rfl
  exact hp hd

theorem sourceRoot?_eq_none_iff :
    sourceRoot? isFile home path = none ↔ ∀ d, path.LiesIn d → ¬Eligible isFile home d := by
  simp only [sourceRoot?, List.find?_eq_none, Path.mem_ancestors_iff, ← eligible_iff]

theorem sourceRoot?_eq_some_iff : sourceRoot? isFile home path = some r ↔
    path.LiesIn r ∧ Eligible isFile home r ∧
      ∀ d, path.LiesIn d → Eligible isFile home d → d.components.length ≤ r.components.length := by
  induction path using Path.induct
  case step p ih =>
    by_cases he : Eligible isFile home p
    case pos =>
      rw [sourceRoot?_of_eligible he]
      constructor
      case mp =>
        rintro ⟨rfl⟩
        exact ⟨.refl, he, fun d hd _ => hd.prefix.length_le⟩
      case mpr =>
        rintro ⟨hr, -, hl⟩
        rw [hr.eq_of_length_le <| hl p .refl he]
    case neg =>
      rw [sourceRoot?_of_not_eligible he]
      have hup {d} := liesIn_iff_of_not_eligible (d := d) he
      cases hp : p.parent?
      case none => simpa [hp] using fun hr h => absurd (hup h |>.mp hr) (by simp [hp])
      case some q =>
        simp only [hp, Option.some.injEq, exists_eq_left'] at hup
        rw [Option.bind_some, ih q hp]
        constructor
        case mp =>
          exact fun ⟨hr, h, hl⟩ => ⟨(hup h).mpr hr, h, fun d hd h => hl d ((hup h).mp hd) h⟩
        case mpr =>
          exact fun ⟨hr, h, hl⟩ => ⟨(hup h).mp hr, h, fun d hd h => hl d ((hup h).mpr hd) h⟩

theorem components_join_manifest (d : Path) :
    (d.join manifest).components = d.components ++ [.normal (.text "Ballerina.toml")] :=
  Path.components_join_ofString rfl

section Same

variable (hf : ∀ a b : Path, a.Same b → isFile a = isFile b)
include hf

theorem eligible_congr (h : p.Same q) (hp : Eligible isFile home p) : Eligible isFile home q := by
  have hj : (p.join manifest).Same (q.join manifest) := by
    rw [Path.Same, components_join_manifest, components_join_manifest, h]
  refine ⟨fun d hd hs => hp.notHome d hd (h.trans hs), ?_⟩
  exact (hf _ _ hj).symm.trans hp.manifest

theorem map_sourceRoot?_congr (h : p.Same q) :
    (sourceRoot? isFile home p).map Path.components =
      (sourceRoot? isFile home q).map Path.components := by
  induction p using Path.induct generalizing q
  case step p ih =>
    by_cases he : Eligible isFile home p
    case pos =>
      rw [sourceRoot?_of_eligible he, sourceRoot?_of_eligible (eligible_congr hf h he)]
      exact congrArg some h
    case neg =>
      have hq : ¬Eligible isFile home q := mt (eligible_congr hf h.symm) he
      rw [sourceRoot?_of_not_eligible he, sourceRoot?_of_not_eligible hq]
      have hd := Path.parent?_congr h
      cases hp : p.parent? <;> cases hq : q.parent? <;> simp only [hp, hq] at hd
      case none.none => rfl
      case some.some => exact ih _ hp <| Option.some.inj hd
      all_goals cases hd

-- Up through directories that are no source roots.
theorem map_sourceRoot?_append (hp : p.components = path.components ++ names)
    (hn : ∀ c ∈ names, ∃ s, c = .normal s)
    (he : ∀ d cs, cs ≠ [] → cs <+: names → d.components = path.components ++ cs →
      ¬Eligible isFile home d) :
    (sourceRoot? isFile home p).map Path.components =
      (sourceRoot? isFile home path).map Path.components := by
  induction names using List.reverseRecOn generalizing p
  case nil => exact map_sourceRoot?_congr hf <| hp.trans (List.append_nil _)
  case append_singleton names c ih =>
    have ⟨s, hs⟩ := hn c (by simp)
    have ⟨d, hd, hc⟩ := Path.exists_parent?_of_components
      (hp.trans (List.append_assoc ..).symm) (by simp [hs])
    rw [sourceRoot?_of_not_eligible (he p _ (by simp) List.prefix_rfl hp), hd]
    refine ih hc (fun c hm => hn c (by simp [hm])) fun d cs hne hcs => ?_
    exact he d cs hne <| hcs.trans (List.prefix_append ..)

end Same

theorem sourceRoot?_nearest (isFile : Path → Bool) (home : Option Path) (path : Path) :
    Searched isFile home path where
  found _ := sourceRoot?_eq_some_iff
  missing := sourceRoot?_eq_none_iff
  beyondHome h hh hp := sourceRoot?_of_not_eligible fun he => he.notHome h hh hp
  again r h := sourceRoot?_of_eligible (sourceRoot?_eq_some_iff.mp h).2.1
  below q hq hf he := by
    refine map_sourceRoot?_append hf (Path.components_join_of_normal hq) hq ?_
    intro d cs hne hcs hd
    obtain ⟨q', hl, rfl⟩ := Path.exists_liesIn_of_prefix hq hcs
    have hj := Path.components_join_of_normal (p := path) fun c hc => hq c <| hcs.subset hc
    exact mt (eligible_congr hf (hd.trans hj.symm)) <| he q' hl hne

-- A home directory and the one above it both hold a manifest.
def homeFiles (p : Path) : Bool :=
  p.components = (Path.ofString "/w/Ballerina.toml").components ||
  p.components = (Path.ofString "/w/home/Ballerina.toml").components

theorem sourceRoot?_nearest_home : ∃ home rest root : Path, rest.components.length = 2 ∧
    holdsManifest homeFiles home ∧ home.parent? = some root ∧
    sourceRoot? homeFiles (some home) home = some root ∧
    (sourceRoot? homeFiles (some home) (home.join rest)).map Path.components =
      some root.components := by
  let home := Path.ofString "/w/./home/"
  let rest := Path.ofString "notes//a.bal"
  have searched := sourceRoot?_nearest homeFiles (some home) home
  have hr : sourceRoot? homeFiles (some home) home = some (.ofString "/w") :=
    (searched.beyondHome home rfl rfl).trans <| by decide
  have hc : rest.components = [.normal (.text "notes"), .normal (.text "a.bal")] := by decide
  have hf (a b : Path) (h : a.Same b) : homeFiles a = homeFiles b := by rw [homeFiles, h, homeFiles]
  have he q (hq : rest.LiesIn q) (hn : q.components ≠ []) :
      ¬Eligible homeFiles (some home) (home.join q) := fun he => by
    have ha : ∀ q ∈ rest.ancestors,
      q.components ≠ [] → ¬holdsManifest homeFiles (home.join q) := by decide
    exact ha q (Path.mem_ancestors_iff.mpr hq) hn he.manifest
  have hb := searched.below rest (by simp [hc]) hf he
  exact ⟨home, rest, _, by decide, by decide, by decide, hr, by rw [hb, hr]; rfl⟩

end ApiLens
