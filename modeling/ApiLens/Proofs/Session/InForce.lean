import ApiLens.Proofs.Session.Handle
import ApiLens.Proofs.Session.Run

/-!
Which settings are in force.

They are the latest that could be loaded, for a workspace that never changes.
-/

namespace ApiLens

namespace Session

variable {s : Session}

theorem settings_handle : (s.handle d).session.settings =
    ((Intake.delivered d).load?.bind (·.settings? s.workspaceRoot)).getD s.settings := by
  rw [session_handle]
  cases d with | mk message env accepts =>
  cases message <;> rfl

theorem settings_after : (s.after ds).settings =
    (((ds.map Intake.delivered).filterMap Intake.load?).filterMap
      (·.settings? s.workspaceRoot)).getLast?.getD s.settings := by
  rw [List.filterMap_map, List.filterMap_filterMap]
  refine eq_last_after (f := settings) fun t d hr => ?_
  rw [settings_handle, hr]
  rfl

theorem workspaceRoot_start : (start env o).session.workspaceRoot = o.workspaceRoot := by
  rw [session_start]

theorem settings_start :
    (start env o).session.settings = (env.settings? o.workspaceRoot).getD {} := by
  rw [session_start]

end Session

-- What the settings of a session are after a run, and what can change them from there on.
structure InForce (run : List Arrival) (s : Session) : Prop where
  -- The last load that succeeded decides, whatever was tried after it.
  latest : s.settings =
    ((Lifecycle.fresh.loads run).filterMap (·.settings? s.workspaceRoot)).getLast?.getD {}
  -- The workspace is the one that the session was opened on.
  opening : ∃ env o later,
    Lifecycle.fresh.intakes run = .opened env o :: later ∧ s.workspaceRoot = o.workspaceRoot
  root run' s' : (Lifecycle.running s).after run' = .running s' → s'.workspaceRoot = s.workspaceRoot
  rootless : s.workspaceRoot = none → s.settings = {}
  -- Where nothing can be loaded, the settings, the workspace and the trees all stay.
  failing a : a.message? = some .configurationChanged →
    a.environment.settings? s.workspaceRoot = none → (Lifecycle.running s).next a = .running s
  others a s' : a.message? ≠ some .configurationChanged →
    (Lifecycle.running s).next a = .running s' → s'.settings = s.settings

namespace Lifecycle

variable {s s' : Session} {a : Arrival}

theorem settings_eq_last_load (h : fresh.after run = running s) : s.settings =
    ((fresh.loads run).filterMap (·.settings? s.workspaceRoot)).getLast?.getD {} := by
  have ⟨env, o, ds, hi, hs⟩ := intakes_fresh h
  have hr : s.workspaceRoot = o.workspaceRoot := by
    rw [hs, Session.workspaceRoot_after, Session.workspaceRoot_start]
  rw [hr, loads, hi, hs, Session.settings_after, Session.settings_start,
    Session.workspaceRoot_start]
  cases hl : env.settings? o.workspaceRoot
  case none   => simp [Intake.load?, hl]
  case some l => simp [Intake.load?, hl, List.getLast?_cons]

theorem workspaceRoot_of_opened (h : fresh.after run = running s) : ∃ env o later,
    fresh.intakes run = .opened env o :: later ∧ s.workspaceRoot = o.workspaceRoot := by
  have ⟨env, o, ds, hi, hs⟩ := intakes_fresh h
  exact ⟨env, o, _, hi, by rw [hs, Session.workspaceRoot_after, Session.workspaceRoot_start]⟩

theorem workspaceRoot_eq_of_after (h : (running s).after run = running s') :
    s'.workspaceRoot = s.workspaceRoot := by
  have ⟨ds, _, hs⟩ := intakes_running h
  rw [hs, Session.workspaceRoot_after]

theorem settings_of_workspaceRoot_eq_none (h : fresh.after run = running s)
    (hr : s.workspaceRoot = none) : s.settings = {} := by
  have hn : (fresh.loads run).filterMap (·.settings? s.workspaceRoot) = [] := by
    simp [Environment.settings?, hr]
  rw [settings_eq_last_load h, hn]
  rfl

theorem next_of_load_failing (hm : a.message? = some .configurationChanged)
    (hl : a.environment.settings? s.workspaceRoot = none) : (running s).next a = running s := by
  rw [next_of_message? hm, Session.session_handle]
  simp [hl]

theorem settings_next (h : (running s).next a = running s')
    (hm : a.message? ≠ some .configurationChanged) : s'.settings = s.settings := by
  obtain ⟨-, rfl⟩ | ⟨d, hd, rfl⟩ := next_running_cases h
  · rfl
  · obtain ⟨m, hm', rfl⟩ := Option.map_eq_some_iff.mp hd
    rw [Session.settings_handle]
    cases m
    case configurationChanged => exact absurd hm' hm
    all_goals rfl

theorem inForce (h : fresh.after run = running s) : InForce run s where
  latest := settings_eq_last_load h
  opening := workspaceRoot_of_opened h
  root _ _ := workspaceRoot_eq_of_after
  rootless := settings_of_workspaceRoot_eq_none h
  failing _ := next_of_load_failing
  others _ _ hm hn := settings_next hn hm

theorem handle_opening (h : a.opening? = some o) : ∃ id told,
    fresh.handle a.environment a.accepts a.request = some
      ⟨running ⟨(a.environment.settings? o.workspaceRoot).getD {}, o.workspaceRoot, {}⟩,
        some ⟨id, .ok offer⟩, told⟩ := by
  have ⟨id, _, hh⟩ := handle_of_opening? h
  exact ⟨id, _, by rw [hh, Session.session_start]⟩

theorem settings_in_force :
    (∀ run s, fresh.after run = running s → InForce run s) ∧
    ∀ (a : Arrival) o, a.opening? = some o → ∃ id told,
      fresh.handle a.environment a.accepts a.request = some
        ⟨running ⟨(a.environment.settings? o.workspaceRoot).getD {}, o.workspaceRoot, {}⟩,
          some ⟨id, .ok offer⟩, told⟩ :=
  ⟨fun _ _ => inForce, fun _ _ => handle_opening⟩

-- A machine that only holds the settings of the workspace `/w`.
def holding (settings : String) : Environment :=
  ⟨⟨[], [([.text "w", .text ".doclens.ini"], settings)], [[.text "w"]]⟩, .ofString ""⟩

-- The editor tells that the settings have changed, but they cannot be read any more.
def spoilingRun : List Arrival :=
  [.opens "file:///w" (holding "enable_code_lens=false"),
    ⟨⟨"workspace/didChangeConfiguration", some (.obj [("settings", .null)]), none⟩,
      holding "[", true⟩]

theorem settings_in_force_spoiling :
    (∃ s, fresh.after spoilingRun = running s ∧ s.settings = { enableCodeLens := false }) ∧
    ∃ root id told,
      fresh.handle (holding "[") true (Arrival.opens "file:///w" (holding "[")).request =
        some ⟨running ⟨{}, root, {}⟩, some ⟨id, .ok offer⟩, told⟩ := by
  have ⟨s, h, hr⟩ : ∃ s, fresh.after spoilingRun = running s ∧
      s.workspaceRoot = some (.ofString "/w") := ⟨_, rfl, by decide +kernel⟩
  constructor
  case left =>
    refine ⟨s, h, ?_⟩
    rw [(settings_in_force.1 _ s h).latest, hr]
    decide +kernel
  case right =>
    have ⟨o, ho, hl⟩ : ∃ o, (Arrival.opens "file:///w" (holding "[")).opening? = some o ∧
        ((holding "[").settings? o.workspaceRoot).getD {} = {} := ⟨_, rfl, by decide +kernel⟩
    have ⟨id, told, hh⟩ := settings_in_force.2 _ o ho
    exact ⟨o.workspaceRoot, id, told, by rw [← hl]; exact hh⟩

end Lifecycle
end ApiLens
