import ApiLens.Proofs.Json.Keys
import ApiLens.Session.Basic
import Mathlib.Data.List.Basic

/-!
What a message does to a session, all at once.
-/

namespace ApiLens

namespace TreeCache

variable {c : TreeCache}

-- The cache once `tree` is all that is known of `document`.
def settle (c : TreeCache) (document : Uri) : Option Node → TreeCache
  | some tree => c.insert document tree
  | none => c.erase document

theorem get?_erase : (c.erase u).get? v = if v = u then none else c.get? v := by
  cases c with | mk entries =>
  simp only [erase, get?]
  induction entries
  case nil => simp
  case cons e rest ih =>
    cases e with | mk w t =>
    by_cases hw : w = u
    case pos =>
      subst hw
      rw [List.filter_cons_of_neg (by simp), ih, lookup_cons_eq]
      split <;> rfl
    case neg =>
      rw [List.filter_cons_of_pos (by simpa using hw), lookup_cons_eq, lookup_cons_eq, ih]
      by_cases hv : v = w <;> simp_all

theorem get?_insert : (c.insert u tree).get? v = if v = u then some tree else c.get? v := by
  have he : (c.erase u).entries.lookup v = if v = u then none else c.get? v := get?_erase
  rw [insert, get?, lookup_cons_eq, he]
  split <;> rfl

theorem get?_settle : (c.settle u t).get? v = if v = u then t else c.get? v := by
  cases t
  case none => exact get?_erase
  case some => exact get?_insert

end TreeCache

-- The settings of a workspace, if they can be loaded.
def Environment.settings? (env : Environment) (root : Option Path) : Option Settings :=
  root.bind fun root => (Settings.load env.files env.home root).toOption

-- The tree in a response. One that cannot be read counts as none.
def TreeResponse.tree? (r : TreeResponse) : Option Node :=
  r.root.toOption.join

namespace Session

variable {s : Session}

theorem applyAll_reload :
    s.applyAll (s.reload env) =
      { s with settings := (env.settings? s.workspaceRoot).getD s.settings } := by
  cases s with | mk settings root trees =>
  cases root
  case none => rfl
  case some root =>
    simp only [reload, Environment.settings?, Option.bind_some]
    cases Settings.load env.files env.home root <;> rfl

theorem applyAll_takeTree :
    s.applyAll (takeTree p) = { s with trees := s.trees.settle p.uri p.response.tree? } := by
  simp only [takeTree, TreeResponse.tree?]
  split
  all_goals simp_all [applyAll, apply, TreeCache.settle, Except.toOption]

theorem applyAll_append : s.applyAll (es ++ fs) = (s.applyAll es).applyAll fs := by
  simp [applyAll]

theorem applyAll_tell : s.applyAll [.tell m] = s := rfl

theorem session_handle (d : Delivery) : (s.handle d).session =
    match d.message with
    | .treeArrived p => { s with trees := s.trees.settle p.uri p.response.tree? }
    | .closed document => { s with trees := s.trees.settle document none }
    | .configurationChanged =>
      { s with settings := (d.environment.settings? s.workspaceRoot).getD s.settings }
    | _ => s := by
  cases d with | mk message env accepts =>
  cases message
  case treeArrived p =>
    simp only [handle, carryOut, effects, applyAll_append, applyAll_takeTree, applyAll_tell]
  case configurationChanged =>
    simp only [handle, carryOut, effects, applyAll_append, applyAll_reload, applyAll_tell]
  all_goals rfl

theorem session_start (env o) : (start env o).session =
    { settings := (env.settings? o.workspaceRoot).getD {}, workspaceRoot := o.workspaceRoot } := by
  simp [start, carryOut, applyAll_reload]

theorem workspaceRoot_handle (d : Delivery) :
    (s.handle d).session.workspaceRoot = s.workspaceRoot := by
  rw [session_handle]
  split <;> rfl

theorem workspaceRoot_after : (s.after ds).workspaceRoot = s.workspaceRoot := by
  induction ds generalizing s
  case nil => rfl
  case cons d ds ih => exact ih.trans <| workspaceRoot_handle d

-- What each message either sets or leaves alone is, after some messages, what the last one set that
-- set it at all.
theorem eq_last_after {f : Session → α} {g : Delivery → Option α}
    (h : ∀ t d, t.workspaceRoot = s.workspaceRoot → f (t.handle d).session = (g d).getD (f t)) :
    f (s.after ds) = (ds.filterMap g).getLast?.getD (f s) := by
  induction ds generalizing s
  case nil => rfl
  case cons d ds ih =>
    change f ((s.handle d).session.after ds) = _
    rw [ih (by simpa [workspaceRoot_handle] using h), h s d rfl]
    cases hd : g d
    case none   => simp [hd]
    case some b =>
      simp only [List.filterMap_cons, hd, List.getLast?_cons, Option.getD_some]

end Session
end ApiLens
