import ApiLens.Lens
import ApiLens.Overview.Query
import ApiLens.Overview.Roots
import ApiLens.Session.TreeCache
import ApiLens.Settings.Load
import ApiLens.Tree.Response

/-!
A session with an editor.

A session holds the settings in force, the workspace and the trees that the editor has sent. What a
message does is a list of effects, carried out in order, and its reply is read off the session as the
effects leave it.
-/

namespace ApiLens

/-- What a session sees of the machine that it runs on. -/
structure Environment where
  files : FileTree
  home : Path

inductive Severity
  | error
  | warning
  | info
deriving DecidableEq, Repr

/-- What a session tells the editor without being asked. -/
inductive ClientMessage
  | log (severity : Severity) (text : String)
  /-- Asks the editor to ask for its lenses again. -/
  | refreshLenses
deriving DecidableEq, Repr

structure Session where
  settings : Settings := {}
  workspaceRoot : Option Path := none
  trees : TreeCache := {}

/-- What an editor says when it opens a session. -/
structure Opening where
  rootUri : Option Uri
  workspaceFolders : Option (List Uri)

namespace Opening

/-- The first workspace folder, or else the root. Only a file URI names a place. -/
def workspaceRoot (o : Opening) : Option Path :=
  ((o.workspaceFolders.bind List.head?).or o.rootUri).bind Uri.filePath?

/-- Every file that opening a session looks at. -/
def candidates (o : Opening) (home : Path) : List Path :=
  o.workspaceRoot.toList.flatMap (Settings.candidates home)

end Opening

inductive Message
  | ready
  | treeArrived (params : TreeParams)
  | closed (document : Uri)
  | configurationChanged
  | lensesAsked (document : Uri)
  | lensChosen (lens : CodeLens)
  | overviewAsked (query : OverviewQuery)
  | rootsAsked (query : RootsQuery)

inductive Effect
  | keep (document : Uri) (tree : Node)
  | forget (document : Uri)
  | adopt (settings : Settings)
  | tell (message : ClientMessage)

def Effect.told? : Effect → Option ClientMessage
  | tell m => some m
  | _ => none

inductive Reply
  /-- Nothing when the document lies in no workspace. -/
  | lenses (lenses : Option (List CodeLens))
  | lens (lens : CodeLens)
  | elements (elements : List Element)

/-- A message, what the session sees when it comes, and whether the editor accepts what the session
asks of it meanwhile. -/
structure Delivery where
  message : Message
  environment : Environment
  accepts : Bool := true

/-- What becomes of a message. -/
structure Outcome where
  session : Session
  reply : Option Reply
  told : List ClientMessage

namespace Session

def apply (s : Session) : Effect → Session
  | .keep document tree => { s with trees := s.trees.insert document tree }
  | .forget document => { s with trees := s.trees.erase document }
  | .adopt settings => { s with settings }
  | .tell _ => s

def applyAll (s : Session) (effects : List Effect) : Session := effects.foldl apply s

/-- Loads the settings again. Those in force stay when the load fails. -/
def reload (s : Session) (env : Environment) : List Effect :=
  match s.workspaceRoot with
  | none => []
  | some root =>
    match Settings.load env.files env.home root with
    | .ok settings => [.adopt settings]
    | .error cause => [.tell (.log .warning ("doclens settings: " ++ cause.message))]

/-- A tree that cannot be read counts as none and is reported. -/
def takeTree (p : TreeParams) : List Effect :=
  match p.response.root with
  | .ok (some tree) => [.keep p.uri tree]
  | .ok none => [.forget p.uri]
  | .error cause =>
    [.tell (.log .error (p.uri.text ++ ": " ++ cause.message)), .forget p.uri]

def effects (s : Session) (env : Environment) : Message → List Effect
  | .ready => [.tell (.log .info "doclens initialized")]
  | .treeArrived p => takeTree p ++ [.tell .refreshLenses]
  | .closed document => [.forget document]
  | .configurationChanged => s.reload env ++ [.tell .refreshLenses]
  | _ => []

/-- The lenses of a document that is a file, in a workspace. -/
def lenses? (s : Session) (document : Uri) : Option (List CodeLens) := do
  let file ← document.filePath?
  let root ← s.workspaceRoot
  return documentLenses (s.trees.get? document) root file s.settings

/-- A lens that the editor is about to show. It does nothing while lenses are disabled. -/
def resolve (s : Session) (lens : CodeLens) : CodeLens :=
  if s.settings.enableCodeLens then lens else { lens with command := none }

def reply (s : Session) (env : Environment) : Message → Option Reply
  | .lensesAsked document => some (.lenses (s.lenses? document))
  | .lensChosen lens => some (.lens (s.resolve lens))
  | .overviewAsked query => some (.elements query.elements)
  | .rootsAsked query => some (.elements (query.elements env.files.isFile))
  | _ => none

/-- Carries out effects. What the editor answers to a message of the session changes nothing. -/
def carryOut (s : Session) (effects : List Effect) (reply : Session → Option Reply) : Outcome :=
  let after := s.applyAll effects
  ⟨after, reply after, effects.filterMap Effect.told?⟩

def handle (s : Session) (d : Delivery) : Outcome :=
  s.carryOut (s.effects d.environment d.message) (·.reply d.environment d.message)

/-- A new session, with the settings of its workspace if they can be loaded. -/
def start (env : Environment) (o : Opening) : Outcome :=
  let s : Session := { workspaceRoot := o.workspaceRoot }
  s.carryOut (s.reload env) fun _ => none

/-- Every file that a message makes the session look at. -/
def candidates (s : Session) (home : Path) : Message → List Path
  | .configurationChanged => s.workspaceRoot.toList.flatMap (Settings.candidates home)
  | .rootsAsked query => query.candidates
  | _ => []

/-- The session after some messages. -/
def after (s : Session) (run : List Delivery) : Session :=
  run.foldl (fun s d => (s.handle d).session) s

end Session
end ApiLens
