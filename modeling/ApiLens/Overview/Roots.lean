import ApiLens.Overview.Element
import ApiLens.Path.FileTree

/-!
Source roots, the directories that hold a project manifest, and the list of a workspace's projects.
-/

namespace ApiLens

def manifest : Path := .ofString "Ballerina.toml"

/-- Whether a directory holds a manifest, in a file system given by its files. -/
def holdsManifest (isFile : Path → Bool) (directory : Path) : Bool :=
  isFile (directory.join manifest)

/-- The nearest directory at or above a path that holds a manifest. The home directory never counts. -/
def sourceRoot? (isFile : Path → Bool) (home : Option Path) (path : Path) : Option Path :=
  path.ancestors.find? fun p => !home.any (p.Same ·) && holdsManifest isFile p

def noProject : String :=
  "Please open a ballerina project to see the ballerina project overview"

structure RootsQuery where
  workspaceFolders : List Path := []
  activeDocument : Option Path := none
  home : Option Path := none
deriving DecidableEq, Repr

namespace RootsQuery

/-- The workspace folders that hold a manifest, then the project of the active document unless it is
one of them. -/
def paths (q : RootsQuery) (isFile : Path → Bool) : List Path :=
  let folders := q.workspaceFolders.filter (holdsManifest isFile)
  match q.activeDocument.bind (sourceRoot? isFile q.home) with
  | some root => if folders.any (·.Same root) then folders else folders ++ [root]
  | none => folders

def elements (q : RootsQuery) (isFile : Path → Bool) : List Element :=
  match q.paths isFile with
  | [] => [.info noProject]
  | paths => paths.map .projectRoot

/-- Every file that may be looked at. -/
def candidates (q : RootsQuery) : List Path :=
  (q.workspaceFolders ++ q.activeDocument.toList.flatMap Path.ancestors).map (·.join manifest)

def toJson (q : RootsQuery) : Json :=
  .obj [("workspaceFolders", .arr (q.workspaceFolders.map (.str ·.shown))),
    ("activeDocument", .ofOption (.str ·.shown) q.activeDocument),
    ("home", .ofOption (.str ·.shown) q.home)]

def shape : RecordShape := ⟨"ProjectRootsParams", ["workspaceFolders", "activeDocument", "home"]⟩

def step (q : RootsQuery) (key : String) (v : Json) : Except DecodeError RootsQuery :=
  match key with
  | "workspaceFolders" => do return { q with workspaceFolders := ← Decoder.list .path v }
  | "activeDocument" => do return { q with activeDocument := ← Decoder.option .path v }
  | "home" => do return { q with home := ← Decoder.option .path v }
  | _ => .ok q

def decode : Decoder RootsQuery := shape.read {} step fun _ q => .ok q

end RootsQuery
end ApiLens
