import ApiLens.Json.Reader
import ApiLens.Path.FileTree
import ApiLens.Settings.Ini
import ApiLens.Settings.Json5
import ApiLens.Settings.Layer
import ApiLens.Settings.Ron
import ApiLens.Settings.Toml
import ApiLens.Settings.Yaml

/-!
Loading the settings of a workspace from the file in the home directory and the file of the workspace,
which counts more. Each may be missing, and each may be in one of six formats.
-/

namespace ApiLens

inductive SettingsFormat
  | toml
  | json
  | yaml
  | ini
  | ron
  | json5
deriving DecidableEq, Repr

namespace SettingsFormat

/-- The endings of file names, in the order in which they are tried here. The formats come out of a map
that has no fixed order, so where several files stand side by side it is open which one counts. -/
def endings : List (Segment × SettingsFormat) :=
  [(.text "toml", toml), (.text "json", json), (.text "yaml", yaml), (.text "yml", yaml),
    (.text "ini", ini), (.text "ron", ron), (.text "json5", json5)]

def parse (format : SettingsFormat) (text : String) : Option Datum :=
  match format with
  | toml => Toml.parse text
  | json =>
    match Json.parse text with
    | .ok v => some (.ofJson v)
    | .error _ => none
  | yaml => Yaml.parse text
  | ini => Ini.parse text
  | ron => Ron.parse text
  | json5 => Json5.parse text

end SettingsFormat

/-- A settings file that exists. -/
structure SettingsFile where
  path : Path
  format : SettingsFormat
  text : String

namespace Path

def withEnding (p : Path) (ending : Segment) : Path :=
  match p.segments.getLast?, ending with
  | some (.text name h), .text e he =>
    ⟨p.segments.dropLast ++ [.text (name ++ "." ++ e) (by simp [h, he])], by simp⟩
  | _, _ => p

/-- The components that lead from one place to another. -/
def leading : (base path : List Component) → List Component
  | [], path => path
  | base, [] => base.map fun _ => .up
  | b :: base, c :: path =>
    if b = c then leading base path else (b :: base).map (fun _ => .up) ++ c :: path

def Component.shown : Component → String
  | .root => ""
  | .current => "."
  | .up => ".."
  | .normal s => s.shown

/-- A path as seen from a directory. -/
def shownFrom (directory path : Path) : String :=
  "/".intercalate ((leading directory.components path.components).map Component.shown)

end Path

namespace SettingsFile

/-- A file whose name has no ending hides those that have one, and counts for nothing itself. -/
def find? (tree : FileTree) (base : Path) : Option SettingsFile :=
  if tree.isFile base then none
  else
    SettingsFormat.endings.findSome? fun (ending, format) =>
      let path := base.withEnding ending
      (tree.read? path).map fun text => ⟨path, format, text⟩

/-- How messages name the file. -/
def shown (tree : FileTree) (file : SettingsFile) : String :=
  let directory : Path := ⟨.empty :: tree.current, List.cons_ne_nil _ _⟩
  Path.shownFrom directory (directory.join file.path)

def entries (tree : FileTree) (file : SettingsFile) :
    Except SettingsError (List (String × Datum)) :=
  match file.format.parse file.text with
  | some (.table entries) => .ok entries
  | _ => .error (.unreadable (file.shown tree))

end SettingsFile

namespace Settings

def homeFile (home : Path) : Path := home.join (.ofString ".config/doclens/settings")

def workspaceFile (root : Path) : Path := ⟨root.segments ++ [.text ".doclens"], by simp⟩

/-- Every file that may be looked at. -/
def candidates (home root : Path) : List Path :=
  [homeFile home, workspaceFile root].flatMap fun base =>
    base :: SettingsFormat.endings.map fun (ending, _) => base.withEnding ending

def layer (tree : FileTree) (layers : Layers) (base : Path) : Except SettingsError Layers :=
  match SettingsFile.find? tree base with
  | none => .ok layers
  | some file => do return layers.add (file.shown tree) (← file.entries tree)

/-- The settings in force for a workspace, given a file system and the home directory. -/
def load (tree : FileTree) (home root : Path) : Except SettingsError Settings := do
  if root.text?.isNone then throw .rootNotText
  let layers ← layer tree .defaults (homeFile home)
  ofLayers (← layer tree layers (workspaceFile root))

end Settings
end ApiLens
