import ApiLens.Declaration.Wire
import ApiLens.Path.Basic
import ApiLens.Settings.Basic

/-!
The "Preview Docs" lenses of a document.

A lens spans a declaration and runs an editor command on it. The module that a document belongs to is
told by its place below the parent of the workspace: `module/file`, or `project/modules/module/file`.
-/

namespace ApiLens

structure Command where
  title : String
  command : String
  arguments : Option (List Json)

namespace Command

def toJson (c : Command) : Json :=
  .obj ([("title", .str c.title), ("command", .str c.command)]
    ++ (c.arguments.map fun args => ("arguments", Json.arr args)).toList)

end Command

structure Position where
  line : UInt32
  character : UInt32
deriving DecidableEq, Repr

/-- A span without gaps. -/
structure Range where
  start : Position
  stop : Position
deriving DecidableEq, Repr

namespace Position

def toJson (p : Position) : Json :=
  .obj [("line", .ofWord p.line), ("character", .ofWord p.character)]

end Position

namespace Range

def toJson (r : Range) : Json :=
  .obj [("start", r.start.toJson), ("end", r.stop.toJson)]

end Range

def Span.range? (s : Span) : Option Range := do
  return ⟨⟨← s.startLine, ← s.startColumn⟩, ⟨← s.endLine, ← s.endColumn⟩⟩

structure CodeLens where
  range : Range
  command : Option Command := none
  data : Option Json := none

namespace CodeLens

def toJson (l : CodeLens) : Json :=
  .obj ([("range", l.range.toJson)]
    ++ (l.command.map fun c => ("command", c.toJson)).toList
    ++ (l.data.map fun d => ("data", d)).toList)

end CodeLens

def previewTitle : String := "Preview Docs"

def Declaration.command (settings : Settings) (d : Declaration) : Command where
  title := previewTitle
  command := settings.showDocsCommand
  arguments := some [.obj [("moduleName", .str d.moduleName), ("nodeName", .str d.displayName),
    ("nodeType", .str d.category.directory)]]

/-- The lens of a declaration, which needs a complete span. -/
def Declaration.lens? (settings : Settings) (d : Declaration) : Option CodeLens :=
  d.span.range?.map fun range => { range, command := some (d.command settings) }

def lenses (settings : Settings) (ds : List Declaration) : List CodeLens :=
  ds.filterMap (Declaration.lens? settings)

/-- The name of a component, if it is a normal one and text. -/
def Component.name? : Component → Option String
  | .normal s => s.text?
  | _ => none

/-- The module of a document. Components that are no names are passed over before they are counted. -/
def moduleName? (workspace file : Path) : Option String := do
  let parent ← workspace.parent?
  let rest ← Path.afterBase? parent.components file.components
  match rest.filterMap Component.name? with
  | [project, _] => some project
  | [_, _, module, _] => some module
  | _ => none

def documentLenses (tree : Option Node) (workspace file : Path) (settings : Settings) :
    List CodeLens :=
  if !settings.enableCodeLens then []
  else
    match tree, moduleName? workspace file with
    | some root, some module => lenses settings (declarations module settings.policy root)
    | _, _ => []

end ApiLens
