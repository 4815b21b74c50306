import ApiLens.Lens

/-!
Elements of the project tree that an editor shows, and their JSON form, in which what is absent or
empty is left out.
-/

namespace ApiLens

inductive ElementKind
  | projectRoot
  | module
  | function
  | service
  | resource
  /-- A message in place of a tree. -/
  | info
deriving DecidableEq, Repr

/-- An element without its children. -/
structure Entry where
  name : String
  kind : ElementKind
  path : Option Path := none
  sourceRoot : Option Path := none
  moduleName : Option String := none
  serviceName : Option String := none
  filePath : Option Path := none
  startLine : Option UInt32 := none
  startColumn : Option UInt32 := none
deriving DecidableEq, Repr

inductive Element
  | mk (entry : Entry) (children : List Element)

namespace Element

def entry : Element → Entry
  | mk entry _ => entry

def children : Element → List Element
  | mk _ children => children

def info (message : String) : Element := .mk { name := message, kind := .info } []

def projectRoot (path : Path) : Element :=
  .mk { name := (path.fileName?.bind Segment.text?).getD "", kind := .projectRoot, path := some path } []

mutual

/-- An element and all below it, parents first. -/
def preorder : Element → List Entry
  | mk entry children => entry :: preorderAll children

def preorderAll : List Element → List Entry
  | [] => []
  | e :: rest => preorder e ++ preorderAll rest

end

end Element

/-- Why a value has no JSON form. -/
inductive WriteError
  | pathNotText
deriving DecidableEq, Repr

def WriteError.message : WriteError → String
  | pathNotText => "path contains invalid UTF-8 characters"

/-- A path as JSON text, which a path that is no text does not have. -/
def Path.toJson (p : Path) : Except WriteError Json :=
  match p.text? with
  | some s => .ok (.str s)
  | none => .error .pathNotText

namespace Entry

def collapsible (e : Entry) : Bool :=
  match e.kind with
  | .projectRoot | .module | .service => true
  | .function | .resource | .info => false

def tooltip (e : Entry) : Option String :=
  match e.kind with
  | .projectRoot => e.path.map Path.shown
  | _ => none

def navigates (e : Entry) : Bool :=
  match e.kind with
  | .projectRoot | .function | .service | .resource => true
  | .module | .info => false

/-- The command of an element that leads somewhere. Only resources tell it their service. A file
whose path is no text cannot be told, and then the program breaks off. -/
def command (e : Entry) : Except WriteError (Option Command) := do
  if e.navigates then
    let file ← match e.filePath with
      | some file => file.toJson
      | none => pure .null
    return some {
      title := "Execute Tree Command"
      command := "ballerina.executeTreeElement"
      arguments := some [
        .ofOption .str (e.sourceRoot.bind Uri.ofPath?), file, .ofOption .str e.moduleName,
        .ofOption .str (if e.kind = .resource then e.serviceName else none), .str e.name,
        .ofOption .ofWord e.startLine, .ofOption .ofWord e.startColumn] }
  else return none

end Entry

namespace ElementKind

def names : List (String × ElementKind) :=
  [("ProjectRoot", .projectRoot), ("Module", .module), ("Function", .function),
    ("Service", .service), ("Resource", .resource), ("Info", .info)]

def text : ElementKind → String
  | projectRoot => "ProjectRoot"
  | module => "Module"
  | function => "Function"
  | service => "Service"
  | resource => "Resource"
  | info => "Info"

def decode : Decoder ElementKind := Decoder.name names

end ElementKind

namespace Entry

/-- A field that is left out when there is nothing to write. -/
def optionalField (name : String) (f : α → Json) (value : Option α) : Json.Fields :=
  (value.map fun a => (name, f a)).toList

/-- The fields of an element that is sent. What it was made from came in texts, and so its paths are
texts too. -/
def fields (e : Entry) : Json.Fields :=
  [("name", .str e.name), ("kind", .str e.kind.text)]
    ++ optionalField "path" (.str ·.shown) e.path
    ++ optionalField "sourceRoot" (.str ·.shown) e.sourceRoot
    ++ optionalField "moduleName" .str e.moduleName
    ++ optionalField "serviceName" .str e.serviceName
    ++ optionalField "filePath" (.str ·.shown) e.filePath
    ++ optionalField "startLine" .ofWord e.startLine
    ++ optionalField "startColumn" .ofWord e.startColumn

end Entry

namespace Element

mutual

def toJson : Element → Json
  | mk entry children =>
    .obj (entry.fields ++ if children.isEmpty then [] else [("children", .arr (toJsonAll children))])

def toJsonAll : List Element → List Json
  | [] => []
  | e :: rest => toJson e :: toJsonAll rest

end

def shape : RecordShape :=
  ⟨"ProjectTreeElement", ["name", "kind", "path", "sourceRoot", "moduleName", "serviceName",
    "filePath", "startLine", "startColumn", "children"]⟩

/-- The parts of an element that have been read so far. -/
structure Parts where
  name : Option String := none
  kind : Option ElementKind := none
  path : Option Path := none
  sourceRoot : Option Path := none
  moduleName : Option String := none
  serviceName : Option String := none
  filePath : Option Path := none
  startLine : Option UInt32 := none
  startColumn : Option UInt32 := none
  children : List Element := []

/-- Takes up a field other than the children. -/
def step (p : Parts) (key : String) (v : Json) : Except DecodeError Parts :=
  match key with
  | "name" => do return { p with name := some (← Decoder.text v) }
  | "kind" => do return { p with kind := some (← ElementKind.decode v) }
  | "path" => do return { p with path := ← Decoder.option .path v }
  | "sourceRoot" => do return { p with sourceRoot := ← Decoder.option .path v }
  | "moduleName" => do return { p with moduleName := ← Decoder.option .text v }
  | "serviceName" => do return { p with serviceName := ← Decoder.option .text v }
  | "filePath" => do return { p with filePath := ← Decoder.option .path v }
  | "startLine" => do return { p with startLine := ← Decoder.option .word v }
  | "startColumn" => do return { p with startColumn := ← Decoder.option .word v }
  | _ => .ok p

def finish (missing : String → DecodeError) (p : Parts) : Except DecodeError Element := do
  let entry : Entry := {
    name := ← required missing "name" p.name
    kind := ← required missing "kind" p.kind
    path := p.path
    sourceRoot := p.sourceRoot
    moduleName := p.moduleName
    serviceName := p.serviceName
    filePath := p.filePath
    startLine := p.startLine
    startColumn := p.startColumn }
  return .mk entry p.children

mutual

def decode : Decoder Element
  | .obj fields => do finish (shape.missing (.obj fields)) (← decodeFields {} fields)
  | .arr items => do
    let element ← finish (shape.missing (.arr items)) (← decodeItems {} shape.fields items)
    shape.checkLength (.arr items)
    return element
  | v => .error (.invalidType v shape.title)

def decodeFields (p : Parts) : List (String × Json) → Except DecodeError Parts
  | [] => .ok p
  | (key, v) :: rest => do
    if key = "children" then
      let children ← decodeChildren v
      decodeFields { p with children } rest
    else decodeFields (← step p key v) rest

def decodeItems (p : Parts) : List String → List Json → Except DecodeError Parts
  | key :: keys, v :: rest => do
    if key = "children" then
      let children ← decodeChildren v
      decodeItems { p with children } keys rest
    else decodeItems (← step p key v) keys rest
  | _, _ => .ok p

def decodeChildren : Decoder (List Element)
  | .arr items => decodeAll items
  | v => .error (.invalidType v "a sequence")

def decodeAll : List Json → Except DecodeError (List Element)
  | [] => .ok []
  | v :: rest => do return (← decode v) :: (← decodeAll rest)

end

end Element
end ApiLens
