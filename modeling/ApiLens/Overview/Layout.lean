import ApiLens.Overview.Element
import ApiLens.Overview.Package

/-!
The tree of a project: the functions and services of its default module on top, then one element per
other module. Every level is sorted by name, and equal names keep their order.
-/

namespace ApiLens

def sortByName (name : α → String) (xs : List α) : List α :=
  xs.mergeSort fun a b => namesLe (name a) (name b)

/-- Where a module's elements come from: its name, the root of the project and the directory that the
module's file paths start from. -/
structure ModuleContext where
  moduleName : Option String
  sourceRoot : Path
  fileRoot : Path

namespace ModuleContext

variable (c : ModuleContext)

def filePath (declared : String) : Path := c.fileRoot.join (.ofString declared)

def functionElement (f : Callable) : Element :=
  .mk { name := f.name, kind := .function, sourceRoot := some c.sourceRoot
        moduleName := c.moduleName, filePath := some (c.filePath f.filePath)
        startLine := some f.place.startLine, startColumn := some f.place.startColumn } []

/-- A resource stands in the file of its service. -/
def resourceElement (s : Service) (r : Callable) : Element :=
  .mk { name := r.name, kind := .resource, sourceRoot := some c.sourceRoot
        moduleName := c.moduleName, serviceName := some s.name
        filePath := some (c.filePath s.filePath)
        startLine := some r.place.startLine, startColumn := some r.place.startColumn } []

def serviceElement (s : Service) : Element :=
  .mk { name := s.name, kind := .service, sourceRoot := some c.sourceRoot
        moduleName := c.moduleName, filePath := some (c.filePath s.filePath)
        startLine := some s.place.startLine, startColumn := some s.place.startColumn }
    ((sortByName Callable.name s.resources).map (c.resourceElement s))

end ModuleContext

namespace Module

def defaultContext (m : Module) (sourceRoot : Path) : ModuleContext :=
  ⟨m.name, sourceRoot, sourceRoot⟩

def context (m : Module) (sourceRoot : Path) : ModuleContext :=
  ⟨m.name, sourceRoot, (sourceRoot.join (.ofString "modules")).join (.ofString m.title)⟩

def members (m : Module) (c : ModuleContext) : List Element :=
  (sortByName Callable.name m.functions).map c.functionElement
    ++ (sortByName Service.name m.services).map c.serviceElement

def element (m : Module) (sourceRoot : Path) : Element :=
  .mk { name := m.title, kind := .module, sourceRoot := some sourceRoot }
    (m.members (m.context sourceRoot))

end Module

namespace Package

/-- The last module that is marked as the default one. -/
def defaultModule? (p : Package) : Option Module :=
  (p.modules.filter Module.isDefault).getLast?

def otherModules (p : Package) : List Module :=
  p.modules.filter (!·.isDefault)

def elements (p : Package) (sourceRoot : Path) : List Element :=
  (p.defaultModule?.map fun m => m.members (m.defaultContext sourceRoot)).getD []
    ++ (sortByName Module.title p.otherModules).map (·.element sourceRoot)

end Package

def overviewFailed : String :=
  "Couldn't create the project overview. Please make sure your code compiles successfully and refresh."

/-- The tree of the first package. -/
def projectTree (packages : List Package) (sourceRoot : Path) : List Element :=
  match packages with
  | [] => [.info overviewFailed]
  | package :: _ => package.elements sourceRoot

end ApiLens
