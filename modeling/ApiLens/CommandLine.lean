import ApiLens.Json.Printer
import ApiLens.Json.Reader
import ApiLens.Overview.Layout
import ApiLens.Path.FileTree
import ApiLens.Tree.Response

/-!
The command line: what the arguments ask for, and what is printed.

Without a command the program serves an editor. The other commands read one JSON file and print a list.
-/

namespace ApiLens

/-- An operand or the value of an option. -/
structure Slot where
  name : String
  /-- A path must not be empty. -/
  isPath : Bool

/-- What a command takes. -/
structure Usage where
  operands : List Slot := []
  options : List Slot := []
  flags : List String := []

/-- Why the arguments need no further reading. -/
inductive Halt
  | help
  | version
  | misuse
deriving DecidableEq, Repr

/-- What the arguments read so far have given. -/
structure Arguments where
  values : List (String × String) := []
  flags : List String := []

/-- What the next argument may be. -/
inductive Expected
  | anything
  | valueOf (option : Slot)
  | operand

namespace Arguments

def value? (a : Arguments) (name : String) : Option String := a.values.lookup name

def hasFlag (a : Arguments) (name : String) : Bool := a.flags.contains name

/-- Nothing may be given twice. -/
def fill (a : Arguments) (slot : Slot) (value : String) : Except Halt Arguments :=
  if (a.value? slot.name).isSome || slot.isPath && value.isEmpty then .error .misuse
  else .ok { a with values := a.values ++ [(slot.name, value)] }

def raise (a : Arguments) (flag : String) : Except Halt Arguments :=
  if a.hasFlag flag then .error .misuse else .ok { a with flags := a.flags ++ [flag] }

end Arguments

/-- A lone dash is a value. -/
def looksLikeOption (arg : String) : Bool := arg.startsWith "-" && arg != "-"

/-- The name of a long option, and its value if one is attached. -/
def longOption (arg : String) : String × Option String :=
  let cs := arg.toList
  match cs.dropWhile (· != '=') with
  | [] => (arg, none)
  | _ :: value => (String.ofList (cs.takeWhile (· != '=')), some (String.ofList value))

namespace Usage

variable (u : Usage)

def operand (a : Arguments) (arg : String) : Except Halt Arguments :=
  match u.operands.find? fun slot => (a.value? slot.name).isNone with
  | some slot => a.fill slot arg
  | none => .error .misuse

def long (a : Arguments) (arg : String) : Except Halt (Arguments × Expected) :=
  let (name, attached) := longOption arg
  match u.options.find? (·.name == name), attached with
  | some slot, some value => do return (← a.fill slot value, .anything)
  | some slot, none => .ok (a, .valueOf slot)
  | none, some _ => .error .misuse
  | none, none =>
    if name = "--help" then .error .help
    else if u.flags.contains name then do return (← a.raise name, .anything)
    else .error .misuse

/-- Takes up one argument. A value that looks like an option does not count as one. -/
def step : Arguments × Expected → String → Except Halt (Arguments × Expected)
  | (a, .operand), arg => do return (← u.operand a arg, .operand)
  | (a, .valueOf slot), arg =>
    if looksLikeOption arg then .error .misuse else do return (← a.fill slot arg, .anything)
  | (a, .anything), arg =>
    if arg = "--" then .ok (a, .operand)
    else if arg.startsWith "--" then u.long a arg
    else if looksLikeOption arg then .error (if arg.startsWith "-h" then .help else .misuse)
    else do return (← u.operand a arg, .anything)

/-- Reads all arguments. Each operand and option must be there in the end. -/
def read (args : List String) : Except Halt Arguments := do
  match ← args.foldlM u.step ({}, .anything) with
  | (_, .valueOf _) => throw .misuse
  | (a, _) =>
    if (u.operands ++ u.options).all fun slot => (a.value? slot.name).isSome then return a
    else throw .misuse

end Usage

/-- What a command line asks for. -/
inductive Invocation
  | serve
  | lens (tree : Path) (module : String) (policy : Policy)
  | overview (packages : Path) (sourceRoot : Path)
deriving DecidableEq, Repr

namespace Invocation

def lensUsage : Usage where
  operands := [⟨"tree", true⟩]
  options := [⟨"--module", false⟩]
  flags := ["--inner-functions-require-public"]

def overviewUsage : Usage where
  operands := [⟨"packages", true⟩]
  options := [⟨"--source-root", true⟩]

def commands : List String := ["serve", "lens", "overview", "help"]

def ofLens (args : List String) : Except Halt Invocation := do
  let a ← lensUsage.read args
  match a.value? "tree", a.value? "--module" with
  | some tree, some module =>
    return lens (.ofString tree) module ⟨a.hasFlag "--inner-functions-require-public"⟩
  | _, _ => throw .misuse

def ofOverview (args : List String) : Except Halt Invocation := do
  let a ← overviewUsage.read args
  match a.value? "packages", a.value? "--source-root" with
  | some packages, some root => return overview (.ofString packages) (.ofString root)
  | _, _ => throw .misuse

/-- Whether a short option comes first among those that one argument gathers. -/
def gathers (arg : String) (short : Char) : Bool :=
  match arg.toList with
  | '-' :: c :: _ => c == short
  | _ => false

def ofArguments : List String → Except Halt Invocation
  | [] => .ok serve
  | ["--"] => .ok serve
  | "serve" :: args => do
    let _ ← ({} : Usage).read args
    return serve
  | "lens" :: args => ofLens args
  | "overview" :: args => ofOverview args
  | "help" :: [] => .error .help
  | "help" :: [command] => .error (if commands.contains command then .help else .misuse)
  | arg :: _ =>
    if arg = "--version" || gathers arg 'V' then .error .version
    else if arg = "--help" || gathers arg 'h' then .error .help
    else .error .misuse

/-- The file that a command reads. -/
def file? : Invocation → Option Path
  | serve => none
  | lens tree .. => some tree
  | overview packages _ => some packages

end Invocation

inductive CommandError
  | unreadable (file : Path)
  | notJson (file : Path)
  | notANode (cause : NotANode)
  | unfit (cause : DecodeError)
  | noPackages (file : Path)

namespace CommandError

def message : CommandError → String
  | unreadable file => "reading " ++ file.shown
  | notJson file => "parsing " ++ file.shown
  | notANode cause => cause.message
  | unfit cause => cause.message
  | noPackages file => file.shown ++ " has no \x60packages\x60 field"

end CommandError

namespace Invocation

def readJson (read : Path → Option String) (file : Path) : Except CommandError Json := do
  match read file with
  | none => throw (.unreadable file)
  | some text =>
    match Json.parse text with
    | .ok v => return v
    | .error _ => throw (.notJson file)

/-- The tree that a file holds: a response if it has a field for one, and else the tree itself. -/
def treeOf (v : Json) : Except CommandError (Option Node) := do
  if (v.get? "syntaxTree").isSome then
    match TreeResponse.decode v with
    | .error cause => throw (.unfit cause)
    | .ok response => response.root.mapError .notANode
  else some <$> (Node.ofJson v).mapError .notANode

def printedDeclarations (module : String) (policy : Policy) (v : Json) :
    Except CommandError (List Declaration) := do
  match ← treeOf v with
  | some root => return declarations module policy root
  | none => return []

/-- The packages that a file holds: under a field of an object, or the value itself. -/
def packagesOf (file : Path) (v : Json) : Except CommandError (List Package) := do
  let value ← match v with
    | .obj fields =>
      match Json.Fields.get? fields "packages" with
      | some packages => pure packages
      | none => throw (CommandError.noPackages file)
    | v => pure v
  (Decoder.list Package.decode value).mapError .unfit

/-- What a command prints. A server prints nothing of its own. -/
def printed (read : Path → Option String) : Invocation → Except CommandError (Option Json)
  | serve => .ok none
  | lens tree module policy => do
    let v ← readJson read tree
    return some (.arr ((← printedDeclarations module policy v).map Declaration.toJson))
  | overview packages sourceRoot => do
    let v ← readJson read packages
    return some (.arr ((projectTree (← packagesOf packages v) sourceRoot).map Element.toJson))

end Invocation

/-- What a run of the program leaves: its exit code, its output and its complaint. -/
structure ExitReport where
  code : UInt8
  output : String := ""
  complaint : String := ""

namespace ExitReport

def versionText : String := "doclens 0.1.0\n"

def usageText : String :=
  "Usage: doclens [serve]\n"
    ++ "       doclens lens <TREE> --module <MODULE> [--inner-functions-require-public]\n"
    ++ "       doclens overview <PACKAGES> --source-root <SOURCE_ROOT>\n"

def ofHalt : Halt → ExitReport
  | .help => { code := 0, output := usageText }
  | .version => { code := 0, output := versionText }
  | .misuse => { code := 2, complaint := usageText }

def ofPrinted : Except CommandError (Option Json) → ExitReport
  | .ok none => { code := 0 }
  | .ok (some v) => { code := 0, output := v.pretty ++ "\n" }
  | .error cause => { code := 1, complaint := "Error: " ++ cause.message ++ "\n" }

/-- What a run leaves that finds no editor at the other end. -/
def ofArguments (read : Path → Option String) (args : List String) : ExitReport :=
  match Invocation.ofArguments args with
  | .ok invocation => ofPrinted (invocation.printed read)
  | .error halt => ofHalt halt

end ExitReport
end ApiLens
