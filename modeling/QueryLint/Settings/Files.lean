import QueryLint.Engine.Basic
import QueryLint.Json.Reader
import QueryLint.Settings.Basic
import QueryLint.Settings.FileTree
import QueryLint.Yaml.Reader

/-! Settings files: reading them, finding the nearest one, and making engines from them. -/
namespace QueryLint

def settingsFileNames : List String := [".sqlinterp.yaml", ".sqlinterp.yml", ".sqlinterp.json"]

def unifyLineEnds : List Char → List Char
  | [] => []
  | '\r' :: '\n' :: text => '\n' :: unifyLineEnds text
  | '\r' :: text => '\n' :: unifyLineEnds text
  | c :: text => c :: unifyLineEnds text

/-- The value of a settings text. In YAML what counts as absent is an empty object. -/
def settingsValue [Nesting] (json : Bool) (text : String) : Except Fault Value :=
  let text := String.ofList (unifyLineEnds text.toList)
  if json then Json.read (.ofDepth Nesting.room) text
  else (Yaml.read (.ofDepth Nesting.half) text).map Value.orEmpty

def settingsFileIn? (present : List String → Bool) (directory : List String) :
    Option (List String) :=
  (settingsFileNames.map fun name => directory ++ [name]).find? present

/-- The nearest settings file for a directory given from the inside out; the root is not
searched. -/
def nearestFrom? (present : List String → Bool) : List String → Option (List String)
  | [] => none
  | name :: above =>
    (settingsFileIn? present (name :: above).reverse).or (nearestFrom? present above)

def nearestSettings? (present : List String → Bool) (directory : List String) :
    Option (List String) :=
  nearestFrom? present directory.reverse

namespace FileTree

def loadEntry [Nesting] (entry : Option FileEntry) (path : PathText) : Except Fault Value :=
  match entry with
  | none => .error (.missingFile path.display)
  | some .directory => .error .isDirectory
  | some (.file text) => settingsValue (path.suffix == ".json") text

def load [Nesting] (tree : FileTree) (path : String) : Except Fault Value := do
  let path := PathText.ofString path
  loadEntry (← tree.open? path) path

/-- The settings file nearest to where a written path leads. What cannot be looked for there
cannot be looked for further up either. -/
def findSettings? (tree : FileTree) (start : String) : Except Fault (Option (List String)) := do
  let place ← tree.resolve (.ofString start)
  let _ ← settingsFileNames.mapM fun name => tree.open? ⟨true, place ++ [name]⟩
  return nearestSettings? (fun path => (tree.find? path).isSome) place

def relative (tree : FileTree) (path : List String) : String :=
  "/".intercalate (path.drop tree.here.length)

/-- The settings in a file, by default the nearest one; without any, the defaults. -/
def loadSettings [Nesting] (tree : FileTree) (path : Option String) (start : String) :
    Except Fault Settings :=
  match path with
  | some path => do Settings.ofValue (← tree.load path)
  | none => do
    match ← tree.findSettings? start with
    | none => return {}
    | some place => Settings.ofValue (← loadEntry (tree.find? place) ⟨true, place⟩)

def pathArgument : String := "config_path"

/-- An engine from a settings file, if one is named, and from further options, which win. The
log is set up as the file says. The file is not named by an option again. -/
def createEngine [Nesting] (tree : FileTree) (setup : LogSetup) (path : String) (options : Fields) :
    Except Fault (Engine × LogSetup) := do
  if (options.get? pathArgument).isSome then .error .unsuitableValue
  else if path == "" then return (← Engine.ofConfig (.object options), setup)
  else
    let settings ← tree.loadSettings (some path) "."
    let setup ← setup.configure settings.logLevel
    let fields ← settings.engineFields
    return (← Engine.ofConfig (.object (fields.setAll options)), setup)

end FileTree

end QueryLint
