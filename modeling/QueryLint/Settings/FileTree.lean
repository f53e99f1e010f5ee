import QueryLint.Fault

/-! Directories and files, and the paths that lead to them. -/
namespace QueryLint

/-- A path as it is written, without empty parts and single dots. -/
structure PathText where
  absolute : Bool
  parts : List String
deriving DecidableEq, Repr

namespace PathText

def slashParts : List Char → List (List Char)
  | [] => [[]]
  | c :: text =>
    match slashParts text with
    | [] => [[c]]
    | part :: parts => if c == '/' then [] :: part :: parts else (c :: part) :: parts

def ofString (text : String) : PathText where
  absolute := text.toList.head? == some '/'
  parts := ((slashParts text.toList).map String.ofList).filter fun part => part != "" && part != "."

def display (path : PathText) : String :=
  let body := "/".intercalate path.parts
  if path.absolute then "/" ++ body else if path.parts.isEmpty then "." else body

def size (path : PathText) : Nat := path.display.utf8ByteSize

def holdsEnd (path : PathText) : Bool := path.parts.any fun part => part.toList.contains '\x00'

/-- The end of the last part from its last dot on; a dot at either end of it does not count. -/
def suffix (path : PathText) : String :=
  let name := (path.parts.getLast?.getD "").toList.reverse
  let tail := name.takeWhile (· != '.')
  match name.drop tail.length with
  | '.' :: _ :: _ => if tail.isEmpty then "" else String.ofList ('.' :: tail.reverse)
  | _ => ""

end PathText

inductive FileEntry where
  | file (text : String)
  | directory

/-- Files and directories by their names from the root on, and the working directory. -/
structure FileTree where
  entries : List (List String × FileEntry)
  here : List String

namespace FileTree

/-- A file, or a directory, which may be there only because something is in it. -/
def find? (tree : FileTree) (path : List String) : Option FileEntry :=
  match tree.entries.lookup path with
  | some entry => some entry
  | none =>
    if path.isPrefixOf tree.here || tree.entries.any (fun entry => path.isPrefixOf entry.1)
    then some .directory else none

def isDirectory (tree : FileTree) (path : List String) : Bool :=
  match tree.find? path with
  | some .directory => true
  | _ => false

def nameLimit : Nat := 255

/-- Paths have fewer bytes than this. -/
def pathLimit : Nat := 4096

/-- Where the parts of a path lead from a directory; every part but the last has to lead to a
directory, and `..` leads to the one above. A name that is too long cannot be looked for. -/
def walk (tree : FileTree) (path : List String) : List String → Except Fault (Option (List String))
  | [] => .ok (some path)
  | part :: parts =>
    if !tree.isDirectory path then .ok none
    else if part == ".." then tree.walk path.dropLast parts
    else if nameLimit < part.utf8ByteSize then .error .pathTooLong
    else if (tree.find? (path ++ [part])).isSome then tree.walk (path ++ [part]) parts
    else .ok none

def open? (tree : FileTree) (path : PathText) : Except Fault (Option FileEntry) :=
  if path.holdsEnd then .ok none
  else if pathLimit ≤ path.size then .error .pathTooLong
  else
    (tree.walk (if path.absolute then [] else tree.here) path.parts).map fun found =>
      found.bind tree.find?

/-- The place that a written path names, whether anything is there or not. -/
def resolve (tree : FileTree) (path : PathText) : Except Fault (List String) :=
  if path.holdsEnd then .error .pathWithEnd
  else .ok (path.parts.foldl
    (fun place part => if part == ".." then place.dropLast else place ++ [part])
    (if path.absolute then [] else tree.here))

def below (here : List String) (files : List (String × String)) (directories : List String) :
    FileTree where
  entries :=
    files.map (fun file => (here ++ (PathText.ofString file.1).parts, .file file.2)) ++
    directories.map (fun name => (here ++ (PathText.ofString name).parts, .directory))
  here := here

end FileTree

end QueryLint
