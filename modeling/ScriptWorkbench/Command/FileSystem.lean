import ScriptWorkbench.Bytes
import ScriptWorkbench.Text.Line
import ScriptWorkbench.Text.Quoted
import ScriptWorkbench.Text.Utf8

/-!
# Files

The part of the file system that a command sees: the files and directories
below the working directory, as they are when it starts. A path is its list of
components, which is walked from the working directory. Where the walk ends is
a place; a place is a path too, the only one that leads there without turning
back.
-/

namespace ScriptWorkbench

abbrev FilePath := List String

namespace FilePath

/-- The root that a text starts from. Two slashes are told apart from one, and
from three and more, although all of them lead to the same place. -/
def rootOf : List Char → FilePath
  | '/' :: '/' :: '/' :: _ => ["/"]
  | '/' :: '/' :: _ => ["//"]
  | '/' :: _ => ["/"]
  | _ => []

/-- Empty components and those that are a single point say nothing. The root
is a component of its own. -/
def ofText (text : String) : FilePath :=
  let pieces := (text.toList.splitOn '/').filter fun piece => piece ≠ [] && piece ≠ ['.']
  rootOf text.toList ++ pieces.map String.ofList

def text : FilePath → String
  | [] => "."
  | "/" :: components => "/" ++ "/".intercalate components
  | "//" :: components => "//" ++ "/".intercalate components
  | components => "/".intercalate components

example : (ofText "./a//b.asm").text = "a/b.asm" := by decide

example : (ofText "//a").text = "//a" ∧ (ofText "///a").text = "/a" := by decide

/-- The directories on the way to a path. -/
def ancestors (path : FilePath) : List FilePath :=
  (List.range path.length).map fun length => path.take length

/-- Goes on from a place by one component. Two points lead back to where the
place lies, and the root lies in itself. -/
def enter (place : FilePath) (component : String) : FilePath :=
  if component = "//" then ["/"]
  else if component = ".." then
    match place.getLast? with
    | none | some ".." => place ++ [".."]
    | some "/" => place
    | some _ => place.dropLast
  else place ++ [component]

def place (path : FilePath) : FilePath := path.foldl enter []

example : (ofText "sub/../../b").place = ["..", "b"] := by decide

/-- Whether a place is at or below the working directory. -/
def isBelow (place : FilePath) : Bool :=
  place.head? != some "/" && place.head? != some ".."

end FilePath

inductive FileError where
  | missing (path : FilePath)
  | isDirectory (path : FilePath)
  | notDirectory (path : FilePath)
  | nameTooLong (path : FilePath)
  deriving DecidableEq

def FileError.message : FileError → String
  | .missing path => "[Errno 2] No such file or directory: " ++ Text.quoted path.text
  | .isDirectory path => "[Errno 21] Is a directory: " ++ Text.quoted path.text
  | .notDirectory path => "[Errno 20] Not a directory: " ++ Text.quoted path.text
  | .nameTooLong path => "[Errno 36] File name too long: " ++ Text.quoted path.text

inductive FileEntry where
  | file (content : Bytes)
  | directory
  deriving DecidableEq

/-- The files and directories, each at its place. -/
structure FileSystem where
  files : List (FilePath × Bytes) := []
  directories : List FilePath := []

namespace FileSystem

/-- The most bytes that the name of a file may have. -/
def nameLimit : Nat := 255

/-- The most bytes that a path may have. -/
def pathLimit : Nat := 4095

/-- The files with the given names, and the directories that hold them. -/
def ofFiles (files : List (String × Bytes)) : FileSystem :=
  let placed := files.map fun (name, content) => ((FilePath.ofText name).place, content)
  { files := placed, directories := placed.flatMap fun (place, _) => place.ancestors }

/-- What stands at a place. The working directory, those that hold it and the
root are always there. -/
def entryAt? (system : FileSystem) (place : FilePath) : Option FileEntry :=
  match system.files.lookup place with
  | some content => some (.file content)
  | none =>
    let given := place.all fun component => component = ".." || component = "/"
    if given || system.directories.contains place then some .directory else none

/-- What ends the walk along a path before its last component is looked up. -/
def obstacle? (system : FileSystem) (path : FilePath) : Option FileError :=
  if pathLimit < path.text.utf8ByteSize then some (.nameTooLong path)
  else
    (path.ancestors.zip path).findSome? fun (ancestor, component) =>
      match system.entryAt? ancestor.place with
      | none => some (.missing path)
      | some (.file _) => some (.notDirectory path)
      | some .directory =>
        if nameLimit < component.utf8ByteSize then some (.nameTooLong path) else none

/-- What a path leads to, if nothing is in the way. -/
def find? (system : FileSystem) (path : FilePath) : Except FileError (Option FileEntry) :=
  match system.obstacle? path with
  | some error => .error error
  | none => .ok (system.entryAt? path.place)

/-- Whether a text can name a directory only, because nothing or a single point
stands behind its last slash. -/
def namesDirectory (text : String) : Bool :=
  match (text.toList.splitOn '/').getLast? with
  | some [] | some ['.'] => true
  | _ => false

/-- What stands at a path given as text, of which the empty one names
nothing. -/
def named? (system : FileSystem) (text : String) : Option FileEntry :=
  if text = "" || pathLimit < text.utf8ByteSize then none
  else
    match system.find? (.ofText text) with
    | .ok (some (.file content)) => if namesDirectory text then none else some (.file content)
    | .ok entry => entry
    | .error _ => none

def read (system : FileSystem) (path : FilePath) : Except FileError Bytes :=
  match system.find? path with
  | .ok (some (.file content)) => .ok content
  | .ok (some .directory) => .error (.isDirectory path)
  | .ok none => .error (.missing path)
  | .error error => .error error

/-- A file can be written where one stands, or where a directory has room for
it. -/
def checkWritable (system : FileSystem) (path : FilePath) : Except FileError Unit :=
  match system.find? path with
  | .ok (some .directory) => .error (.isDirectory path)
  | .ok _ => .ok ()
  | .error error => .error error

end FileSystem

/-- The text in a file, with its line ends unified. A byte order mark stays. -/
def decodeFileText (content : Bytes) : Except Text.Utf8Fault String :=
  (Text.decodeUtf8 content).map fun text => String.ofList (Text.unifyLineEnds text)

end ScriptWorkbench
