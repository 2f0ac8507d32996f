import Recast.Text.Pieces
import Recast.Text.Quoted

/-!
# Files — the files that a command may read and write

A path is followed name by name from where it starts, and every name on the way has to lead to a
directory that is there; two dots lead back to the directory that holds it. So the same file may be
named by several paths, and a path may lead nowhere although a shorter one for it would not. Files
are kept under the paths that take no way back. The name of the working directory itself is not
known: a path from the root, or from above, leads to other files.

A directory is there if a file is under it, or if it has been made. Whatever a command does to the
files is a list of changes.
-/

namespace Recast

/-! ## Paths -/

/-- A path: the names on it, and the slashes it starts with if it starts at the root. -/
structure Path where
  root : String := ""
  names : List String
deriving Repr, DecidableEq, Inhabited

namespace Path

/-- The path that a text writes. Empty names and single dots lead nowhere else. -/
def ofText (text : String) : Path :=
  let slashes := (text.toList.takeWhile (· == '/')).length
  let root := if slashes == 0 then "" else if slashes == 2 then "//" else "/"
  let names := (Text.pieces '/' text.toList).map String.ofList
  { root, names := names.filter fun name => name != "" && name != "." }

/-- The path in its shortest form. -/
def toText (path : Path) : String :=
  if path.root == "" && path.names.isEmpty then "."
  else path.root ++ "/".intercalate path.names

/-- The path without its last name. -/
def parent (path : Path) : Path := { path with names := path.names.dropLast }

/-- The path leads to a directory on the way to the other. -/
def isAbove (path other : Path) : Bool :=
  path.root == other.root && path != other && path.names.isPrefixOf other.names

/-- The path and all paths on the way to it, the outermost first. -/
def ancestry (path : Path) : List Path :=
  (List.range (path.names.length + 1)).map fun n => { path with names := path.names.take n }

/-- Where the path starts: at the root, or in the working directory. -/
def start (path : Path) : Path := { root := if path.root == "" then "" else "/", names := [] }

/-- The path leads to where it starts, or above. -/
def isOutermost (path : Path) : Bool := path.names.all (· == "..")

/-- Where a name leads from a directory. The root is held by itself. -/
def step (directory : Path) (name : String) : Path :=
  if name != ".." || directory.isOutermost && directory.root == "" then
    { directory with names := directory.names ++ [name] }
  else directory.parent

end Path

/-! ## Faults -/

/-- Why a file cannot be read or written. -/
inductive FileFault
  | absent (path : String)
  | exists (path : String)
  | notDirectory (path : String)
  | isDirectory (path : String)
deriving Repr, DecidableEq

/-- What is said about the fault. -/
def FileFault.message : FileFault → String
  | .absent path => "[Errno 2] No such file or directory: " ++ Text.quoted path
  | .exists path => "[Errno 17] File exists: " ++ Text.quoted path
  | .notDirectory path => "[Errno 20] Not a directory: " ++ Text.quoted path
  | .isDirectory path => "[Errno 21] Is a directory: " ++ Text.quoted path

/-- Why a path cannot be followed to its end. -/
inductive DeadEnd
  /-- A directory on the way is not there. -/
  | missing
  /-- A file stands where a directory would have to be. -/
  | file
deriving Repr, DecidableEq

/-- The fault of a path that cannot be followed. -/
def DeadEnd.fault (path : Path) : DeadEnd → FileFault
  | .missing => .absent path.toText
  | .file => .notDirectory path.toText

/-! ## Files -/

/-- Something that is done to the files. -/
inductive Change
  | makeDirectory (path : Path)
  | write (path : Path) (content : List UInt8)
deriving Repr, DecidableEq

/-- Files under their paths, and directories that may be empty. -/
structure Files where
  contents : List (Path × List UInt8)
  directories : List Path := []

/-- What a path leads to. -/
inductive Place
  | file (content : List UInt8)
  | directory
  | nothing
deriving Repr, DecidableEq

/-- What was done, and the fault that ended it if one did. -/
structure Effort where
  changes : List Change := []
  fault : Option FileFault := none
deriving Repr, DecidableEq

namespace Files

/-- The content of the file that is kept under the path. -/
def content? (files : Files) (path : Path) : Option (List UInt8) := files.contents.lookup path

/-- What is kept under the path. -/
def standing (files : Files) (path : Path) : Place :=
  match files.content? path with
  | some content => .file content
  | none =>
    if path.isOutermost || files.directories.any (fun d => d == path || path.isAbove d) ||
        files.contents.any (fun file => path.isAbove file.1) then .directory
    else .nothing

/-- Where names lead from a place. -/
def follow (files : Files) : (place : Path) → List String → Except DeadEnd Path
  | place, [] => .ok place
  | place, name :: names =>
    match files.standing place with
    | .directory => files.follow (place.step name) names
    | .file _ => .error .file
    | .nothing => .error .missing

/-- The path under which is kept what the path leads to. -/
def locate (files : Files) (path : Path) : Except DeadEnd Path :=
  files.follow path.start path.names

/-- What the path leads to. -/
def place (files : Files) (path : Path) : Except DeadEnd Place :=
  return files.standing (← files.locate path)

/-- The path leads to something. -/
def holds (files : Files) (path : Path) : Bool :=
  match files.place path with
  | .ok (.file _) | .ok .directory => true
  | .ok .nothing | .error _ => false

/-! ## Changes -/

/-- The files after a change. -/
def change (files : Files) : Change → Files
  | .makeDirectory path => { files with directories := files.directories ++ [path] }
  | .write path content =>
    if (files.content? path).isSome then
      { files with
        contents := files.contents.map fun file =>
          if file.1 == path then (path, content) else file }
    else { files with contents := files.contents ++ [(path, content)] }

/-- The files after some changes. -/
def apply (files : Files) (changes : List Change) : Files := changes.foldl change files

/-- What is done next follows what is done first, unless that ended with a fault. -/
def andThen (files : Files) (first : Effort) (next : Files → Effort) : Effort :=
  if first.fault.isSome then first
  else
    let second := next (files.apply first.changes)
    { second with changes := first.changes ++ second.changes }

/-- Writing a file of these bytes. It is opened first, and a fault there leaves everything as it
was; bytes that are there can be written. -/
def write (files : Files) (path : Path) (content : List UInt8) : Effort :=
  match files.locate path with
  | .error deadEnd => { fault := some (deadEnd.fault path) }
  | .ok place =>
    if files.standing place = .directory then { fault := some (.isDirectory path.toText) }
    else { changes := [.write place content] }

/-- Making a directory where there is none. -/
def makeDirectory (files : Files) (path : Path) : Effort :=
  match files.locate path with
  | .error deadEnd => { fault := some (deadEnd.fault path) }
  | .ok place =>
    match files.standing place with
    | .directory => {}
    | .file _ => { fault := some (.exists path.toText) }
    | .nothing => { changes := [.makeDirectory place] }

/-- Making the directory to which names lead, the last name first, and those on the way if one of
them is missing. -/
def makeWay (files : Files) (root : String) : List String → Effort
  | [] => files.makeDirectory { root, names := [] }
  | name :: above =>
    let path : Path := { root, names := (name :: above).reverse }
    match files.place path with
    | .error .missing => files.andThen (files.makeWay root above) (·.makeDirectory path)
    | _ => files.makeDirectory path

/-- Making a directory, and those on the way to it. -/
def makeDirectories (files : Files) (path : Path) : Effort :=
  files.makeWay path.root path.names.reverse

end Files

end Recast
