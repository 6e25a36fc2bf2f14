import TenantRoutes.Files.Error
import TenantRoutes.Text.Ascii
/-! A tree of files, as far as a program with a working directory can see it. Files are kept by the
names on the way to them. A directory is there when something lies in it, and the working directory
always is. -/
namespace TenantRoutes

/-- The names from the top of the tree to a place. -/
abbrev Location := List String

structure FileTree where
  workingDirectory : Location
  files : List (Location × ByteArray)

/-- What a path leads to. -/
inductive FileTree.Place where
  | directory
  | file (location : Location) (content : ByteArray)
  /-- Nothing, but a file may be made there. -/
  | vacant (location : Location)
  /-- No directory, though slashes after the last name ask for one. The failure is that of reading
  there. -/
  | slashed (failure : FileError)

namespace FileTree

def content? (tree : FileTree) (location : Location) : Option ByteArray :=
  (tree.files.find? fun file => file.1 == location).map (·.2)

def isDirectory (tree : FileTree) (location : Location) : Bool :=
  location.isPrefixOf tree.workingDirectory
    || tree.files.any fun file => location.isPrefixOf file.1 && location != file.1

/-- The failure at a name that leads to no directory, with the names after it. If these are all
empty, the path ends in slashes. -/
def stopAt (failure : FileError) (rest : List String) : Except FileError Place :=
  if !rest.isEmpty && rest.all (· == "") then .ok (.slashed failure) else .error failure

/-- Follow the names of a path from a directory. -/
def walk (tree : FileTree) (directory : Location) : List String → Except FileError Place
  | [] => .ok .directory
  | name :: rest =>
    if name = "" ∨ name = "." then tree.walk directory rest
    else if name = ".." then tree.walk directory.dropLast rest
    else if 255 < name.utf8ByteSize then stopAt .nameTooLong rest
    else
      let location := directory ++ [name]
      if tree.isDirectory location then tree.walk location rest
      else
        match tree.content? location with
        | some content =>
          if rest.isEmpty then .ok (.file location content) else stopAt .notDirectory rest
        | none => if rest.isEmpty then .ok (.vacant location) else stopAt .notFound rest

/-- The greatest number of bytes of a path. -/
def maxPathSize : Nat := 4095

/-- What a path leads to. A path that begins with a slash starts at the top of the tree. -/
def place (tree : FileTree) (path : String) : Except FileError Place :=
  if maxPathSize < path.utf8ByteSize then .error .nameTooLong
  else
    let start := if path.toList.head? = some '/' then [] else tree.workingDirectory
    tree.walk start ((Text.pieces '/' path.toList).map String.ofList)

/-- The content of the file at a path. -/
def read (tree : FileTree) (path : String) : Except FileError ByteArray := do
  match ← tree.place path with
  | .file _ content => .ok content
  | .directory => .error .isDirectory
  | .vacant _ => .error .notFound
  | .slashed failure => .error failure

/-- The tree with a file at a location. -/
def put (tree : FileTree) (location : Location) (content : ByteArray) : FileTree :=
  { tree with
    files := (tree.files.filter fun file => file.1 != location) ++ [(location, content)] }

/-- The tree after a file at a path was written, or made in a directory that is there. -/
def write (tree : FileTree) (path : String) (content : ByteArray) : Except FileError FileTree := do
  match ← tree.place path with
  | .file location _ | .vacant location => .ok (tree.put location content)
  | .directory | .slashed _ => .error .isDirectory

/-- The files below the working directory that another tree does not hold with the same content, by
their paths from there. -/
def changesSince (before after : FileTree) : List (String × ByteArray) :=
  after.files.filterMap fun (location, content) =>
    if after.workingDirectory.isPrefixOf location && before.content? location != some content then
      some ("/".intercalate (location.drop after.workingDirectory.length), content)
    else none

end FileTree

end TenantRoutes
