import TenantRoutes.Policy.Load
import TenantRoutes.Text.Ascii
/-! Revisions of a policy file. The directory of the file is watched, and the system reports its
changes as events. Of these only creations and modifications on the name of the policy are looked
at: the file is read as it then is, and its policy is published if it is accepted. The content
before the first change is never looked at. -/
namespace TenantRoutes

/-- The content of the policy file, or its absence. -/
abbrev PolicyFile := Option ByteArray

/-- The policy of a file as it is. -/
def PolicyFile.load (file : PolicyFile) : Except LoadError Policy :=
  Policy.load
    (match file with
    | none => .error .notFound
    | some content => .ok content)

/-- What comes of a change. -/
inductive Notice where
  | published (policy : Policy)
  | rejected (error : LoadError)
  | ignored

/-- The notice of a policy file that is looked at. -/
def PolicyFile.notice (file : PolicyFile) : Notice :=
  match file.load with
  | .ok policy => .published policy
  | .error error => .rejected error

/-- A change in the directory of the policy file. -/
inductive FileChange where
  /-- A file is moved over the policy file. -/
  | put (content : ByteArray)
  /-- The policy file is created. -/
  | create (content : ByteArray)
  /-- A file with another name is moved into the directory. -/
  | other
  | remove
  /-- The policy file is renamed. -/
  | moveAway

namespace FileChange

/-- The policy file after a change. -/
def apply (change : FileChange) (file : PolicyFile) : PolicyFile :=
  match change with
  | put content | create content => some content
  | other => file
  | remove | moveAway => none

/-- Whether a change of the policy file, as it was before, takes place. A file that is not there can
be neither removed nor renamed. -/
def takesPlace (change : FileChange) (before : PolicyFile) : Bool :=
  match change with
  | put _ | create _ | other => true
  | remove | moveAway => before.isSome

end FileChange

/-- What an event of a directory says that happened. Renaming a file modifies both its names. -/
inductive EventKind where
  | any
  | access
  | create
  | modify
  | remove
  | other
deriving DecidableEq

structure DirectoryEvent where
  kind : EventKind
  paths : List String

/-- The last name of a path, if it leads to a name. -/
def fileName? (path : String) : Option String :=
  let names := (Text.pieces '/' path.toList).filter fun name => name != [] && name != ['.']
  match names.getLast? with
  | none | some ['.', '.'] => none
  | some name => some (String.ofList name)

/-- A watch of the directory of a policy file. Which event reports a change is up to the system. -/
structure DirectoryWatch where
  /-- The path of the policy file. -/
  path : String
  reports : FileChange → DirectoryEvent

namespace DirectoryWatch

/-- The name of the policy file. Without one it is empty, and no event is about it. -/
def policyName (watch : DirectoryWatch) : String :=
  (fileName? watch.path).getD ""

/-- Creations, writes and renames that land on the name of the policy file. -/
def touches (watch : DirectoryWatch) (event : DirectoryEvent) : Bool :=
  (event.kind == .modify || event.kind == .create)
    && event.paths.any fun path => fileName? path == some watch.policyName

/-- What comes of an event, with the policy file as it is when the event is handled. -/
def react (watch : DirectoryWatch) (event : DirectoryEvent) (file : PolicyFile) : Notice :=
  if watch.touches event then file.notice else .ignored

/-- What comes of a change of the policy file as it was before. -/
def notice (watch : DirectoryWatch) (change : FileChange) (before : PolicyFile) : Notice :=
  if change.takesPlace before then watch.react (watch.reports change) (change.apply before)
  else .ignored

/-- What comes of changes that happen one after the other, each handled before the next. -/
def notices (watch : DirectoryWatch) (file : PolicyFile) : List FileChange → List Notice
  | [] => []
  | change :: rest =>
    watch.notice change file :: watch.notices (change.apply file) rest

end DirectoryWatch

namespace FileChange

/-- The event that reports a change of the file at a path. Another name is the path with a mark of a
temporary file. -/
def event (path : String) (change : FileChange) : DirectoryEvent :=
  match change with
  | put _ | moveAway => { kind := .modify, paths := [path] }
  | create _ => { kind := .create, paths := [path] }
  | other => { kind := .modify, paths := [path ++ ".swp"] }
  | remove => { kind := .remove, paths := [path] }

/-- What comes of changes of a policy file with the usual name. -/
def notices (file : PolicyFile) (changes : List FileChange) : List Notice :=
  DirectoryWatch.notices { path := "sites.toml", reports := event "sites.toml" } file changes

end FileChange

end TenantRoutes
