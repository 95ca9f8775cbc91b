import NodeBus.Host.PathText
import NodeBus.Host.SystemError

/-!
# Files

The files a daemon can see: a tree of names in which every entry stands in a directory. A path is followed
part by part, and every part but the last must be a directory that is there, also when the next one goes
back up. What the last part may be depends on what is done with it.
-/
namespace NodeBus

inductive FileKind where
  | file (contents : List UInt8)
  | directory
  | socket
  deriving DecidableEq, Repr

structure FileEntry where
  kind : FileKind
  mode : Nat
  deriving DecidableEq, Repr

/-- A place in the tree: the names that lead to it from the root. -/
abbrev Location := List String

/-- Where a path leads, before it is known whether anything is there. -/
inductive Target where
  /-- A directory that was reached, since the path names none behind it. -/
  | directory (location : Location)
  /-- A name in a directory that was reached, and whether a slash follows the name. -/
  | name (parent : Location) (name : String) (slashed : Bool)
  deriving DecidableEq, Repr

/-- The entries by place, and the directory in which paths begin that do not begin at the root. -/
structure Files where
  entry? : Location → Option FileEntry := fun _ => none
  workingDirectory : Location := []

namespace Files

/-- Is there a directory at this place? The working directory and all above it are always there. -/
def isDirectory (files : Files) (location : Location) : Bool :=
  location.isPrefixOf files.workingDirectory ||
    match files.entry? location with
    | some { kind := .directory, .. } => true
    | _ => false

def hasEntry (files : Files) (location : Location) : Bool :=
  files.isDirectory location || (files.entry? location).isSome

def maxName : Nat := 255

def maxPath : Nat := 4095

def lookUp (parent : Location) (name : String) : Except SystemError Location :=
  if maxName < name.utf8ByteSize then .error .nameTooLong else .ok (parent ++ [name])

/-- Goes on from a directory to the one that a part of a path stands for. -/
def enter (files : Files) (location : Location) : PathPart → Except SystemError Location
  | .same => .ok location
  | .parent => .ok location.dropLast
  | .name name => do
    let inner ← lookUp location name
    if files.isDirectory inner then .ok inner
    else if files.hasEntry inner then .error .notDirectory
    else .error .notFound

def follow (files : Files) (slashed : Bool) (location : Location) :
    List PathPart → Except SystemError Target
  | [] => .ok (.directory location)
  | [.name name] => .ok (.name location name slashed)
  | part :: rest => do
    let inner ← files.enter location part
    follow files slashed inner rest

def target (files : Files) (text : String) : Except SystemError Target :=
  if text.toList.contains '\x00' then .error .nulInPath
  else if text = "" then .error .notFound
  else if maxPath < text.utf8ByteSize then .error .nameTooLong
  else
    let path := PathText.ofText text
    files.follow path.slashed (if path.fromRoot then [] else files.workingDirectory) path.parts

/-- The place of what a path leads to, which must be there. With a slash behind it, it must be a
directory. -/
def find (files : Files) (text : String) : Except SystemError Location := do
  match ← files.target text with
  | .directory location => .ok location
  | .name parent name slashed =>
    let location ← lookUp parent name
    if files.isDirectory location then .ok location
    else if !files.hasEntry location then .error .notFound
    else if slashed then .error .notDirectory
    else .ok location

def put (files : Files) (location : Location) (entry : Option FileEntry) : Files :=
  { files with entry? := fun other => if other = location then entry else files.entry? other }

end Files

end NodeBus
