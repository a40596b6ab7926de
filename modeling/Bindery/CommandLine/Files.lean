import Bindery.Text.Quoted
import Bindery.Text.Search

/-! # Files

Paths, the faults of reading and writing, and a directory of files as a value.
-/

namespace Bindery.CommandLine

open Text

/-- The parts of a path, without those that mean the directory itself. -/
def pathParts (path : String) : List String :=
  ((fields '/' path.toList).map String.ofList).filter fun p => !p.isEmpty && p != "."

/-- What a path begins with: the root, which two slashes name too, or nothing. -/
def pathRoot (path : String) : String :=
  match path.toList with
  | '/' :: '/' :: '/' :: _ => "/"
  | '/' :: '/' :: _ => "//"
  | '/' :: _ => "/"
  | _ => ""

/-- A path without empty and idle parts; the empty path is the directory itself. -/
def normalPath (path : String) : String :=
  let p := pathRoot path ++ "/".intercalate (pathParts path)
  if p.isEmpty then "." else p

/-- What can go wrong with a file. -/
inductive FileFault
  | missing
  | isDirectory
  | notDirectory
  /-- A part of the path, or all of it, has too many bytes. -/
  | nameTooLong
  /-- The path holds a null character. -/
  | nullInPath
  /-- The file is not a text. -/
  | undecodable
deriving DecidableEq

/-- What the system says of a fault, where it is one that the system reports. -/
def FileFault.systemText? : FileFault → Option String
  | missing => some "[Errno 2] No such file or directory"
  | isDirectory => some "[Errno 21] Is a directory"
  | notDirectory => some "[Errno 20] Not a directory"
  | nameTooLong => some "[Errno 36] File name too long"
  | nullInPath => none
  | undecodable => none

/-- The report of the system on a path. -/
def FileFault.report? (f : FileFault) (path : String) : Option String :=
  f.systemText?.map fun s => s ++ ": " ++ quoted (normalPath path)

/-- What a path leads to. -/
inductive Node
  | directory
  | file (text : String)
  /-- A file that is not a text. -/
  | binary
  /-- What is always empty and keeps nothing of what is written to it. -/
  | sink
deriving DecidableEq

/-- A directory: places and what is there. A place is a path without steps up. -/
abbrev FileTree := List (String × Node)

/-- Goes one step on, from a place that is given by its parts, the last first. A step up undoes the
step before it, or leaves the directory. -/
def step (parts : List String) (part : String) : List String :=
  match parts with
  | [] => [part]
  | ".." :: _ => part :: parts
  | _ :: rest => if part = ".." then rest else part :: parts

/-- The place that a path leads to. -/
def place (path : String) : String :=
  let root := if (pathRoot path).isEmpty then "" else "/"
  normalPath (root ++ "/".intercalate ((pathParts path).foldl step []).reverse)

/-- Whether a place is in the directory that paths start from. -/
def isWithin (place : String) : Bool :=
  (pathRoot place).isEmpty && (pathParts place).head? != some ".."

namespace FileTree

/-- What a path leads to. The directory itself, the root, and the directories around are there. -/
def node? (t : FileTree) (path : String) : Option Node :=
  let p := place path
  if p = "." || (pathParts p).all (· == "..") then some .directory
  else (t.find? fun e => e.1 == p).map (·.2)

/-- The paths on the way to a path, the outermost first. -/
def ancestors (path : String) : List String :=
  let parts := pathParts path
  (List.range (parts.length - 1)).map fun n =>
    pathRoot path ++ "/".intercalate (parts.take (n + 1))

/-- Whether the last part of a path has more bytes than a name may have. -/
def endsTooLong (path : String) : Bool :=
  (pathParts path).getLast?.any fun part => 255 < part.utf8ByteSize

/-- The first fault on the way to a path. A path that is too long as a whole is not looked at. -/
def wayFault? (t : FileTree) (path : String) : Option FileFault :=
  if path.toList.contains '\x00' then some .nullInPath
  else if 4095 < (normalPath path).utf8ByteSize then some .nameTooLong
  else
    match (ancestors path).findSome? (stepFault? t) with
    | some f => some f
    | none => if endsTooLong path then some .nameTooLong else none
where
  /-- What hinders a step through a path. -/
  stepFault? (t : FileTree) (p : String) : Option FileFault :=
    if endsTooLong p then some .nameTooLong
    else
      match t.node? p with
      | some .directory => none
      | some _ => some .notDirectory
      | none => some .missing

/-- The text of a file. -/
def read (t : FileTree) (path : String) : Except FileFault String :=
  match t.wayFault? path with
  | some f => .error f
  | none =>
    match t.node? path with
    | none => .error .missing
    | some .directory => .error .isDirectory
    | some .binary => .error .undecodable
    | some .sink => .ok ""
    | some (.file text) => .ok text

/-- Puts a file in the place of the one at a path, or adds it. -/
def put (t : FileTree) (path text : String) : FileTree :=
  let p := place path
  t.filter (fun e => e.1 != p) ++ [(p, .file text)]

/-- Writes a file. -/
def write (t : FileTree) (path text : String) : Except FileFault FileTree :=
  match t.wayFault? path with
  | some f => .error f
  | none =>
    match t.node? path with
    | some .directory => .error .isDirectory
    | some .sink => .ok t
    | _ => .ok (t.put path text)

end FileTree

end Bindery.CommandLine
