import RemoteNotebook.Settings
import RemoteNotebook.Text.Utf8

/-!
Files below one directory, in memory. A path is looked up name by name, so that what stands before
its last name has to be a directory. Of the rest of the machine only its usual directories are
there.
-/

namespace RemoteNotebook

/-- Files by the names on the way to them. The directories are those on the way to a file and the
one at the start. -/
structure Storage where
  files : List (List String × List UInt8) := []
  deriving Repr

namespace Storage

inductive Entry where
  | missing
  | directory
  | file (bytes : List UInt8)
  deriving DecidableEq, Repr

def root : String := "/"

def systemDirectories : List (List String) :=
  [root] ::
    ["bin", "dev", "etc", "home", "lib", "proc", "root", "tmp", "usr", "var"].map ([root, ·])

def nullDevice : List String := [root, "dev", "null"]

def entry (s : Storage) (names : List String) : Entry :=
  match s.files.lookup names with
  | some bytes => .file bytes
  | none =>
    if names = nullDevice then .file []
    else if names.isEmpty || systemDirectories.contains names ||
        s.files.any (fun f => names.isPrefixOf f.1) then
      .directory
    else .missing

def maxNameSize : Nat := 255

def look (s : Storage) (names : List String) : Except FileFault Entry :=
  if names.getLast?.any (maxNameSize < ·.utf8ByteSize) then .error .nameTooLong
  else .ok (s.entry names)

/-- The names of the directory around one. The one at the start stands in the root. -/
def parent (names : List String) : List String :=
  if names.isEmpty ∨ names = [root] then [root] else names.dropLast

def maxPathSize : Nat := 4095

/-- The names of a path, from the names of a directory on. Every name but the last has to be that of
a directory. -/
def resolve (s : Storage) (names : List String) : List String → Except FileFault (List String)
  | [] => .ok names
  | "" :: parts => resolve s names parts
  | "." :: parts => resolve s names parts
  | ".." :: parts => resolve s (parent names) parts
  | part :: parts =>
    if parts.isEmpty then .ok (names ++ [part])
    else
      match s.look (names ++ [part]) with
      | .ok .directory => resolve s (names ++ [part]) parts
      | .ok (.file _) => .error .notADirectory
      | .ok .missing => .error .notFound
      | .error fault => .error fault

def parts (path : String) : List String :=
  (Endpoint.Domain.splitAll (· = '/') path.toList).map String.ofList

/-- The names of the parts of a path, which begins with a slash if it does not begin at the
start. -/
def locate (s : Storage) (path : String) (parts : List String) : Except FileFault (List String) :=
  if path.toList.contains '\x00' then .error .nulInName
  else if path.isEmpty then .error .notFound
  else if maxPathSize < path.utf8ByteSize then .error .nameTooLong
  else s.resolve (if path.toList.head? = some '/' then [root] else []) parts

def find (s : Storage) (path : String) : FileBytes := do
  let names ← s.locate path (parts path)
  match ← s.look names with
  | .missing => .error .notFound
  | .directory => .error .isDirectory
  | .file bytes => .ok bytes

/-- The file under a path, written anew. A path with a slash at its end is that of a directory. -/
def write (s : Storage) (path : String) (bytes : List UInt8) : Except FileFault Storage := do
  let names ← s.locate path ((parts path).reverse.dropWhile (·.isEmpty)).reverse
  if path.toList.getLast? = some '/' then throw .isDirectory
  if (← s.look names) = .directory then throw .isDirectory
  if names = nullDevice then return s
  return ⟨(names, bytes) :: s.files.filter (·.1 != names)⟩

end Storage
end RemoteNotebook
