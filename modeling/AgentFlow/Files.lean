/-!
Files as a value: what the command line and the flow documents see of the disk.

A path is walked from the root or from the working directory. The empty step and `.` stay where they
are, `..` goes to the parent, the root being its own, and every step but the last has to name a
directory. A name is held to a length before it is looked up, and a whole path before it is walked.
-/

namespace AgentFlow

/-- What a file holds: a text, or bytes that are not one. -/
inductive Content where
  | text (s : String)
  | binary (bytes : List UInt8)
deriving DecidableEq, Repr

def Content.ofBytes (bytes : List UInt8) : Content :=
  match String.fromUTF8? ⟨bytes.toArray⟩ with
  | some s => .text s
  | none => .binary bytes

inductive FileError where
  | notFound
  | notDirectory
  | isDirectory
  | nameTooLong
  | nulInName
  | notText
deriving DecidableEq, Repr

def FileError.message : FileError → String
  | .notFound => "No such file or directory (os error 2)"
  | .notDirectory => "Not a directory (os error 20)"
  | .isDirectory => "Is a directory (os error 21)"
  | .nameTooLong => "File name too long (os error 36)"
  | .nulInName => "file name contained an unexpected NUL byte"
  | .notText => "stream did not contain valid UTF-8"

/-- What stands at a spot of the disk. -/
inductive Entry where
  | directory
  | file (content : Content)
deriving DecidableEq, Repr

/-- The known part of the disk. A spot is written as the names on the way from the root, each after a
slash, so that the root is the empty text. -/
structure Files where
  /-- The working directory, where paths start that do not start at the root. -/
  current : String
  entries : List (String × Entry)
deriving DecidableEq, Repr

namespace Files

/-! ### Paths -/

/-- The greatest length of a name, in bytes. -/
def maxName : Nat := 255

/-- The greatest length of a path, in bytes. -/
def maxPath : Nat := 4095

def steps (path : String) : List String := (path.splitOn "/").filter (· ≠ "")

/-- The names in a path. -/
def components (path : String) : List String := (steps path).filter (· ≠ ".")

def isAbsolute (path : String) : Bool := path.startsWith "/"

def parentPath (path : String) : String :=
  (if isAbsolute path then "/" else "") ++ "/".intercalate (components path).dropLast

def child (dir name : String) : String := dir ++ "/" ++ name

def parent (spot : String) : String :=
  String.ofList ((spot.toList.reverse.dropWhile (· ≠ '/')).drop 1).reverse

def checkPath (path : String) : Except FileError Unit :=
  if path.contains '\x00' then .error .nulInName
  else if path.isEmpty then .error .notFound
  else if maxPath < path.utf8ByteSize then .error .nameTooLong
  else .ok ()

/-! ### Entries -/

/-- What stands at a spot; the root is a directory. -/
def entry? (fs : Files) (spot : String) : Option Entry :=
  if spot.isEmpty then some .directory else fs.entries.lookup spot

def isDirectory (fs : Files) (spot : String) : Bool := fs.entry? spot = some .directory

def put (fs : Files) (spot : String) (entry : Entry) : Files :=
  { fs with entries := (spot, entry) :: fs.entries.filter fun e => e.1 ≠ spot }

/-- The spot where a path starts. -/
def origin (fs : Files) (path : String) : String := if isAbsolute path then "" else fs.current

/-- The spot that steps lead to from a directory. The last one need not exist. -/
def resolve (fs : Files) (dir : String) : List String → Except FileError String
  | [] => .ok dir
  | "." :: rest => resolve fs dir rest
  | ".." :: rest => resolve fs (parent dir) rest
  | name :: rest =>
    if maxName < name.utf8ByteSize then .error .nameTooLong
    else if rest.isEmpty then .ok (child dir name)
    else match fs.entry? (child dir name) with
      | some .directory => resolve fs (child dir name) rest
      | some (.file _) => .error .notDirectory
      | none => .error .notFound

/-! ### Reading and writing -/

/-- Reads a file. A slash at the end of the path asks for a directory. -/
def read (fs : Files) (path : String) : Except FileError Content := do
  checkPath path
  let spot ← fs.resolve (fs.origin path) (steps path ++ if path.endsWith "/" then ["."] else [])
  match fs.entry? spot with
  | some (.file content) => return content
  | some .directory => throw .isDirectory
  | none => throw .notFound

def readText (fs : Files) (path : String) : Except FileError String := do
  match ← fs.read path with
  | .text s => return s
  | .binary _ => throw .notText

/-- Writes a file, in a directory that exists. A slash at the end of the path names no file, in any
directory that exists. -/
def write (fs : Files) (path : String) (content : Content) : Except FileError Files := do
  checkPath path
  if path.endsWith "/" then
    let _ ← fs.resolve (fs.origin path) ((steps path).dropLast ++ ["."])
    throw .isDirectory
  let spot ← fs.resolve (fs.origin path) (steps path)
  if fs.isDirectory spot then throw .isDirectory
  return fs.put spot (.file content)

/-- Makes the directories that steps lead through, up to the first obstacle. -/
def grow (fs : Files) (dir : String) : List String → Files
  | [] => fs
  | "." :: rest => grow fs dir rest
  | ".." :: rest => grow fs (parent dir) rest
  | name :: rest =>
    if maxName < name.utf8ByteSize then fs
    else match fs.entry? (child dir name) with
      | some .directory => grow fs (child dir name) rest
      | some (.file _) => fs
      | none => grow (fs.put (child dir name) .directory) (child dir name) rest

/-- Makes a directory and those on the way to it, as far as that can be done. -/
def makeDirectories (fs : Files) (path : String) : Files :=
  match checkPath path with
  | .ok () => fs.grow (fs.origin path) (steps path)
  | .error _ => fs

def inDirectory (path : String) : Files :=
  { (Files.mk "" []).makeDirectories path with current := (steps path).foldl child "" }

/-- The files whose content differs from that in `old`, by their spots. -/
def changedSince (fs old : Files) : List (String × Content) :=
  fs.entries.filterMap fun (spot, entry) =>
    match entry with
    | .directory => none
    | .file content => if old.entry? spot = some entry then none else some (spot, content)

end Files

end AgentFlow
