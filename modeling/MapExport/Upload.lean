import MapExport.Text.Utf8

/-!
# Uploaded files

Configuration files lie below a root, and a configuration names its file by a path. The path is put
behind the root, unless it is absolute and stands for itself. Files are read as text, and what can go
wrong with that is told as the system tells it.
-/

set_option autoImplicit false

namespace MapExport.Upload

/-- **The path of an uploaded file.** -/
def join (root path : String) : String :=
  if path.startsWith "/" then path
  else if root = "" || root.endsWith "/" then root ++ path
  else root ++ "/" ++ path

/-- **What can go wrong** with reading a file. -/
inductive Fault where
  | missing
  | directory
  | notDirectory
  | notText
  | longName
  | nulInPath
  deriving DecidableEq, Repr

/-- The text of a fault. -/
def Fault.message : Fault → String
  | .missing => "No such file or directory (os error 2)"
  | .directory => "Is a directory (os error 21)"
  | .notDirectory => "Not a directory (os error 20)"
  | .notText => "stream did not contain valid UTF-8"
  | .longName => "File name too long (os error 36)"
  | .nulInPath => "file name contained an unexpected NUL byte"

/-- **Files in memory,** for trials: the bytes of each, by the names on the path from the root. -/
abbrev Files := List (List String × List UInt8)

/-- **Where a path has led so far:** below the root, or to a directory outside of it, in which no file
is known. -/
inductive Place where
  | below (names : List String)
  | outside
  deriving DecidableEq, Repr

/-- The names on a path; empty ones and the dot lead nowhere else. -/
def names (path : String) : List String :=
  (path.splitOn "/").filter fun n => n != "" && n != "."

/-- Where a path begins: an absolute one outside, any other at the root. -/
def startOf (path : String) : Place := if path.startsWith "/" then .outside else .below []

/-- Whether a directory lies at a place. -/
def Files.isDirectory (files : Files) : Place → Bool
  | .outside => true
  | .below [] => true
  | .below place => files.any fun (p, _) => place.length < p.length && place.isPrefixOf p

/-- The bytes of the file at a place. -/
def Files.bytes? (files : Files) : Place → Option (List UInt8)
  | .outside => none
  | .below place => (files.find? (·.1 == place)).map (·.2)

/-- The longest name in bytes. -/
def longestName : Nat := 255

/-- The place one level up. -/
def Place.up : Place → Place
  | .outside => .outside
  | .below [] => .outside
  | .below place => .below place.dropLast

/-- One step from a directory. -/
def Place.step (n : String) (place : Place) : Except Fault Place :=
  if n = ".." then .ok place.up
  else if longestName < n.utf8ByteSize then .error .longName
  else
    match place with
    | .outside => .error .missing
    | .below place => .ok (.below (place ++ [n]))

/-- Walks along the names from a place, through directories only. -/
def Files.walk (files : Files) : Place → List String → Except Fault Place
  | place, [] => .ok place
  | place, n :: rest =>
    if files.isDirectory place then do files.walk (← place.step n) rest
    else .error (if (files.bytes? place).isSome then .notDirectory else .missing)

/-- Whether a path asks for a directory: its last name is empty or a dot. -/
def asksDirectory (path : String) : Bool :=
  path.endsWith "/" || path.endsWith "/." || path == "."

/-- **Reading a file,** its path taken from the root. -/
def Files.read (files : Files) (path : String) : Except Fault String := do
  if path.toList.contains (Char.ofNat 0) then .error .nulInPath
  let place ← files.walk (startOf path) (names path)
  if files.isDirectory place then .error .directory
  else
    match files.bytes? place with
    | none => .error .missing
    | some bytes =>
      if asksDirectory path then .error .notDirectory
      else
        match Text.textOfBytes? bytes with
        | some s => .ok s
        | none => .error .notText

end MapExport.Upload
