import DistLock.Config.Error
import DistLock.Config.Json
import DistLock.Config.Toml
import DistLock.Text.Lossy

/-!
# Configuration files

Finds the file for a path, and reads its settings by the kind of file that
its extension names. A path that is no file is tried again with each known
extension behind its last name, in a fixed order. What a path says after that
name is dropped, unless the name has an extension already: a slash behind
that one still asks for something within a directory, of which there is none.
-/

namespace DistLock

/-- The kinds of configuration file that can be read. -/
inductive FileFormat where
  | toml
  | json
  /-- A kind that is known by its extension but not read. -/
  | unread
  deriving DecidableEq, Repr

/-- The extensions, in the order in which they are tried. Texts in JSON
are also texts in YAML and in JSON5, and of these two kinds only such
texts are read. -/
def FileFormat.extensions : List (String × FileFormat) :=
  [("toml", .toml), ("json", .json), ("yaml", .json), ("yml", .json), ("ini", .unread),
    ("ron", .unread), ("json5", .json)]

/-- A directory of files, by their paths within it. -/
structure Directory where
  /-- What the directory itself is called. -/
  name : String
  files : List (String × List UInt8) := []

/-- The pieces of a text between the places where a character stands. -/
def pieces (c : Char) (s : String) : List String := (s.toList.splitOn c).map String.ofList

/-- The parts of a path that count. -/
def pathParts (path : String) : List String :=
  (pieces '/' path).filter fun part => part != "" && part != "."

/-- The name of a path from within the directory. -/
def relativeName (path : String) : String := String.intercalate "/" (pathParts path)

/-- The extension of a file: what follows the last dot of its name, unless
that is the first character. -/
def extension? (path : String) : Option String :=
  match (pathParts path).getLast? with
  | none => none
  | some name =>
    match (pieces '.' name).reverse with
    | ext :: first :: others => if others.isEmpty && first = "" then none else some ext
    | _ => none

/-- The path ends like that of a directory. -/
def endsAsDirectory (path : String) : Bool := path.endsWith "/" || path.endsWith "/."

/-- The path to which extensions can be appended: that of the last name,
if there is one. -/
def searchBase? (path : String) : Option String :=
  match (pathParts path).getLast? with
  | none | some ".." => none
  | some _ =>
    if path.startsWith "/" || endsAsDirectory path && (extension? path).isSome then none
    else some (relativeName path)

namespace Directory

/-- The bytes of the file with a path; a path that ends like a
directory is none. -/
def file? (d : Directory) (path : String) : Option (List UInt8) :=
  if path.startsWith "/" || endsAsDirectory path || path = "." then none
  else (d.files.find? fun (name, _) => pathParts name == pathParts path).map (·.2)

/-- A file that was found. -/
structure Found where
  /-- Where its settings come from. -/
  origin : String
  format : FileFormat
  bytes : List UInt8
  deriving DecidableEq, Repr

/-- Tries the extensions in their order. -/
def search? (d : Directory) (path : String) : Option Found :=
  (searchBase? path).bind fun base =>
    FileFormat.extensions.findSome? fun (ext, format) =>
      let path := base ++ "." ++ ext
      (d.file? path).map fun bytes => ⟨path, format, bytes⟩

/-- Finds the file for a path. -/
def find (d : Directory) (path : String) : Except ConfigError Found :=
  match d.file? path with
  | some bytes =>
    match (extension? path).bind (FileFormat.extensions.lookup ·) with
    | some format => .ok ⟨relativeName path, format, bytes⟩
    | none => .error (.unknownFormat (d.name ++ "/" ++ path))
  | none =>
    match d.search? path with
    | some found => .ok found
    | none => .error (.fileNotFound path)

/-- The text of a file; a byte order mark at its start does
not belong to it. -/
def Found.text (f : Found) : String :=
  Text.decodeLossy <|
    match f.bytes with
    | 0xEF :: 0xBB :: 0xBF :: rest => rest
    | bytes => bytes

/-- The settings in a file. -/
def Found.entries? (f : Found) : Option (List (String × SettingValue)) :=
  match f.format with
  | .toml => Toml.read? f.text
  | .json => Json.read? f.text
  | .unread => none

end Directory

end DistLock
