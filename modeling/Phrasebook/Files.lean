import Phrasebook.Catalog.Json
import Phrasebook.Files.Lines

/-!
# Files with catalogs

A file is named by a path from a working folder or from the root of the system. The working
folder is known here by its files; every leading part of a file's path is a folder inside it.
Of the system only the usual folders at its root are known, and of the way from the working
folder to the root only that it consists of folders. Reading goes through a path part by part
and fails at the first part that is not there or that is entered although it is a file.
-/

namespace Phrasebook

/-- Why a file could not be read. -/
inductive FileError where
  | notFound
  | isFolder
  | notFolder
  | nameTooLong
  /-- The content is not in UTF-8. -/
  | notText
  /-- Another cause, in the words of the system. -/
  | other (message : Text)
deriving DecidableEq

/-- The cause in words. -/
def FileError.message : FileError → Text
  | .notFound => "No such file or directory (os error 2)".toList
  | .isFolder => "Is a directory (os error 21)".toList
  | .notFolder => "Not a directory (os error 20)".toList
  | .nameTooLong => "File name too long (os error 36)".toList
  | .notText => "stream did not contain valid UTF-8".toList
  | .other message => message

/-- A file by the parts of its path. -/
structure StoredFile where
  path : List Text
  lines : FileLines

/-- The files below a working folder. -/
abbrev Folder := List StoredFile

/-- The parts of a path. -/
def pathParts : Text → List Text
  | [] => [[]]
  | first :: rest =>
    if first = '/' then [] :: pathParts rest
    else
      match pathParts rest with
      | [] => [[first]]
      | part :: parts => (first :: part) :: parts

/-- Where a path has led; the parts are given from the end to the start. -/
inductive Place where
  /-- Below the working folder. -/
  | below (parts : List Text)
  /-- Below the root of the system. -/
  | system (parts : List Text)
  /-- On the way from the working folder to the root. -/
  | above

/-- The folder that holds a place; the root holds itself. -/
def Place.parent : Place → Place
  | .below [] => .above
  | .below (_ :: parts) => .below parts
  | .system parts => .system parts.tail
  | .above => .above

/-- A place in a folder, if something is known of what is in it. -/
def Place.child? (place : Place) (part : Text) : Option Place :=
  match place with
  | .below parts => some (.below (part :: parts))
  | .system parts => some (.system (part :: parts))
  | .above => none

/-- What is found at a place. -/
inductive Node where
  | folder
  | file (lines : FileLines)

/-- The folders at the root of a system. -/
def rootFolders : List Text :=
  ["bin", "boot", "dev", "etc", "home", "lib", "media", "mnt", "opt", "proc", "root", "run",
    "sbin", "srv", "sys", "tmp", "usr", "var"].map String.toList

/-- What is found below the root of the system: its folders, and a device that holds nothing. -/
def systemNode? (parts : List Text) : Option Node :=
  match parts with
  | [] => some .folder
  | [name] => if name ∈ rootFolders then some .folder else none
  | parts => if parts = ["null".toList, "dev".toList] then some (.file []) else none

/-- The greatest number of bytes in a part of a path. -/
def partLimit : Nat := 255

/-- The greatest number of bytes in a path. -/
def pathLimit : Nat := 4095

namespace Folder

/-- The file at a place below the folder. -/
def file? (folder : Folder) (parts : List Text) : Option StoredFile :=
  List.find? (fun file => file.path == parts) folder.reverse

/-- Whether there is a folder at a place: the folder itself, or one on the way to a file. -/
def hasFolder (folder : Folder) (parts : List Text) : Bool :=
  parts.isEmpty || folder.any fun file => parts.isPrefixOf file.path && parts != file.path

/-- What is found at a place. -/
def node? (folder : Folder) : Place → Option Node
  | .below parts =>
    match folder.file? parts.reverse with
    | some file => some (.file file.lines)
    | none => if folder.hasFolder parts.reverse then some .folder else none
  | .system parts => systemNode? parts
  | .above => some .folder

/-- Follows the parts of a path from a place. -/
def follow (folder : Folder) (place : Place) : List Text → Except FileError FileLines
  | [] =>
    match folder.node? place with
    | some (.file lines) => .ok lines
    | _ => .error .isFolder
  | part :: parts =>
    match folder.node? place with
    | some (.file _) => .error .notFolder
    | _ =>
      if part.isEmpty ∨ part = ['.'] then follow folder place parts
      else if part = ['.', '.'] then follow folder place.parent parts
      else if partLimit < Text.width part then .error .nameTooLong
      else
        match place.child? part with
        | none => .error .notFound
        | some next =>
          if (folder.node? next).isSome then follow folder next parts else .error .notFound

/-- The lines of the file at a path. -/
def read (folder : Folder) (path : Text) : Except FileError FileLines :=
  if path.contains '\x00' then
    .error (.other "file name contained an unexpected NUL byte".toList)
  else if path.isEmpty then .error .notFound
  else if pathLimit < Text.width path then .error .nameTooLong
  else
    follow folder (if path.head? = some '/' then .system [] else .below []) (pathParts path)

end Folder

/-- Why no catalog could be had from a file. -/
inductive LoadError where
  | unreadable (path : Text) (cause : FileError)
  | notCatalog (path : Text) (fault : Json.Fault)
deriving DecidableEq

/-- The error in words. -/
def LoadError.message : LoadError → Text
  | .unreadable path cause => "failed to read '".toList ++ path ++ "': ".toList ++ cause.message
  | .notCatalog path _ => "failed to parse '".toList ++ path ++ ['\'']

/-- The catalog in a file, from what reading its path gave. -/
def Catalog.load (path : Text) (content : Except FileError FileLines) :
    Except LoadError Catalog :=
  match content.bind fun lines => lines.text?.elim (.error .notText) .ok with
  | .error cause => .error (.unreadable path cause)
  | .ok document =>
    match Catalog.ofJson document with
    | .error fault => .error (.notCatalog path fault)
    | .ok catalog => .ok catalog

end Phrasebook
