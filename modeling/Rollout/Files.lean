namespace Rollout

-- What there may be under a path.
inductive FileEntry where
  | file (content : ByteArray)
  | directory

-- Why a file cannot be read.
inductive FileFault where
  | absent
  | directory
  -- A part of the path that should be a directory is a file.
  | notDirectory
  | notText
  deriving Repr, DecidableEq

-- The files of a working directory, by path.
structure Files where
  entries : List (String × FileEntry)

namespace Files

-- The parts of a path, from the working directory or from the root, which is a part of its own.
def parts (path : String) : List String :=
  let parts := (path.splitOn "/").filter fun part => part ≠ "" && part ≠ "."
  if path.startsWith "/" then "/" :: parts else parts

-- The root, the working directory and the directories above it are always there.
def isStanding (place : List String) : Bool := place = ["/"] || place.all (· = "..")

-- Whether there is a directory at some parts of a path.
def hasDirectory (files : Files) (place : List String) : Bool :=
  isStanding place || files.entries.any fun (path, entry) =>
    let parts := parts path
    match entry with
    | .directory => place.isPrefixOf parts
    | .file _ => place.isPrefixOf parts && place.length < parts.length

def file? (files : Files) (place : List String) : Option ByteArray :=
  files.entries.findSome? fun (path, entry) =>
    match entry with
    | .file content => if parts path = place then some content else none
    | .directory => none

-- The directory above another.
def above (place : List String) : List String :=
  if place = ["/"] then place
  else if isStanding place then ".." :: place
  else place.dropLast

-- Goes down a path from a directory; two dots go up again.
def walk (files : Files) : List String → List String → Except FileFault (List String)
  | place, [] => .ok place
  | place, part :: rest =>
    if files.hasDirectory place then
      files.walk (if part = ".." then above place else place ++ [part]) rest
    else if (files.file? place).isSome then .error .notDirectory
    else .error .absent

-- Whether a path asks for a directory by its end.
def asksDirectory (path : String) : Bool := path.endsWith "/" || path.endsWith "/."

-- The content of the file at a path.
def bytes (files : Files) (path : String) : Except FileFault ByteArray :=
  if path.isEmpty then .error .absent
  else
    match files.walk [] (parts path) with
    | .error fault => .error fault
    | .ok place =>
      if files.hasDirectory place then .error .directory
      else
        match files.file? place with
        | none => .error .absent
        | some content => if asksDirectory path then .error .notDirectory else .ok content

def text (files : Files) (path : String) : Except FileFault String :=
  match files.bytes path with
  | .error fault => .error fault
  | .ok content =>
    match String.fromUTF8? content with
    | some text => .ok text
    | none => .error .notText

end Files

end Rollout
