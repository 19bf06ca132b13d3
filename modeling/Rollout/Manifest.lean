import Rollout.Files
import Rollout.Machine.Ownership

namespace Rollout

structure Parameter where
  placeholder : String
  value : String
  deriving Repr, DecidableEq

namespace Parameter

-- Splits an entry at its first equals sign. The placeholder must not be empty.
def parse? (entry : String) : Option Parameter :=
  let placeholder := entry.toList.takeWhile (· ≠ '=')
  match entry.toList.dropWhile (· ≠ '=') with
  | '=' :: value =>
    if placeholder.isEmpty then none else some ⟨String.ofList placeholder, String.ofList value⟩
  | _ => none

-- Reads a list of entries; the first that is wrong is the fault.
def parseAll : List String → Except Failure (List Parameter)
  | [] => .ok []
  | entry :: rest =>
    match parse? entry with
    | none => .error (.invalidParameter entry)
    | some parameter =>
      match parseAll rest with
      | .error failure => .error failure
      | .ok parameters => .ok (parameter :: parameters)

end Parameter

namespace Manifest

-- Puts a value in the place of every occurrence of a pattern, from left to right; what has been
-- put in is not looked at again.
def substitute (pattern value : List Char) : List Char → List Char
  | [] => []
  | c :: rest =>
    if pattern.isPrefixOf (c :: rest) then
      value ++ substitute pattern value (rest.drop (pattern.length - 1))
    else c :: substitute pattern value rest
termination_by chars => chars.length

-- An empty pattern occurs before every character and at the end.
def replaceAll (pattern value : List Char) (chars : List Char) : List Char :=
  match pattern with
  | [] => value ++ chars.flatMap fun c => c :: value
  | _ => substitute pattern value chars

def render (template : String) (parameters : List Parameter) : String :=
  String.ofList <| parameters.foldl
    (fun chars p => replaceAll p.placeholder.toList p.value.toList chars) template.toList

-- Reads a deployment from a rendered manifest. It must have a name, and gets the default
-- namespace if it has none.
def decode (path text : String) : Except Failure MachineDeployment :=
  match decodeYaml MachineDeployment text with
  | .error fault => .error (.manifest path (.undecodable fault))
  | .ok d =>
    if d.metadata.name.all String.isEmpty then .error (.manifest path .nameless)
    else if d.metadata.inNamespace.all String.isEmpty then
      .ok { d with metadata := { d.metadata with inNamespace := some defaultNamespace } }
    else .ok d

def faultOf : FileFault → ManifestFault
  | .absent => .absent
  | .directory => .directory
  | .notDirectory => .other "Not a directory (os error 20)"
  | .notText => .notText

def load (files : Files) (path : String) (parameters : List Parameter) :
    Except Failure MachineDeployment :=
  match files.text path with
  | .error fault => .error (.manifest path (faultOf fault))
  | .ok template => decode path (render template parameters)

end Manifest

end Rollout
