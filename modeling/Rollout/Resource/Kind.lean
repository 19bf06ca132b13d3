import Rollout.Resource.Meta

namespace Rollout

-- A kind of object that the server keeps.
structure Kind where
  group : String
  version : String
  name : String
  plural : String
  namespaced : Bool
  deriving Repr, DecidableEq

namespace Kind

-- The group, unless it is the core, and the version.
def apiVersion (kind : Kind) : String :=
  if kind.group.isEmpty then kind.version else s!"{kind.group}/{kind.version}"

-- The path of the collection of a kind, in one namespace or in all of them.
def path (kind : Kind) (space : Option String) : String :=
  let root := if kind.group.isEmpty then "api" else "apis"
  let within := match space with
    | some space => s!"/namespaces/{space}"
    | none => ""
  s!"/{root}/{kind.apiVersion}{within}/{kind.plural}"

end Kind

-- The types of objects that the server keeps.
class Resource (α : Type) extends Described α where
  kind : Kind
  metadata : α → ObjectMeta

namespace Resource

variable {α : Type} [Resource α]

-- The name of an object, or the beginning of the name it is to be given.
def nameAny (object : α) : String :=
  ((metadata object).name.or (metadata object).generateName).getD ""

def labels (object : α) : Dict String := (metadata object).labels.getD .empty

end Resource

end Rollout
