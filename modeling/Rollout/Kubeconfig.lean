import Rollout.Encoding
import Rollout.Failure
import Rollout.Files
import Rollout.Schema.Described
import Rollout.ServerAddress

namespace Rollout

-- How clusters can be reached, and which of them is to be.
structure Kubeconfig where
  clusters : List (String × Option (Option String))
  -- Of each context the cluster and the namespace.
  contexts : List (String × Option (String × Option String))
  currentContext : Option String
  kind : Option String
  apiVersion : Option String

inductive KubeconfigFault where
  | unreadable (fault : FileFault)
  | undecodable (fault : Fault)
  -- Parts of the configuration are of different kinds or versions.
  | mixed
  | noCurrentContext
  | noContext (name : String)
  | noCluster (name : String)
  | noServer
  | invalidServer (text : String)
  | noPath
  deriving Repr, DecidableEq

namespace KubeconfigFault

def message : KubeconfigFault → String
  | unreadable _ => "failed to read kubeconfig"
  | undecodable fault => s!"failed to decode kubeconfig: {fault.message}"
  | mixed => "failed to merge configurations of different kinds"
  | noCurrentContext => "failed to determine current context"
  | noContext name => s!"failed to load current context: {name}"
  | noCluster name => s!"failed to load the cluster of context: {name}"
  | noServer => "cluster url is missing on selected cluster"
  | invalidServer text => s!"failed to parse cluster url: {text}"
  | noPath => "failed to find the path of kubeconfig"

end KubeconfigFault

namespace Kubeconfig

abbrev strict : RecordInfo := ⟨.strict, none, []⟩

abbrev required (key : String) (shape : Shape) (rest : Fields) : Fields :=
  .cons ⟨key, .required, none⟩ shape rest

abbrev extensionsShape : Shape :=
  .list (.record strict <| required "name" .text <| required "extension" .free .nil)

abbrev clusterShape : Shape :=
  .record strict <|
    .optional "server" .text <|
    .optional "insecure-skip-tls-verify" .bool <|
    .optional "certificate-authority" .text <|
    .optional "certificate-authority-data" .text <|
    .optional "proxy-url" .text <|
    .optional "disable-compression" .bool <|
    .optional "tls-server-name" .text <|
    .optional "extensions" extensionsShape .nil

abbrev commandShape : Shape :=
  .record strict <|
    .optional "apiVersion" .text <|
    .optional "command" .text <|
    .optional "args" (.list .text) <|
    .optional "env" (.list .textMap) <|
    .optional "installHint" .text <|
    .optional "interactiveMode" (.choice ["Never", "IfAvailable", "Always"]) <|
    .defaulted "provideClusterInfo" .bool .nil

abbrev userShape : Shape :=
  .record strict <|
    .optional "username" .text <|
    .optional "password" .text <|
    .optional "token" .text <|
    .optional "tokenFile" .text <|
    .optional "client-certificate" .text <|
    .optional "client-certificate-data" .text <|
    .optional "client-key" .text <|
    .optional "client-key-data" .text <|
    .optional "as" .text <|
    .optional "as-groups" (.list .text) <|
    .optional "auth-provider"
      (.record strict <| required "name" .text <| .defaulted "config" .textMap .nil) <|
    .optional "exec" commandShape .nil

abbrev contextShape : Shape :=
  .record strict <|
    required "cluster" .text <|
    .optional "user" .text <|
    .optional "namespace" .text <|
    .optional "extensions" extensionsShape .nil

abbrev named (key : String) (shape : Shape) : Shape :=
  .list (.record strict <| required "name" .text <| .optional key shape .nil)

abbrev shape : Shape :=
  .record strict <|
    .optional "preferences" (.record strict <|
      .optional "colors" .bool <| .optional "extensions" extensionsShape .nil) <|
    .lenient "clusters" (named "cluster" clusterShape) <|
    .lenient "users" (named "user" userShape) <|
    .lenient "contexts" (named "context" contextShape) <|
    .optional "current-context" .text <|
    .optional "extensions" extensionsShape <|
    .optional "kind" .text <|
    .optional "apiVersion" .text .nil

def ofValue : shape.Value → Kubeconfig :=
  fun (_, clusters, _, contexts, currentContext, _, kind, apiVersion, ()) =>
    ⟨clusters.map fun (name, cluster, ()) => (name, cluster.map (·.1)),
      contexts.map fun (name, context, ()) => (name, context.map fun c => (c.1, c.2.2.1)),
      currentContext, kind, apiVersion⟩

def nothing : Kubeconfig := ⟨[], [], none, none, none⟩

-- Values in a document are settled before it is known what is wanted of them.
def ofDocument (document : Document) : Except Fault Kubeconfig :=
  match document.read (Node.decode Json .yaml) with
  | .error fault => .error fault
  | .ok json =>
    if document.root.hasDistinctKeys then (shape.decode .yaml json.toNode).map ofValue
    else .error .malformed

-- Whether two things are the same, as far as both are known.
def agree (a b : Option String) : Bool := a.isNone || b.isNone || a = b

-- Of two configurations the first goes before the second.
def merge (first second : Kubeconfig) : Except KubeconfigFault Kubeconfig :=
  if agree first.kind second.kind && agree first.apiVersion second.apiVersion then
    .ok ⟨first.clusters ++ second.clusters, first.contexts ++ second.contexts,
      first.currentContext.or second.currentContext, first.kind.or second.kind,
      first.apiVersion.or second.apiVersion⟩
  else .error .mixed

def mergeAll (configs : List Kubeconfig) : Except KubeconfigFault Kubeconfig :=
  configs.foldlM merge nothing

def decode (text : String) : Except KubeconfigFault Kubeconfig :=
  match (Document.allOfYaml text).mapM ofDocument with
  | .error fault => .error (.undecodable fault)
  | .ok configs => mergeAll configs

def read (files : Files) (path : String) : Except KubeconfigFault Kubeconfig :=
  match files.bytes path with
  | .error fault => .error (.unreadable fault)
  | .ok bytes =>
    match Encoding.text? bytes with
    | none => .error (.unreadable .notText)
    | some text => decode text

def readAll (files : Files) (paths : List String) : Except KubeconfigFault Kubeconfig := do
  mergeAll (← paths.mapM (read files))

-- The namespace of the current context, whose cluster must have an address.
def namespaceOfContext (config : Kubeconfig) : Except KubeconfigFault String :=
  match config.currentContext with
  | none => .error .noCurrentContext
  | some name =>
    match (config.contexts.lookup name).join with
    | none => .error (.noContext name)
    | some (cluster, space) =>
      match (config.clusters.lookup cluster).join with
      | none => .error (.noCluster cluster)
      | some none => .error .noServer
      | some (some server) =>
        if ServerAddress.isValid server then .ok (space.getD "default")
        else .error (.invalidServer server)

-- The namespace that a configuration at a path gives, or the ones that the environment lists.
def load (files : Files) (environment : Option String) :
    Option String → Except Failure String
  | some path =>
    match read files path with
    | .error fault => .error (.manifest path (.other fault.message))
    | .ok config =>
      match config.namespaceOfContext with
      | .error fault => .error (.manifest path (.other fault.message))
      | .ok space => .ok space
  | none =>
    let paths := ((environment.getD "").splitOn ":").filter fun path => !path.isEmpty
    let config := if paths.isEmpty then .error .noPath else readAll files paths
    match config with
    | .error _ => .error (.unexpectedState "no kubeconfig found")
    | .ok config =>
      match config.namespaceOfContext with
      | .error _ => .error (.unexpectedState "no kubeconfig found")
      | .ok space => .ok space

end Kubeconfig

end Rollout
