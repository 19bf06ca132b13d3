import Rollout.CommandLine.Help
import Rollout.Kubeconfig
import Rollout.LogFilter
import Rollout.Manifest
import Rollout.Scenario

namespace Rollout

-- What the program finds where it is started.
structure Workplace where
  files : Files
  -- The configurations that the environment lists.
  kubeconfig : Option String

structure Complaint where
  context : String
  cause : Failure
  deriving Repr, DecidableEq

namespace Program

def loadManifest (files : Files) (o : Options) : Except Complaint MachineDeployment :=
  match Parameter.parseAll o.params with
  | .error failure => .error ⟨"invalid --param", failure⟩
  | .ok parameters =>
    match Manifest.load files o.manifest parameters with
    | .error failure => .error ⟨s!"failed to load manifest {o.manifest}", failure⟩
    | .ok d => .ok d

variable {F : Type} [Seconds F]

def scenario (o : Options) (d : MachineDeployment) : Run F Unit :=
  match o.plan with
  | .createUpdateDelete => Scenario.createUpdateAndDelete o.settings d
  | .createDelete => Scenario.createAndDelete o.settings d

-- What is told while the manifest is loaded. A template that was read is rendered, even if it
-- then turns out to be no deployment.
def noteManifest (o : Options) (loaded : Except Complaint MachineDeployment) : Run F Unit := do
  let rendered := do
    Run.note .debug "Rendered manifest"
      [("manifest", o.manifest), ("parameters", toString o.params.length)]
  match loaded with
  | .ok d =>
    rendered
    Run.note .info "Loaded MachineDeployment manifest"
      [("manifest", o.manifest), ("name", d.metadata.name.getD ""),
        ("namespace", d.metadata.inNamespace.getD "")]
  | .error ⟨_, .manifest _ (.undecodable _)⟩ => rendered
  | .error ⟨_, .manifest _ .nameless⟩ => rendered
  | .error _ => return ()

-- Loads the manifest, finds the cluster and runs the scenario. The first step that fails is the
-- last one. How a cluster is found, given the configuration that was named, is left open.
def run (connect : Option String → Except Failure String) (files : Files) (o : Options) :
    Run F (Option Complaint) := do
  Run.note .debug "Parsed command line" []
  let loaded := loadManifest files o
  noteManifest o loaded
  match loaded with
  | .error complaint => return some complaint
  | .ok d =>
    if let some path := o.kubeconfig then
      Run.note .debug "Loading kubeconfig" [("kubeconfig", path)]
    match connect o.kubeconfig with
    | .error failure => return some ⟨"failed to build Kubernetes client", failure⟩
    | .ok _ =>
      Run.note .debug "Kubernetes client initialized successfully" []
      let fields := [("scenario", o.plan.title)]
      Run.note .info "Starting scenario" (fields ++ [("timeout", o.settings.timeout.render)])
      match ← (scenario o d).attempt with
      | .ok () =>
        Run.note .info "Scenario passed" fields
        return none
      | .error failure =>
        Run.note .error "Scenario failed" fields
        return some ⟨s!"scenario {o.plan.title} failed", failure⟩

-- The parts of the program that log entries come from.
def ownTarget : String := "machine_e2e"

def clientTarget : String := "kube_client::client::builder"

-- The entries that a filter shows of a run. The client tells of replies that do not come.
def shownLog (filter : LogFilter) (history : History) : List LogEntry :=
  history.reverse.filterMap fun
    | .noted entry => if filter.shows ownTarget entry.level then some entry else none
    | .asked _ _ (.unreachable text) =>
      if filter.shows clientTarget .error then
        some ⟨.error, s!"failed with error {text}", []⟩
      else none
    | .asked _ _ (.answered ..) => none
    | .slept _ => none

-- How the program ends: its exit code, and what it says on its way out.
structure Ending where
  exitCode : Nat
  complaint : String
  -- What is printed instead of a log.
  answer : Option String
  log : List LogEntry

def Ending.ofRun (filter : LogFilter) (result : Outcome (Option Complaint) × World) : Ending :=
  let (outcome, world) := result
  let log := shownLog filter world.history
  match outcome with
  | .ok none => ⟨0, "", none, log⟩
  | .ok (some complaint) => ⟨1, s!"Error: {complaint.context}", none, log⟩
  | .failed _ => ⟨1, "", none, log⟩
  | .crashed crash => ⟨101, crash.message, none, log⟩
  | .outOfTurns => ⟨1, "", none, log⟩

-- The program as a whole, given how a cluster is found. Arguments that do not tell what to do are
-- all that it looks at then.
def endingWith (connect : Option String → Except Failure String) (place : Workplace)
    (filter : LogFilter) (arguments : List String) (s : Surroundings F) : Ending :=
  match Options.parse place.kubeconfig arguments with
  | .error e =>
    let text := e.text place.kubeconfig
    if e.isAnswer then ⟨e.exitCode, "", some text, []⟩ else ⟨e.exitCode, text, none, []⟩
  | .ok o => .ofRun filter (run connect place.files o s .start)

-- The cluster is the one that a configuration gives.
def ending (place : Workplace) (filter : LogFilter) (arguments : List String)
    (s : Surroundings F) : Ending :=
  endingWith (Kubeconfig.load place.files place.kubeconfig) place filter arguments s

end Program

end Rollout
