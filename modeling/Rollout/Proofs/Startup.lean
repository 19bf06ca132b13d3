import Mathlib.Data.List.Forall2
import Rollout.Proofs.Arguments
import Rollout.Proofs.Looks
import Rollout.Proofs.Sample
import Rollout.Proofs.Steps

namespace Rollout

namespace Parameter

-- That these parameters are what some entries say, one by one.
def AreRead (entries : List String) (parameters : List Parameter) : Prop :=
  List.Forall₂ (fun entry p => parse? entry = some p) entries parameters

-- The first entry that says no parameter, if there is one.
def firstFault? (entries : List String) : Option String :=
  entries.find? fun entry => (parse? entry).isNone

variable {entries : List String} {parameters : List Parameter}

theorem parseAll_of_areRead (h : AreRead entries parameters) :
    parseAll entries = .ok parameters := by
  induction h with
  | nil => rfl
  | cons hentry _ ih => simp only [parseAll, hentry, ih]

theorem parseAll_of_firstFault? {entry : String} (h : firstFault? entries = some entry) :
    parseAll entries = .error (.invalidParameter entry) := by
  induction entries with
  | nil => cases h
  | cons first rest ih =>
    rw [firstFault?, List.find?_cons] at h
    cases hfirst : parse? first with
    | none =>
      rw [hfirst] at h
      cases h
      simp only [parseAll, hfirst]
    | some p =>
      rw [hfirst] at h
      simp only [parseAll, hfirst, ih h]

theorem exists_areRead (h : firstFault? entries = none) :
    ∃ parameters, AreRead entries parameters := by
  induction entries with
  | nil => exact ⟨[], List.Forall₂.nil⟩
  | cons first rest ih =>
    rw [firstFault?, List.find?_cons] at h
    cases hfirst : parse? first with
    | none =>
      rw [hfirst] at h
      cases h
    | some p =>
      rw [hfirst] at h
      obtain ⟨parameters, hrest⟩ := ih h
      exact ⟨p :: parameters, List.Forall₂.cons hfirst hrest⟩

end Parameter

namespace Program

variable (connect : Option String → Except Failure String) (files : Files) (o : Options)

-- That a manifest was read, and that with these parameters it tells of a deployment.
structure Loads (parameters : List Parameter) (template : String) (d : MachineDeployment) :
    Prop where
  areRead : Parameter.AreRead o.params parameters
  read : files.text o.manifest = .ok template
  decoded : Manifest.decode o.manifest (Manifest.render template parameters) = .ok d

-- That all is there for a scenario to begin with a deployment.
def Ready (d : MachineDeployment) : Prop :=
  ∃ parameters template space, Loads files o parameters template d ∧
    connect o.kubeconfig = .ok space

-- Why a scenario does not begin. Nothing is looked at behind the first step that fails.
inductive Refused : Complaint → Prop
  | parameter {entry : String} (h : Parameter.firstFault? o.params = some entry) :
      Refused ⟨"invalid --param", .invalidParameter entry⟩
  | unread {parameters : List Parameter} {fault : FileFault}
      (hread : Parameter.AreRead o.params parameters) (h : files.text o.manifest = .error fault) :
      Refused ⟨s!"failed to load manifest {o.manifest}",
        .manifest o.manifest (Manifest.faultOf fault)⟩
  | undecoded {parameters : List Parameter} {template : String} {failure : Failure}
      (hread : Parameter.AreRead o.params parameters) (htext : files.text o.manifest = .ok template)
      (h : Manifest.decode o.manifest (Manifest.render template parameters) = .error failure) :
      Refused ⟨s!"failed to load manifest {o.manifest}", failure⟩
  | client {parameters : List Parameter} {template : String} {d : MachineDeployment}
      {failure : Failure} (hloads : Loads files o parameters template d)
      (h : connect o.kubeconfig = .error failure) :
      Refused ⟨"failed to build Kubernetes client", failure⟩

variable {connect files o} {parameters : List Parameter} {template : String}
  {d : MachineDeployment} {complaint : Complaint}

theorem Loads.load (h : Loads files o parameters template d) :
    Manifest.load files o.manifest parameters = .ok d := by
  unfold Manifest.load
  rw [h.read]
  exact h.decoded

theorem Loads.loadManifest (h : Loads files o parameters template d) :
    loadManifest files o = .ok d := by
  unfold Program.loadManifest
  rw [Parameter.parseAll_of_areRead h.areRead]
  dsimp only
  rw [h.load]

variable (connect files o) in
theorem refused_or_ready : (∃ complaint, Refused connect files o complaint) ∨
    ∃ d, Ready connect files o d := by
  cases hfault : Parameter.firstFault? o.params with
  | some entry => exact .inl ⟨_, .parameter hfault⟩
  | none =>
    obtain ⟨parameters, hread⟩ := Parameter.exists_areRead hfault
    cases htext : files.text o.manifest with
    | error fault => exact .inl ⟨_, .unread hread htext⟩
    | ok template =>
      cases hdecode : Manifest.decode o.manifest (Manifest.render template parameters) with
      | error failure => exact .inl ⟨_, .undecoded hread htext hdecode⟩
      | ok d =>
        have hloads : Loads files o parameters template d := ⟨hread, htext, hdecode⟩
        cases hconnect : connect o.kubeconfig with
        | error failure => exact .inl ⟨_, .client hloads hconnect⟩
        | ok space => exact .inr ⟨d, parameters, template, space, hloads, hconnect⟩

section

variable {F : Type} [Seconds F] (s : Surroundings F) (w : World)

-- The world in which the cluster is looked for, once a deployment was loaded.
def loadedIn (o : Options) (d : MachineDeployment) (w : World) : World :=
  let loaded := ((w.noted .debug "Parsed command line" []).noted .debug "Rendered manifest"
    [("manifest", o.manifest), ("parameters", toString o.params.length)]).noted .info
    "Loaded MachineDeployment manifest"
    [("manifest", o.manifest), ("name", d.metadata.name.getD ""),
      ("namespace", d.metadata.inNamespace.getD "")]
  match o.kubeconfig with
  | some path => loaded.noted .debug "Loading kubeconfig" [("kubeconfig", path)]
  | none => loaded

-- The world in which the scenario begins.
def entry (o : Options) (d : MachineDeployment) (w : World) : World :=
  ((loadedIn o d w).noted .debug "Kubernetes client initialized successfully" []).noted .info
    "Starting scenario"
    [("scenario", o.plan.title), ("timeout", o.settings.timeout.render)]

-- How the program goes on from the end of a scenario.
def conclude (o : Options) : Outcome Unit × World → Outcome (Option Complaint) × World
  | (.ok (), v) => (.ok none, v.noted .info "Scenario passed" [("scenario", o.plan.title)])
  | (.failed failure, v) => (.ok (some ⟨s!"scenario {o.plan.title} failed", failure⟩),
      v.noted .error "Scenario failed" [("scenario", o.plan.title)])
  | (.crashed crash, v) => (.crashed crash, v)
  | (.outOfTurns, v) => (.outOfTurns, v)

theorem loadedIn_exchanges (o : Options) (d : MachineDeployment) (w : World) :
    (loadedIn o d w).history.exchanges = w.history.exchanges := by
  unfold loadedIn
  cases o.kubeconfig <;> simp only [World.exchanges_noted]

theorem entry_exchanges (o : Options) (d : MachineDeployment) (w : World) :
    (entry o d w).history.exchanges = w.history.exchanges := by
  rw [entry, World.exchanges_noted, World.exchanges_noted, loadedIn_exchanges]

theorem conclude_eq_ok_none (o : Options) (r : Outcome Unit × World) :
    (conclude o r).1 = .ok none ↔ r.1 = .ok () := by
  obtain ⟨_ | _ | _ | _, v⟩ := r <;> simp [conclude]

theorem attempt_scenario (o : Options) (d : MachineDeployment) (v : World) :
    Run.bind (Run.attempt (scenario o d)) (fun
      | .ok () => do
        Run.note .info "Scenario passed" [("scenario", o.plan.title)]
        return none
      | .error failure => do
        Run.note .error "Scenario failed" [("scenario", o.plan.title)]
        return some ⟨s!"scenario {o.plan.title} failed", failure⟩) s v =
      conclude o (o.plan.run o.settings d s v) := by
  rw [scenario_eq_run]
  unfold Run.bind Run.attempt
  rcases o.plan.run o.settings d s v with ⟨_ | _ | _ | _, u⟩ <;> rfl

theorem run_of_ready (h : Ready connect files o d) :
    run connect files o s w = conclude o (o.plan.run o.settings d s (entry o d w)) := by
  obtain ⟨parameters, template, space, hloads, hconnect⟩ := h
  rw [← attempt_scenario]
  unfold run entry loadedIn
  rw [hloads.loadManifest]
  cases hnamed : o.kubeconfig <;>
  · rw [hnamed] at hconnect
    rw [hconnect]
    rfl

theorem run_of_no_client (hloads : Loads files o parameters template d) {failure : Failure}
    (h : connect o.kubeconfig = .error failure) : run connect files o s w =
      (.ok (some ⟨"failed to build Kubernetes client", failure⟩), loadedIn o d w) := by
  unfold run loadedIn
  rw [hloads.loadManifest]
  cases hnamed : o.kubeconfig <;>
  · rw [hnamed] at h
    rw [h]
    rfl

omit [Seconds F] in
theorem noteManifest_exchanges (o : Options) (loaded : Except Complaint MachineDeployment) :
    ∃ v, noteManifest o loaded s w = (.ok (), v) ∧
      v.history.exchanges = w.history.exchanges := by
  unfold noteManifest
  split
  · exact ⟨_, rfl, (World.exchanges_noted ..).trans (World.exchanges_noted ..)⟩
  · exact ⟨_, rfl, World.exchanges_noted ..⟩
  · exact ⟨_, rfl, World.exchanges_noted ..⟩
  · exact ⟨_, rfl, rfl⟩

theorem run_of_unloaded (h : loadManifest files o = .error complaint) :
    ∃ v, run connect files o s w = (.ok (some complaint), v) ∧
      v.history.exchanges = w.history.exchanges := by
  obtain ⟨v, hnoted, hexchanges⟩ := noteManifest_exchanges s
    (w.noted .debug "Parsed command line" []) o (.error complaint)
  refine ⟨v, ?_, hexchanges.trans (World.exchanges_noted ..)⟩
  unfold run
  rw [h]
  exact Run.bind_of_ok hnoted _

theorem run_of_refused (h : Refused connect files o complaint) :
    ∃ v, run connect files o s w = (.ok (some complaint), v) ∧
      v.history.exchanges = w.history.exchanges := by
  cases h with
  | parameter h =>
    refine run_of_unloaded s w ?_
    rw [loadManifest, Parameter.parseAll_of_firstFault? h]
  | unread hread h =>
    refine run_of_unloaded s w ?_
    rw [loadManifest, Parameter.parseAll_of_areRead hread]
    dsimp only
    rw [Manifest.load, h]
  | undecoded hread htext h =>
    refine run_of_unloaded s w ?_
    rw [loadManifest, Parameter.parseAll_of_areRead hread]
    dsimp only
    rw [Manifest.load, htext]
    dsimp only
    rw [h]
  | client hloads h => exact ⟨_, run_of_no_client s w hloads h, loadedIn_exchanges ..⟩

theorem run_eq_ok_none_iff : (run connect files o s w).1 = .ok none ↔
    ∃ d, Ready connect files o d ∧ (o.plan.run o.settings d s (entry o d w)).1 = .ok () := by
  constructor
  · intro h
    rcases refused_or_ready connect files o with ⟨complaint, hrefused⟩ | ⟨d, hready⟩
    · obtain ⟨v, hrun, -⟩ := run_of_refused s w hrefused
      rw [hrun] at h
      cases h
    · rw [run_of_ready s w hready, conclude_eq_ok_none] at h
      exact ⟨d, hready, h⟩
  · rintro ⟨d, hready, h⟩
    rw [run_of_ready s w hready, conclude_eq_ok_none]
    exact h

theorem exitCode_ofRun_eq_zero (filter : LogFilter) (r : Outcome (Option Complaint) × World) :
    (Ending.ofRun filter r).exitCode = 0 ↔ r.1 = .ok none := by
  obtain ⟨_ | _ | _ | _, v⟩ := r
  · rename_i complaint
    cases complaint <;> simp [Ending.ofRun]
  all_goals simp [Ending.ofRun]

-- What is asked of the server, and when the program passes, for arguments that tell what to do.
theorem endingWith_exact (connect : Option String → Except Failure String) (place : Workplace)
    (arguments : List String) (o : Options)
    (hparse : Options.parse place.kubeconfig arguments = .ok o) (s : Surroundings F) :
    o.SaidBy place.kubeconfig arguments ∧
    -- The first step that fails is told of, and nothing is asked.
    ((∃ complaint, Refused connect place.files o complaint) ∨
      ∃ d, Ready connect place.files o d) ∧
    (∀ complaint, Refused connect place.files o complaint →
      ∃ v, run connect place.files o s .start = (.ok (some complaint), v) ∧
        v.history.exchanges = []) ∧
    -- Else the scenario that was chosen is run with the deployment of the manifest.
    (∀ d, Ready connect place.files o d → (entry o d .start).history.exchanges = [] ∧
      run connect place.files o s .start =
        conclude o (o.plan.run o.settings d s (entry o d .start))) ∧
    ((run connect place.files o s .start).2.history.exchanges ≠ [] →
      ∃ parameters template d space, Loads place.files o parameters template d ∧
        Manifest.load place.files o.manifest parameters = .ok d ∧
        connect o.kubeconfig = .ok space) ∧
    ∀ filter, (endingWith connect place filter arguments s).exitCode = 0 ↔
      ∃ d, Ready connect place.files o d ∧
        (o.plan.run o.settings d s (entry o d .start)).1 = .ok () := by
  refine ⟨Options.saidBy_of_parse hparse, refused_or_ready connect place.files o, ?_, ?_, ?_, ?_⟩
  · exact fun complaint h => run_of_refused s .start h
  · exact fun d h => ⟨entry_exchanges o d .start, run_of_ready s .start h⟩
  · intro hasked
    rcases refused_or_ready connect place.files o with ⟨complaint, hrefused⟩ | ⟨d, hready⟩
    · obtain ⟨v, hrun, hsilent⟩ := run_of_refused s .start hrefused
      rw [hrun] at hasked
      exact absurd hsilent hasked
    · obtain ⟨parameters, template, space, hloads, hconnect⟩ := hready
      exact ⟨parameters, template, d, space, hloads, hloads.load, hconnect⟩
  · intro filter
    rw [endingWith, hparse, ← run_eq_ok_none_iff]
    exact exitCode_ofRun_eq_zero ..

end

-- A parameter without a placeholder is told of, though there are no files and no cluster.
theorem endingWith_exact_malformed :
    Options.parse none ["--manifest", "m", "--param", "=x"] =
      .ok ⟨none, "m", ["=x"], 1800, 5, .createUpdateDelete⟩ ∧
    ∃ v, run (fun _ => .error (.unexpectedState "no kubeconfig found")) ⟨[]⟩
        ⟨none, "m", ["=x"], 1800, 5, .createUpdateDelete⟩ (.scripted 1 []) .start =
      (.ok (some ⟨"invalid --param", .invalidParameter "=x"⟩), v) ∧
      v.history.exchanges = [] := by
  have hparse : Options.parse none ["--manifest", "m", "--param", "=x"] =
      .ok ⟨none, "m", ["=x"], 1800, 5, .createUpdateDelete⟩ := by
    decide +kernel
  obtain ⟨-, -, hrefused, -⟩ := endingWith_exact
    (fun _ => .error (.unexpectedState "no kubeconfig found")) ⟨⟨[]⟩, none⟩
    ["--manifest", "m", "--param", "=x"] _ hparse (.scripted 1 [])
  exact ⟨hparse, hrefused _ (.parameter (by decide +kernel))⟩

end Program

end Rollout
