import Rollout.Poll

namespace Rollout

inductive Plan where
  | createUpdateDelete
  | createDelete
  deriving Repr, DecidableEq

namespace Plan

def word : Plan → String
  | createUpdateDelete => "create-update-delete"
  | createDelete => "create-delete"

def title : Plan → String
  | createUpdateDelete => "CreateUpdateDelete"
  | createDelete => "CreateDelete"

def about : Plan → String
  | createUpdateDelete => "Create, roll to a new template, scale to zero, delete"
  | createDelete => "Create and delete without updates"

def all : List Plan := [createUpdateDelete, createDelete]

def ofWord? (word : String) : Option Plan := all.find? fun plan => plan.word == word

end Plan

namespace CommandLine

inductive Flag where
  | kubeconfig
  | manifest
  | param
  | timeout
  | pollInterval
  | scenario
  deriving Repr, DecidableEq

namespace Flag

def name : Flag → String
  | kubeconfig => "kubeconfig"
  | manifest => "manifest"
  | param => "param"
  | timeout => "timeout"
  | pollInterval => "poll-interval"
  | scenario => "scenario"

-- What stands for the value in messages.
def placeholder : Flag → String
  | kubeconfig => "KUBECONFIG"
  | manifest => "MANIFEST"
  | param => "PLACEHOLDER=VALUE"
  | timeout => "TIMEOUT"
  | pollInterval => "POLL_INTERVAL"
  | scenario => "SCENARIO"

def all : List Flag := [kubeconfig, manifest, param, timeout, pollInterval, scenario]

def ofName? (name : String) : Option Flag := all.find? fun flag => flag.name == name

def render (flag : Flag) : String := s!"--{flag.name} <{flag.placeholder}>"

end Flag

inductive NumberFault where
  | empty
  | digit
  | tooLarge
  deriving Repr, DecidableEq

namespace NumberFault

def message : NumberFault → String
  | empty => "cannot parse integer from empty string"
  | digit => "invalid digit found in string"
  | tooLarge => "number too large to fit in target type"

end NumberFault

-- Why the arguments do not tell what to do.
inductive UsageError where
  | missingArguments
  | unexpected (argument : String)
  | missingValue (flag : Flag)
  | invalidPlan (value : String)
  | invalidNumber (flag : Flag) (value : String) (fault : NumberFault)
  | repeated (flag : Flag)
  -- An option that takes no value was given one.
  | unneededValue (value option : String)
  | help (long : Bool)
  | version
  deriving Repr, DecidableEq

namespace UsageError

-- The first line that is told, unless help or the version was asked for.
def message : UsageError → String
  | missingArguments => "the following required arguments were not provided:"
  | unexpected argument => s!"unexpected argument '{argument}' found"
  | missingValue flag => s!"a value is required for '{flag.render}' but none was supplied"
  | invalidPlan value => s!"invalid value '{value}' for '{Flag.scenario.render}'"
  | invalidNumber flag value fault =>
    s!"invalid value '{value}' for '{flag.render}': {fault.message}"
  | repeated flag => s!"the argument '{flag.render}' cannot be used multiple times"
  | unneededValue value option =>
    s!"unexpected value '{value}' for '{option}' found; no more were expected"
  | help _ => ""
  | version => ""

def isAnswer : UsageError → Bool
  | help _ => true
  | version => true
  | _ => false

def exitCode (e : UsageError) : Nat := if e.isAnswer then 0 else 2

end UsageError

structure Given where
  kubeconfig : Option String
  manifest : Option String
  params : List String
  timeout : Option Nat
  pollInterval : Option Nat
  plan : Option Plan
  deriving Repr, DecidableEq

namespace Given

def nothing : Given := ⟨none, none, [], none, none, none⟩

def digits? : List Char → Nat → Except NumberFault Nat
  | [], n => .ok n
  | c :: rest, n =>
    if !c.isDigit then .error .digit
    else
      let n := 10 * n + (c.toNat - '0'.toNat)
      if UInt64.size ≤ n then .error .tooLarge else digits? rest n

-- A number of 64 bits, which a plus sign may precede.
def number? (text : String) : Except NumberFault Nat :=
  match text.toList with
  | [] => .error .empty
  | ['+'] => .error .digit
  | '+' :: rest => digits? rest 0
  | chars => digits? chars 0

def numberFor (flag : Flag) (text : String) : Except UsageError Nat :=
  match number? text with
  | .ok n => .ok n
  | .error fault => .error (.invalidNumber flag text fault)

-- Takes the value of an option. All but parameters are given once.
def set (g : Given) (flag : Flag) (value : String) : Except UsageError Given :=
  let once {α : Type} (old : Option α) (new : Except UsageError α) : Except UsageError α :=
    if old.isSome then .error (.repeated flag) else new
  let path : Except UsageError String :=
    if value.isEmpty then .error (.missingValue flag) else .ok value
  match flag with
  | .kubeconfig => (once g.kubeconfig path).map fun p => { g with kubeconfig := some p }
  | .manifest => (once g.manifest path).map fun p => { g with manifest := some p }
  | .param => .ok { g with params := g.params ++ [value] }
  | .timeout => (once g.timeout (numberFor flag value)).map fun n => { g with timeout := some n }
  | .pollInterval =>
    (once g.pollInterval (numberFor flag value)).map fun n => { g with pollInterval := some n }
  | .scenario =>
    let plan := match Plan.ofWord? value with
      | some plan => .ok plan
      | none => if value.isEmpty then .error (.missingValue flag) else .error (.invalidPlan value)
    (once g.plan plan).map fun plan => { g with plan := some plan }

end Given

-- An option whose value is awaited, or read and not yet looked at.
abbrev Pending := Option (Flag × Option String)

def settle (g : Given) : Pending → Except UsageError Given
  | none => .ok g
  | some (flag, none) => .error (.missingValue flag)
  | some (flag, some value) => g.set flag value

inductive Form where
  | escape
  | long (name : String) (value : Option String)
  | short (letter : Char)
  | plain

def Form.ofArgument (argument : String) : Form :=
  match argument.toList with
  | ['-', '-'] => .escape
  | '-' :: '-' :: rest =>
    let name := rest.takeWhile (· ≠ '=')
    let value := match rest.drop name.length with
      | _ :: value => some (String.ofList value)
      | [] => none
    .long (String.ofList name) value
  | '-' :: letter :: _ => .short letter
  | _ => .plain

-- Ends reading with an answer, if what is pending is in order.
def answer (g : Given) (pending : Pending) (e : UsageError) : UsageError :=
  match settle g pending with
  | .error fault => fault
  | .ok _ => e

-- Reads the arguments one by one. An argument that nothing expects is told of at once, even if
-- the value before it is wrong.
def scan : List String → Pending → Given → Except UsageError Given
  | [], pending, g => settle g pending
  | argument :: rest, pending, g =>
    match Form.ofArgument argument with
    | .escape =>
      match rest with
      | [] => settle g pending
      | next :: _ => .error (.unexpected next)
    | .long name value =>
      match Flag.ofName? name with
      | some flag =>
        match settle g pending with
        | .error fault => .error fault
        | .ok g =>
          match value with
          | none => scan rest (some (flag, none)) g
          | some value =>
            match g.set flag value with
            | .error fault => .error fault
            | .ok g => scan rest none g
      | none =>
        if name = "help" || name = "version" then
          match value with
          | some value => .error (.unneededValue value s!"--{name}")
          | none =>
            .error (answer g pending (if name = "help" then .help true else .version))
        else .error (.unexpected s!"--{name}")
    | .short letter =>
      if letter = 'h' then .error (answer g pending (.help false))
      else if letter = 'V' then .error (answer g pending .version)
      else .error (.unexpected s!"-{letter}")
    | .plain =>
      match pending with
      | some (flag, none) => scan rest (some (flag, some argument)) g
      | _ => .error (.unexpected argument)

end CommandLine

structure Options where
  kubeconfig : Option String
  manifest : String
  params : List String
  timeout : Nat
  pollInterval : Nat
  plan : Plan
  deriving Repr, DecidableEq

namespace Options

-- Reads the arguments; the environment may name the configuration of the cluster.
def parse (environment : Option String) (arguments : List String) :
    Except CommandLine.UsageError Options :=
  match CommandLine.scan arguments none .nothing with
  | .error fault => .error fault
  | .ok given =>
    let given := match given.kubeconfig, environment with
      | none, some path => given.set .kubeconfig path
      | _, _ => .ok given
    match given with
    | .error fault => .error fault
    | .ok given =>
      match given.manifest with
      | none => .error .missingArguments
      | some manifest =>
        .ok ⟨given.kubeconfig, manifest, given.params, given.timeout.getD 1800,
          given.pollInterval.getD 5, given.plan.getD .createUpdateDelete⟩

def settings (o : Options) : PollSettings := ⟨.ofSeconds o.pollInterval, .ofSeconds o.timeout⟩

end Options

end Rollout
