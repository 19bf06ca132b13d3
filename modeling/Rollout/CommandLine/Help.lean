import Rollout.CommandLine

namespace Rollout

namespace CommandLine

def programName : String := "machine-e2e"

def versionText : String := s!"{programName} 0.1.0\n"

structure Entry where
  title : String
  about : String
  remarks : List String
  -- The words it takes, with what they mean.
  words : List (String × String)

def spaces (n : Nat) : String := String.ofList (List.replicate n ' ')

def padTo (width : Nat) (text : String) : String := text ++ spaces (width - text.length)

def Flag.entry (environment : Option String) (flag : Flag) : Entry :=
  let title := s!"      {flag.render}"
  match flag with
  | .kubeconfig =>
    ⟨title, "Kubeconfig of the cluster under test; falls back to in-cluster config",
      ["[env: KUBECONFIG=" ++ environment.getD "" ++ "]"], []⟩
  | .manifest => ⟨title, "MachineDeployment manifest template", [], []⟩
  | .param => ⟨title, "Placeholder substitution, `<placeholder>=<value>` (repeatable)", [], []⟩
  | .timeout => ⟨title, "Deadline for each wait, in seconds", ["[default: 1800]"], []⟩
  | .pollInterval => ⟨title, "Interval between polls, in seconds", ["[default: 5]"], []⟩
  | .scenario =>
    ⟨title, "Scenario to run", [s!"[default: {Plan.createUpdateDelete.word}]"],
      Plan.all.map fun plan => (plan.word, plan.about)⟩

def entries (environment : Option String) (long : Bool) : List Entry :=
  let other := if long then "a summary with '-h'" else "more with '--help'"
  Flag.all.map (Flag.entry environment) ++
    [⟨"  -h, --help", s!"Print help (see {other})", [], []⟩,
      ⟨"  -V, --version", "Print version", [], []⟩]

def shortEntry (width : Nat) (e : Entry) : String :=
  let words := e.words.map (·.1)
  let possible :=
    if words.isEmpty then [] else ["[possible values: " ++ ", ".intercalate words ++ "]"]
  padTo width e.title ++ " ".intercalate (e.about :: e.remarks ++ possible) ++ "\n"

def longEntry (e : Entry) : String :=
  let indent := spaces 10
  let width := (e.words.map fun w => w.1.length).foldl max 0
  let words := e.words.map fun w =>
    let word := padTo (width + 2) (w.1 ++ ":")
    s!"{indent}- {word}{w.2}\n"
  let possible :=
    if words.isEmpty then "" else s!"\n{indent}Possible values:\n" ++ String.join words
  let remarks := e.remarks.map fun remark => s!"{indent}\n{indent}{remark}\n"
  s!"{e.title}\n{indent}{e.about}\n" ++ possible ++ String.join remarks

-- The text of help, in which long entries stand apart.
def helpText (environment : Option String) (long : Bool) : String :=
  let all := entries environment long
  let width := (all.map fun e => e.title.length + 2).foldl max 0
  let body :=
    if long then "\n".intercalate (all.map longEntry)
    else String.join (all.map (shortEntry width))
  "Verify MachineDeployment lifecycles against a Kubernetes control plane\n\n"
    ++ s!"Usage: {programName} [OPTIONS] --manifest <MANIFEST>\n\nOptions:\n" ++ body

-- What is told of a usage error: an answer in full, else its first line.
def UsageError.text (environment : Option String) (e : UsageError) : String :=
  match e with
  | .help long => helpText environment long
  | .version => versionText
  | e => s!"error: {e.message}"

end CommandLine

end Rollout
