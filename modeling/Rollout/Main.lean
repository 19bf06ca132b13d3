import Rollout.Program
import Rollout.ResourceDefinition

namespace Rollout

namespace Main

-- What there is under a path of the working directory, if anything.
def entry? (path : String) : IO (Option (String × FileEntry)) := do
  try
    return some (path, .file (← IO.FS.readBinFile path))
  catch
    | .inappropriateType .. => return some (path, .directory)
    | _ => return none

-- The files that the arguments and the environment name.
def place (arguments : List String) : IO Workplace := do
  let kubeconfig ← IO.getEnv "KUBECONFIG"
  let paths := match Options.parse kubeconfig arguments with
    | .ok o => o.manifest :: o.kubeconfig.toList
    | .error _ => []
  return ⟨⟨← paths.filterMapM entry?⟩, kubeconfig⟩

-- No cluster is reached from here, and nothing is waited for.
def surroundings : Surroundings Float :=
  ⟨fun _ _ => (.unreachable "client error (Connect)", .zero), fun _ => 0.5, fun _ => .zero, 1⟩

def verify (arguments : List String) : IO UInt32 := do
  let filter := LogFilter.ofEnvironment (← IO.getEnv "RUST_LOG")
  let format := LogFormat.ofEnvironment (← IO.getEnv "RUST_LOG_FORMAT")
  let ending := Program.ending (← place arguments) filter arguments surroundings
  for entry in ending.log do
    IO.println (format.line entry)
  if let some answer := ending.answer then
    IO.print answer
  if !ending.complaint.isEmpty then
    IO.eprintln ending.complaint
  return ending.exitCode.toUInt32

-- Writes the files of definitions.
def define : IO UInt32 := do
  IO.FS.createDirAll ResourceDefinition.directory
  for d in ResourceDefinition.all do
    IO.FS.writeFile s!"{ResourceDefinition.directory}/{d.fileName}" d.fileText
  IO.print ResourceDefinition.report
  return 0

end Main

end Rollout

-- Verifies a deployment; under the name crdgen, writes the definitions of its resources.
def main (arguments : List String) : IO UInt32 := do
  if (toString (← IO.appPath)).endsWith "crdgen" then Rollout.Main.define
  else Rollout.Main.verify arguments
