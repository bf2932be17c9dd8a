import AgentFlow.CommandLine.Run

/-!
The program: it takes what a command line names from the disk, runs the command line on it, and puts
back what the run has written. It has no way to the backend, so that every request fails.
-/

namespace AgentFlow.CommandLine

def Command.paths : Command → List String
  | .new out | .agentFlow _ out | .generateFlow _ out => out.toList
  | .exportAgent _ dir => dir.toList
  | .vars flow _ _ | .validate flow | .createAgent _ flow _ => [flow]
  | .testResource _ payload => payload.toList
  | .upload _ file _ _ => [file]
  | _ => []

def Invocation.paths (i : Invocation) : List String := i.configPath.toList ++ i.command.paths

def isDirectoryOnDisk (path : String) : IO Bool := do
  match ← (IO.FS.realPath path).toBaseIO with
  | .ok real => real.isDir
  | .error _ => return false

/-- Takes from the disk what lies on the way of some steps. -/
def take (fs : Files) (dir : String) : List String → IO Files
  | [] => return fs
  | "." :: rest => take fs dir rest
  | ".." :: rest => take fs (Files.parent dir) rest
  | name :: rest => do
    let spot := Files.child dir name
    if ← isDirectoryOnDisk spot then take (fs.put spot .directory) spot rest
    else
      match ← (IO.FS.readBinFile spot).toBaseIO with
      | .ok bytes => return fs.put spot (.file (.ofBytes bytes.toList))
      | .error _ => return fs

/-- The variables of the environment that count. -/
def environment : IO (List (String × String)) :=
  [Settings.urlVariable, Settings.logVariable].filterMapM fun name => do
    return (← IO.getEnv name).map fun value => (name, value)

def store (spot : String) : Content → IO Unit
  | .text s => IO.FS.writeFile spot s
  | .binary bytes => IO.FS.writeBinFile spot ⟨bytes.toArray⟩

end AgentFlow.CommandLine

open AgentFlow AgentFlow.CommandLine in
def main (args : List String) : IO UInt32 := do
  let paths := match read args with
    | .ok i => i.paths
    | .error _ => []
  let files ← paths.foldlM (fun fs path => take fs (fs.origin path) (Files.steps path))
    (Files.inDirectory (← IO.currentDir).toString)
  let exit := run (← environment) args ⟨files, ⟨.down, []⟩, "", ""⟩
  for (spot, content) in exit.world.files.changedSince files do
    store spot content
  (← IO.getStdout).putStr exit.world.out
  (← IO.getStderr).putStr exit.world.err
  return UInt32.ofNat exit.code
