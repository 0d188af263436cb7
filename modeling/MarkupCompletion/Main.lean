import MarkupCompletion.CommandLine.Program

/-
  The program as it runs on a system: everything it may need to see is read
  first, then `Program.run` decides, and then its outcome is written.
-/

namespace MarkupCompletion

namespace Program

def listDirectory (path : Text) : IO (Option (List Text)) := do
  match ← ((← IO.currentDir) / String.ofList path).readDir.toBaseIO with
  | .error _ => return none
  | .ok entries => return some (entries.toList.map fun e => e.fileName.toList)

def probe (path : Text) : IO (Option Entry) := do
  match ← listDirectory path with
  | some _ => return some .directory
  | none =>
    match ← (IO.FS.readBinFile (String.ofList path)).toBaseIO with
    | .error _ => return none
    | .ok bytes =>
      match String.fromUTF8? bytes with
      | some t => return some (.file (.text t.toList))
      | none => return some (.file .binary)

/-- The paths that lead to a path, and the path itself. -/
def pathsTo (path : Text) : List Text :=
  let names := pathSteps path
  let root : Text := if path.head? = some '/' then ['/'] else []
  (List.range names.length).map fun i => root ++ Text.joinWith ['/'] (names.take (i + 1))

/-- Adds what stands at a path and on the way to it. -/
def observe (fs : Files) (path : Text) : IO Files :=
  (pathsTo path).foldlM (fun fs p => do
    match ← probe p with
    | some e => return fs.put p e
    | none => return fs) fs

def observeDirectory (fs : Files) (path : Text) : IO Files := do
  let fs ← observe fs path
  match ← listDirectory path with
  | none => return fs
  | some names => names.foldlM (fun fs name => observe fs (pathJoin path name)) fs

partial def readInput (input : IO.FS.Stream) (bytes : ByteArray) : IO ByteArray := do
  let more ← input.read 65536
  if more.isEmpty then return bytes else readInput input (bytes ++ more)

/-- Standard input, if the document is to come from there. -/
def observeInput (a : Arguments) : IO Content := do
  if a.file != some ['-'] then return .text []
  let bytes ← readInput (← IO.getStdin) .empty
  match String.fromUTF8? bytes with
  | some t => return .text t.toList
  | none => return .binary

/-- The directory for settings of the user who runs the program. -/
def settingsDirectory : IO Text := do
  match ← IO.getEnv "XDG_CONFIG_HOME", ← IO.getEnv "HOME" with
  | some directory, home =>
    if directory.startsWith "/" then return directory.toList
    else return pathJoin ((home.getD ".").toList) ".config"
  | none, some home => return pathJoin home.toList ".config"
  | none, none => return ['.']

/-- The environment of a run with these arguments. -/
def observeEnvironment (a : Arguments) : IO Environment := do
  let settingsPath := settingsPath (← settingsDirectory)
  let here := (← IO.currentDir).toString.toList
  let fs ← observe { here } (a.settingsFile.getD settingsPath)
  let fs ← match a.file with
    | some path => observe fs path
    | none => pure fs
  let known : Environment := { files := fs, input := ← observeInput a, settingsPath }
  match readSettings known a with
  | .error _ => return known
  | .ok (s, _) =>
    let fs ← match s.schemas.directory with
      | some directory => observeDirectory fs directory
      | none => pure fs
    let fs ← s.schemas.catalog.foldlM (fun fs e => observe fs e.path) fs
    return { known with files := fs }

end Program

end MarkupCompletion

open MarkupCompletion in
/-- Runs the program. -/
def main (argv : List String) : IO UInt32 := do
  let argv : List Text := argv.map String.toList
  let exit ← match Arguments.parse argv with
    | .error e => pure (Program.refused e)
    | .ok a => do
      let env ← Program.observeEnvironment a
      pure (Program.run env argv)
  IO.print (String.ofList exit.output)
  IO.eprint (String.ofList exit.errors)
  return exit.code.toUInt32
