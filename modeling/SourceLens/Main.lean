import SourceLens.Main.Options
import SourceLens.Main.Rules
import SourceLens.Main.Toml

/-!
# The program

Loads the settings, reads the files of the working directory, runs the command line on them and
prints the outcome. No grammars come with the program, so sources are read as text, and what needs
their trees reports the package that it lacks.
-/
namespace SourceLens

/-- The entry of a directory on the disk; a file that cannot be read has no bytes. -/
partial def entryOf (found : IO.FS.DirEntry) : IO Entry := do
  if ← found.path.isDir then
    let inside ← found.path.readDir
    return .directory found.fileName (← inside.toList.mapM entryOf)
  else
    let content ← try IO.FS.readBinFile found.path catch _ => pure ByteArray.empty
    return .file found.fileName content

/-- The files of the working directory, and the directories around it without anything else. -/
def workingFiles : IO FileSystem := do
  let here ← IO.currentDir
  let inside ← here.readDir
  let names := (Path.parse here.toString).names.reverse
  return { entries := ← inside.toList.mapM entryOf, around := names.map fun name => ⟨name, []⟩ }

/-- The path of the settings file. -/
def settingsPath : IO String := do
  let home := (← IO.getEnv "HOME").getD ""
  let base := (← IO.getEnv "ASTREAD_HOME").getD (home ++ "/.astread")
  return base ++ "/config.toml"

/-- The settings file on the disk. -/
def settingsFile (path : String) : IO SettingsFile := do
  try return .written (← IO.FS.readBinFile path)
  catch
    | .noFileOrDirectory .. => return .absent
    | error => return .refused ⟨0, toString error⟩

/-- A tree without a text. -/
def bareTree : Tree :=
  .node
    { kind := "", field := none, named := true, missing := false, broken := false, startByte := 0
      endByte := 0, start := ⟨0, 0⟩, stop := ⟨0, 0⟩ }
    ByteArray.empty []

/-- The grammars of a program that comes without any. -/
def noGrammars : Grammars := { absent := ["tree_sitter"], tree := fun _ _ => bareTree }

/-- Load the settings; what is wrong with the file goes to the standard error. -/
def loadSettings : IO Settings := do
  let path ← settingsPath
  match Settings.load .strict Toml.reader (← settingsFile path) with
  | .ok (settings, warnings) =>
    for warning in warnings do IO.eprintln (warning.message path)
    return settings
  | .error (.encoding fault) => throw (IO.userError fault.message)
  | .error (.unread kind words) => throw (IO.userError (kind ++ ": " ++ words))
  | .error (.misfit complaints) => throw (IO.userError (describeComplaints complaints))

end SourceLens

open SourceLens

/-- Run the command line and answer with its exit status. -/
def main (args : List String) : IO UInt32 := do
  let settings ← loadSettings
  match CommandLine.understand Options.parser args with
  | .error error =>
    IO.eprintln error.message
    return CommandLine.usageStatus.toUInt32
  | .ok _ =>
    let workspace : Workspace :=
      { files := ← workingFiles, grammars := noGrammars, rules := .strict, settings }
    match CommandLine.run Options.parser workspace args with
    | .error why =>
      IO.eprintln why.message
      return CommandLine.brokenStatus.toUInt32
    | .ok outcome =>
      IO.print outcome.output
      return outcome.exitCode.toUInt32
