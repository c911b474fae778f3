import EntityViews.Program
import Std.Time.DateTime.Timestamp

/-! The program: it reads what a run depends on, and prints what the run says.
-/

namespace EntityViews

/-- Why reading a file has failed, by the number of the error, which the system may give with
either sign.
-/
def FileError.ofNumber (code : UInt32) (text : String) : FileError :=
  match (min code (0 - code)).toNat with
  | 2 => .notFound
  | 13 => .other "Permission denied (os error 13)"
  | 20 => .notDirectory
  | 21 => .isDirectory
  | 36 => .nameTooLong
  | number => .other s!"{text} (os error {number})"

def FileError.ofSystem : IO.Error → FileError
  | .noFileOrDirectory _ code text
  | .inappropriateType _ code text
  | .invalidArgument _ code text
  | .permissionDenied _ code text
  | .resourceExhausted _ code text => .ofNumber code text
  | problem => .other problem.toString

/-- What cannot be resolved counts as missing, whatever keeps it from being resolved. -/
def readContent (path : String) : IO FileContent := do
  try
    let bytes ← IO.FS.readBinFile path
    match String.fromUTF8? bytes with
    | some text => return .text text
    | none => return .unreadable .notText
  catch problem =>
    try
      let _ ← IO.FS.realPath path
      return .unreadable (.ofSystem problem)
    catch _ => return .missing (.ofSystem problem)

/-- The paths of the files that a run may read. -/
def pathsOf (arguments : List String) : List String :=
  match CommandLine.read arguments with
  | .ok (.run settingsFile command) =>
      [settingsFile.getD Settings.usualFile, command.manifestPath]
  | _ => []

/-- The files that a run may read. -/
def readFiles (paths : List String) : IO Files := do
  let found ← paths.mapM fun path => return (path, ← readContent path)
  return fun path => (found.lookup path).getD (.missing .notFound)

def readEnvironment : IO Environment := do
  let found ← Environment.variables.mapM fun name => return (name, ← IO.getEnv name)
  return .ofLookup fun name => (found.lookup name).join

def readClock : IO Log.Timestamp := do
  let nanos := (← Std.Time.Timestamp.now).toNanosecondsSinceUnixEpoch.val
  return ⟨nanos / 1000000000, (nanos % 1000000000).toNat⟩

end EntityViews

def main (arguments : List String) : IO UInt32 := do
  let files ← EntityViews.readFiles (EntityViews.pathsOf arguments)
  let environment ← EntityViews.readEnvironment
  let time ← EntityViews.readClock
  let result := EntityViews.runProgram files environment arguments
  for notice in result.notices do
    IO.eprintln (notice.text time)
  IO.print result.output
  return result.exitCode.toUInt32
