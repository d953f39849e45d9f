import SchemaMigration.Archive.Reading
import SchemaMigration.CommandLine.Run

/-!
# `SchemaMigration.Main`: the program

Reads the words of the command line, runs the command over the files of the
machine and prints what it wrote.
-/

set_option autoImplicit false

namespace SchemaMigration.Program

open SchemaMigration.CommandLine
open SchemaMigration.Calendar

/-- Runs an action and tells the reason of its failure. -/
def attempt {α : Type} (action : IO α) : IO (Except String α) := do
  try
    return .ok (← action)
  catch e =>
    return .error (toString e)

/-- Whether there is a file or directory. -/
def exists? (path : String) : IO Bool :=
  (IO.FS.DirEntry.mk path "").root.pathExists

/-- Whether there is a directory. -/
def isDirectory (path : String) : IO Bool :=
  (IO.FS.DirEntry.mk path "").root.isDir

/-- The names in a directory, as the machine lists them. A file holds none. -/
def names (path : String) : IO (List String) := do
  if ← isDirectory path then
    let found ← (IO.FS.DirEntry.mk path "").root.readDir
    return found.toList.map (·.fileName)
  else return []

/-- Makes a temporary file in a directory, with an archive without entries. -/
def openTemporary (directory : String) : IO String := do
  let path := Path.join directory s!".tmp{← IO.monoNanosNow}"
  let handle ← IO.FS.Handle.mk path .writeNew
  handle.write (Zip.encode []).toByteArray
  return path

/-- Writes the archive in a temporary file once more, with an entry behind its entries. -/
def addEntry (temporary name text : String) : IO Unit := do
  let members := (Zip.members? (← IO.FS.readBinFile temporary)).getD []
  let entries := members.filterMap fun member =>
    member.text.toOption.map fun text => (member.name, text)
  IO.FS.writeBinFile temporary (Zip.encode (entries ++ [(name, text)])).toByteArray

/-- Moves a temporary file to its target, or deletes it. -/
def place (temporary target : String) : IO Unit := do
  try
    IO.FS.rename temporary target
  catch e =>
    IO.FS.removeFile temporary
    throw e

/-- Reads an archive. -/
def archive (path : String) : IO (Except ArchiveFault (List ArchiveMember)) := do
  if ← isDirectory path then return .error (.notAnArchive "Is a directory")
  match ← attempt (IO.FS.readBinFile path) with
  | .error reason => return .error (.unreadable reason)
  | .ok bytes =>
    match Zip.members? bytes with
    | some members => return .ok members
    | none => return .error (.notAnArchive "invalid Zip archive")

/-- The files of the machine. -/
instance : Storage IO where
  readBytes path := attempt do return (← IO.FS.readBinFile path).toList
  readArchive := archive
  pathExists := exists?
  namesIn path := attempt (names path)
  makeDirectories path :=
    attempt do if path ≠ "" then IO.FS.createDirAll (IO.FS.DirEntry.mk path "").root
  writeText path text := attempt (IO.FS.writeFile path text)
  openTemporary directory := attempt (openTemporary directory)
  addEntry temporary name text := attempt (addEntry temporary name text)
  discardTemporary temporary := do
    let _ ← attempt (IO.FS.removeFile temporary)
  placeArchive temporary target := attempt (place temporary target)

/-- The day number of 1 January 1970. -/
def epochDay : Int := 719468

/-- The current time: the time at which a file made now was made. -/
def now : IO Moment := do
  let (_, path) ← IO.FS.createTempFile
  let time := (← path.metadata).modified
  IO.FS.removeFile path
  return {
    day := epochDay + time.sec / 86400
    second := (time.sec % 86400).toNat
    nanosecond := time.nsec.toNat % 1000000000
    second_lt := by omega
    nanosecond_lt := by split <;> omega }

/-- How the program is called. -/
def helpText : String :=
  String.intercalate "\n" [
    "Turns designer schemas into ordered migration archives",
    "",
    "Usage: [OPTIONS] <COMMAND>",
    "",
    "Commands:",
    "  generate <SCHEMA> [-o <OUTPUT> | --dir <DIR>] [--base-time <BASE_TIME>]",
    "           [--step-seconds <STEP_SECONDS>] [--lenient-fks] [--overwrite]",
    "  validate <SCHEMA> [--lenient-fks]",
    "  preview <SCHEMA> [--base-time <BASE_TIME>] [-f <FILE>] [--lenient-fks]",
    "  inspect <ARCHIVE> [--schema]",
    "  help [COMMAND]",
    "",
    "Options:",
    "  -v, --verbose          Enable debug logging",
    "  -c, --config <CONFIG>  Configuration file (defaults to ./schemer.toml when present)",
    "  -h, --help             Print help",
    "  -V, --version          Print version",
    ""]

/-- The version of the program. -/
def versionText : String := "0.1.0\n"

/-- What is wrong with the words of a command line. -/
def usageText : Usage → String
  | .help | .nothingGiven => helpText
  | .version => versionText
  | .missingCommand => "error: a subcommand is required\n"
  | .unknownCommand => "error: unrecognized subcommand\n"
  | .unknownArgument => "error: unexpected argument\n"
  | .valueOfFlag => "error: unexpected value for a flag\n"
  | .conflict => "error: an argument cannot be used with another, or more than once\n"
  | .missingValue => "error: a value is required but none was supplied\n"
  | .badValue => "error: invalid value for an argument\n"
  | .missingArgument => "error: a required argument was not provided\n"

end SchemaMigration.Program

open SchemaMigration SchemaMigration.CommandLine in
/-- Runs the program. The result is its exit code. -/
def main (words : List String) : IO UInt32 := do
  match Invocation.ofWords words with
  | .error usage =>
    match usage with
    | .help | .version =>
      IO.print (Program.usageText usage)
      return 0
    | usage =>
      IO.eprint (Program.usageText usage)
      return 2
  | .ok invocation =>
    let (outcome, transcript) ← invocation.transcript (m := IO) (← Program.now)
    IO.eprint transcript.warnings
    IO.print transcript.out
    match outcome with
    | .ok () => return 0
    | .error failure =>
      IO.eprint failure.report
      return 1
