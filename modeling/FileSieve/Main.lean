import Std.Data.TreeMap
import FileSieve.Command.Run

/-!
# The program

Runs the command that the arguments ask for.  What the command can ask about the real file system
is known before it runs: the settings files, the filter file and the paths.  Their answers are
collected first, and the command runs on them.
-/

namespace FileSieve

/-! ## Answers of the real file system -/

/-- The reason behind an error of the system, whose number some calls give with a minus sign. -/
def FileError.ofSystem : IO.Error → FileError
  | .noFileOrDirectory _ _ _ => .notFound
  | .noSuchThing _ _ _ => .notFound
  | e@(.inappropriateType _ code _) =>
    if code = 20 ∨ code = 0 - 20 then .notADirectory
    else if code = 21 ∨ code = 0 - 21 then .isADirectory
    else .other (toString e)
  | e => .other (toString e)

/-- The kind of a file. -/
def FileKind.ofSystem : IO.FS.FileType → FileKind
  | .file => .file
  | .dir => .dir
  | .symlink => .symlink
  | .other => .other

/-- The metadata of a file, without its permission bits. -/
def Metadata.ofSystem (m : IO.FS.Metadata) : Metadata where
  kind := FileKind.ofSystem m.type
  mode := 0
  modTime := some ⟨m.modified.sec, m.modified.nsec.toNat⟩
  size := m.byteSize.toNat

/-- What an action of the system answers, or why it fails. -/
def answerOf {α : Type} (action : IO α) : BaseIO (Except FileError α) := do
  match ← action.toBaseIO with
  | .ok a => return .ok a
  | .error e => return .error (FileError.ofSystem e)

/-- Answers by path. -/
abbrev Answers (α : Type) := Std.TreeMap String (Except FileError α)

/-- The answers to a question about each of the listed paths; the empty path leads nowhere. -/
def answersFor {α : Type} (question : String → IO α) (paths : List String) :
    BaseIO (Answers α) :=
  paths.foldlM (fun answers path => do
    let answer ← if path.isEmpty then pure (.error .notFound) else answerOf (question path)
    return answers.insert path answer) {}

/-- The file system that knows what has been collected, which is about paths that are text. -/
def FileSystem.ofAnswers (metadata : Answers Metadata) (bytes : Answers ByteArray) :
    FileSystem where
  metadata path := (path.text?.bind fun text => metadata[text]?).getD (.error .notFound)
  bytes path := (path.text?.bind fun text => bytes[text]?).getD (.error .notFound)

/-! ## Running -/

/-- The variables of a block of memory that holds them, each ended by a zero. -/
def Environment.ofBlock (block : ByteArray) : Environment :=
  let entries := (String.fromUTF8? block).getD "" |>.splitOn "\x00"
  .ofList (entries.filterMap fun entry =>
    match entry.splitOn "=" with
    | name :: value :: more => some (name, "=".intercalate (value :: more))
    | _ => none)

namespace Command

/-- The paths whose metadata a command can ask for. -/
def candidates (w : Surroundings) : Command → List String
  | .search _ given => (pathsFrom w given).toOption.getD []
  | .filter _ given _ => (pathsFrom w given).toOption.getD []
  | _ => []

/-- The filter file that a command reads. -/
def filterPaths (environment : Environment) : Command → List String
  | .filter _ _ file => (filterFile? environment file).toList
  | _ => []

/-- Whether a command takes its paths from standard input. -/
def readsInput : Command → Bool
  | .search _ given => given.isEmpty
  | .filter _ given _ => given.isEmpty
  | _ => false

end Command

/-- The text of standard input. -/
def readInput : IO (Except FileError String) := do
  let bytes ← answerOf (do (← IO.getStdin).readBinToEnd)
  return bytes >>= fun bytes =>
    match String.fromUTF8? bytes with
    | some text => .ok text
    | none => .error .notText

/-- Runs a command in the real surroundings. -/
def runCommand (command : Command) : IO Outcome := do
  let directory ← IO.currentDir
  let block ← answerOf (IO.FS.readBinFile "/proc/self/environ")
  let read (path : String) := IO.FS.readBinFile (directory / path)
  let look (path : String) := return Metadata.ofSystem (← (directory / path).symlinkMetadata)
  let settings ← answersFor read
    ((Environment.settingsPaths directory.toString).filterMap FilePath.text?)
  let environment :=
    (Environment.ofBlock (block.toOption.getD ByteArray.empty)).load (.ofAnswers {} settings)
      directory.toString
  let input ← if command.readsInput then readInput else pure (.ok "")
  let w : Surroundings := { files := .ofAnswers {} {}, environment, input }
  let filters ← answersFor read (command.filterPaths environment)
  let metadata ← answersFor look (command.candidates w)
  return command.run { w with files := .ofAnswers metadata filters }

end FileSieve

/-- Runs the command that the arguments ask for. -/
def main (args : List String) : IO UInt32 := do
  let outcome ←
    match FileSieve.Command.ofArguments? args with
    | some command => FileSieve.runCommand command
    | none => pure FileSieve.Command.misused
  IO.print outcome.output
  IO.eprint outcome.errors
  return UInt32.ofNat outcome.code
