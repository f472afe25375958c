import FileSieve.Environment.Setting
import FileSieve.FileSystem
import FileSieve.Text.Lines

/-!
# Settings files

A file `.env` in the working directory, or else in the nearest directory above that has one, sets
variables that are not set already.  Its lines count up to the first one that is malformed, and a
value may refer to variables that earlier lines have set.
-/

namespace FileSieve.Environment

/-- Sets the variables of the lines of a settings file. -/
def setLines (env : Environment) : List (Option String) → Environment
  | some text :: rest =>
    match readLine? env text with
    | some (.setting name value) => setLines (env.setDefault name value) rest
    | some .blank => setLines env rest
    | none => env
  | _ => env

/-- The paths at which the settings file of a directory is looked for, in order. -/
def settingsPaths (directory : FilePath) : List FilePath :=
  let names := directory.components
  (List.range (names.length + 1)).map fun n =>
    .ofComponents (names.take (names.length - n) ++ [(".env" : FilePath).bytes])

/-- The content of the first file among the paths; directories are passed over. -/
def firstFile? (fs : FileSystem) : List FilePath → Option ByteArray
  | [] => none
  | path :: rest =>
    match fs.bytes path with
    | .ok bytes => some bytes
    | .error .notFound => firstFile? fs rest
    | .error .isADirectory => firstFile? fs rest
    | .error _ => none

/-- The environment with the variables of the settings file of a directory. -/
def load (env : Environment) (fs : FileSystem) (directory : FilePath) : Environment :=
  match firstFile? fs (settingsPaths directory) with
  | some bytes => env.setLines (Text.byteLines bytes)
  | none => env

end FileSieve.Environment
