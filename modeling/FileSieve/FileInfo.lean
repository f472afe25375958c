import FileSieve.Expression.Evaluation
import FileSieve.FileSystem

/-!
# Files as subjects

A `FileInfo` is a path with or without its metadata.  Metadata are loaded only for an expression
that reads something from them (`FileInfo.forExpression`); without them the path and its name are
the only answers.

A file can be older or younger than the calendar goes.  Such a file is a subject like any other
until it is asked for its time: there is no answer then, and the program ends (`Abort`).  So
`FileInfo.verdict` is the value of an expression or the reason why there is none.
-/

namespace FileSieve

/-- Why a question ends the program instead of being answered. -/
inductive Abort
  /-- The time of a file is on no day of the calendar. -/
  | undatedTime (time : Instant)
  deriving DecidableEq, Repr

/-- The wording of an abort. -/
def Abort.message : Abort → String
  | .undatedTime _ => "No such local time"

/-- A path, perhaps with its metadata. -/
structure FileInfo where
  /-- The path. -/
  path : FilePath
  /-- The metadata, if they have been loaded. -/
  metadata : Option Metadata := none
  deriving DecidableEq, Repr

/-- A path as a subject of its own: its name is the one at its end, if that is text. -/
def Subject.ofPath (path : FilePath) : Subject where
  name := path.name?
  path := some path

namespace FileInfo

/-- A path with its metadata loaded. -/
def stat (fs : FileSystem) (path : FilePath) : Except FileError FileInfo :=
  (fs.metadata path).map fun metadata => { path, metadata := some metadata }

/-- A path with what an expression reads from it. -/
def forExpression {α ρ : Type} [Operand α ρ] (fs : FileSystem) (path : FilePath)
    (e : Expression α) : Except FileError FileInfo :=
  if e.needsMetadata then stat fs path else .ok { path }

/-- The answer to the question for the time of the file. -/
def modTime (info : FileInfo) : Except Abort (Option Instant) :=
  match info.metadata.bind Metadata.modTime with
  | none => .ok none
  | some time => if time.isDated then .ok (some time) else .error (.undatedTime time)

/-- The file as a subject.  Its name is the one at the end of the path, or the whole path if it
does not end in a name; without either as text there is none.  A time that ends the program when it
is asked for is left out. -/
def subject (info : FileInfo) : Subject where
  name := info.path.name? <|> info.path.text?
  path := some info.path
  fileType := info.metadata.map Metadata.kind
  fileMode := info.metadata.map Metadata.mode
  modTime := info.modTime.toOption.join
  size := info.metadata.map Metadata.size

/-- Whether an expression holds of the file.  Up to the question that ends the program, if it is
asked at all, evaluating the expression is the same as for the file without a time. -/
def verdict {α ρ : Type} [Operand α ρ] (info : FileInfo) (e : Expression α) : Except Abort Bool :=
  match info.modTime with
  | .ok _ => .ok (e.eval info.subject)
  | .error abort =>
    if (e.asks info.subject).contains .modTime then .error abort else .ok (e.eval info.subject)

end FileInfo

end FileSieve
