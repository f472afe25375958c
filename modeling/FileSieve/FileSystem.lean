import FileSieve.Subject

/-!
# File systems

What the library asks of a file system, as a value: the metadata of a path and the bytes of a
file.  Metadata are those of the path itself, so a symbolic link is not followed when it is looked
up; it is followed when it is read.  The time of a file is a count of seconds, for which there need
not be a day in the calendar.
-/

namespace FileSieve

/-- Why a file system cannot answer. -/
inductive FileError
  /-- Nothing is there. -/
  | notFound
  /-- A file is used as a directory. -/
  | notADirectory
  /-- A directory is read as a file. -/
  | isADirectory
  /-- The content of the file is not text. -/
  | notText
  /-- Symbolic links lead in a circle. -/
  | linkLoop
  /-- A name is too long to exist. -/
  | nameTooLong
  /-- Any other reason, in the words of the file system. -/
  | other (message : String)
  deriving DecidableEq, Repr, Inhabited

/-- The wording of a file error. -/
def FileError.message : FileError → String
  | .notFound => "No such file or directory (os error 2)"
  | .notADirectory => "Not a directory (os error 20)"
  | .isADirectory => "Is a directory (os error 21)"
  | .notText => "stream did not contain valid UTF-8"
  | .linkLoop => "Too many levels of symbolic links (os error 40)"
  | .nameTooLong => "File name too long (os error 36)"
  | .other message => message

/-- What a file system tells about a path without opening it. -/
structure Metadata where
  /-- The kind of the file. -/
  kind : FileKind
  /-- The permission bits. -/
  mode : Nat
  /-- When the content was last changed, if the file system keeps track of it. -/
  modTime : Option Instant
  /-- The number of bytes. -/
  size : Nat
  deriving DecidableEq, Repr, Inhabited

/-- A file system as its answers. -/
structure FileSystem where
  /-- The metadata of a path, without following a symbolic link at its end. -/
  metadata : FilePath → Except FileError Metadata
  /-- The bytes of a file. -/
  bytes : FilePath → Except FileError ByteArray

/-- The content of a file as text. -/
def FileSystem.readText (fs : FileSystem) (path : FilePath) : Except FileError String :=
  match fs.bytes path with
  | .error e => .error e
  | .ok bytes =>
    match String.fromUTF8? bytes with
    | some text => .ok text
    | none => .error .notText

end FileSieve
