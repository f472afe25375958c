import FileSieve.FilePath
import FileSieve.Instant

/-!
# Subjects

What an expression is evaluated on.  A `Subject` answers seven questions, each of which it may
leave open; `Capability` names the questions.  An operand declares the capabilities that it reads,
so that a caller can tell which answers it has to prepare: four of them take a look at the file
system (`Capability.needsMetadata`).
-/

namespace FileSieve

/-! ## Capabilities -/

/-- A piece of information that an operand may read from a subject. -/
inductive Capability
  | name
  | path
  | fileType
  | fileMode
  | modTime
  | size
  | xattr
  deriving DecidableEq, Repr, Inhabited

namespace Capability

/-- Every capability, in the order in which they are listed to a reader. -/
def all : List Capability := [name, path, fileType, fileMode, modTime, size, xattr]

theorem mem_all (c : Capability) : c ∈ all := by
  cases c <;> decide

/-- How the capability is written. -/
def text : Capability → String
  | name => "name"
  | path => "path"
  | fileType => "file-type"
  | fileMode => "file-mode"
  | modTime => "mod-time"
  | size => "size"
  | xattr => "xattr"

/-- Whether providing the capability takes the metadata of a file. -/
def needsMetadata : Capability → Bool
  | fileType => true
  | fileMode => true
  | modTime => true
  | size => true
  | _ => false

end Capability

/-! ## Subjects -/

/-- The kinds of files that are told apart. -/
inductive FileKind
  | file
  | dir
  | symlink
  | other
  deriving DecidableEq, Repr, Inhabited

/-- A value that an expression is evaluated on, as its answers; `none` means that the subject does
not carry the information. -/
structure Subject where
  /-- The name that patterns are matched against. -/
  name : Option String := none
  /-- The path of a file. -/
  path : Option FilePath := none
  /-- The kind of a file. -/
  fileType : Option FileKind := none
  /-- The permission bits of a file. -/
  fileMode : Option Nat := none
  /-- When the content of a file was last changed. -/
  modTime : Option Instant := none
  /-- The number of bytes in a file. -/
  size : Option Nat := none
  /-- The extended attribute with a given key. -/
  xattr : String → Option (List UInt8) := fun _ => none

namespace Subject

/-- A plain text as a subject: it has a name and nothing else. -/
def ofText (text : String) : Subject where
  name := some text

end Subject

end FileSieve
