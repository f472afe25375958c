import FileSieve.ByteCount
import FileSieve.Instant.Read
import FileSieve.Operand.Written
import FileSieve.Regex
import FileSieve.Registry

/-!
# Built-in operands

Five operands come with the library:

* `re=PATTERN`: the name contains a match of a regular expression;
* `type=f`, `type=d`, `type=l`: a regular file, a directory or a symbolic link;
* `newer=TIME`: changed strictly after a time;
* `file-larger=SIZE` and `file-smaller=SIZE`: a regular file strictly above or below a size.

An operand keeps its raw value, which is its written form, next to what preparing it makes of the
value.  Until it is prepared it holds of no subject.
-/

namespace FileSieve

/-! ## Operands -/

/-- The side of a size on which a file has to be. -/
inductive SizeBound
  | larger
  | smaller
  deriving DecidableEq, Repr, Inhabited

/-- A built-in operand: its raw value, and the prepared one if there is one. -/
inductive Builtin
  /-- The name contains a match. -/
  | pattern (raw : String) (regex : Option Regex)
  /-- The file is of a kind. -/
  | fileType (raw : String) (kind : Option FileKind)
  /-- The file is newer than an instant. -/
  | newer (raw : String) (instant : Option Instant)
  /-- The file is larger or smaller than a byte count. -/
  | size (bound : SizeBound) (raw : String) (count : Option Nat)
  deriving Inhabited

namespace Builtin

/-- Why a built-in operand refuses its value. -/
inductive Refusal
  /-- The value is no pattern. -/
  | pattern (e : Regex.Error)
  /-- The value names no kind of file. -/
  | fileType (raw : String)
  /-- The value is no time. -/
  | time (raw : String)
  /-- The value is no size. -/
  | size (raw : String)
  deriving DecidableEq, Repr, Inhabited

/-- The wording of a refusal. -/
def Refusal.message : Refusal → String
  | .pattern e => e.message
  | .fileType raw => "invalid file type: " ++ raw
  | .time raw => "invalid time: " ++ raw
  | .size raw => "invalid size: " ++ raw

instance : ToString Refusal := ⟨Refusal.message⟩

/-- The raw value. -/
def raw : Builtin → String
  | .pattern raw _ => raw
  | .fileType raw _ => raw
  | .newer raw _ => raw
  | .size _ raw _ => raw

/-- The name of the operand. -/
def name : Builtin → String
  | .pattern _ _ => "re"
  | .fileType _ _ => "type"
  | .newer _ _ => "newer"
  | .size .larger _ _ => "file-larger"
  | .size .smaller _ _ => "file-smaller"

/-- The information that the operand reads. -/
def capabilities : Builtin → List Capability
  | .pattern _ _ => [.name]
  | .fileType _ _ => [.fileType]
  | .newer _ _ => [.modTime]
  | .size _ _ _ => [.fileType, .size]

/-! ## Preparation -/

/-- The kind of file that a letter stands for. -/
def kindOf? : String → Option FileKind
  | "f" => some .file
  | "d" => some .dir
  | "l" => some .symlink
  | _ => none

/-- The operand ready for evaluation. -/
def prepare : Builtin → Except Refusal Builtin
  | .pattern raw _ =>
    match Regex.compile raw with
    | .ok regex => .ok (.pattern raw (some regex))
    | .error e => .error (.pattern e)
  | .fileType raw _ =>
    match kindOf? raw with
    | some kind => .ok (.fileType raw (some kind))
    | none => .error (.fileType raw)
  | .newer raw _ =>
    match Instant.read? raw with
    | some instant => .ok (.newer raw (some instant))
    | none => .error (.time raw)
  | .size bound raw _ =>
    match ByteCount.read? raw with
    | some count => .ok (.size bound raw (some count))
    | none => .error (.size raw)

/-! ## Evaluation -/

/-- Whether a size is on the given side of a byte count. -/
def SizeBound.holds (size count : Nat) : SizeBound → Bool
  | .larger => count < size
  | .smaller => size < count

/-- Whether the operand holds of a subject; information that the subject does not carry never
matches. -/
def eval : Builtin → Subject → Bool
  | .pattern _ (some regex), subject => subject.name.any regex.isMatch
  | .fileType _ (some kind), subject => subject.fileType == some kind
  | .newer _ (some instant), subject => subject.modTime.any (·.isAfter instant)
  | .size bound _ (some count), subject =>
    subject.fileType == some .file && subject.size.any fun size => SizeBound.holds size count bound
  | _, _ => false

/-- The questions that the operand asks a subject, in order: the size of nothing but a regular file
is asked for. -/
def asks : Builtin → Subject → List Capability
  | .pattern _ _, _ => [.name]
  | .fileType _ _, _ => [.fileType]
  | .newer _ _, _ => [.modTime]
  | .size _ _ _, subject =>
    if subject.fileType == some .file then [.fileType, .size] else [.fileType]

instance : Operand Builtin Refusal where
  name := name
  text a := Operand.written a.name a.raw
  capabilities := capabilities
  prepare := prepare
  eval := eval
  asks := asks

/-! ## Factories -/

/-- The built-in operands by name, each made from a raw value. -/
def makers : List (String × (String → Builtin)) :=
  [("re", (.pattern · none)),
   ("type", (.fileType · none)),
   ("newer", (.newer · none)),
   ("file-larger", (.size .larger · none)),
   ("file-smaller", (.size .smaller · none))]

/-- The factory that a maker is, whatever name it is registered under. -/
def factory (make : String → Builtin) : Factory Builtin := fun _ value => make value

end Builtin

/-- The registry of the built-in operands. -/
def Registry.builtins : Registry Builtin :=
  Builtin.makers.foldl (fun r entry => r.register entry.1 (Builtin.factory entry.2)) Registry.empty

end FileSieve
