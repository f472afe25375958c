/-!
# Paths

A path is a sequence of bytes.  Every text is a path, in UTF-8, but a path need not be a text, so
that the way back may fail (`FilePath.text?`).

The components of a path are separated by slashes.  Empty components and single dots mean nothing,
so the last component is the last one that is neither; it is a name unless it is the step to the
parent directory.
-/

namespace FileSieve

/-- A path. -/
structure FilePath where
  /-- The bytes of the path. -/
  bytes : List UInt8
  deriving DecidableEq, Repr, Inhabited

namespace FilePath

/-! ## Paths and texts -/

/-- The text that bytes are, if they are one. -/
def decode? (bytes : List UInt8) : Option String := String.fromUTF8? ⟨bytes.toArray⟩

/-- The path that a text is. -/
def ofText (text : String) : FilePath := ⟨text.toUTF8.data.toList⟩

instance : Coe String FilePath := ⟨ofText⟩

/-- The path as text. -/
def text? (path : FilePath) : Option String := decode? path.bytes

@[simp] theorem text?_ofText (text : String) : (ofText text).text? = some text := by
  have hbytes : (⟨text.toUTF8.data.toList.toArray⟩ : ByteArray) = text.toUTF8 := by
    rw [Array.toArray_toList]
  rw [text?, decode?, ofText, hbytes, String.fromUTF8?, String.toUTF8_eq_toByteArray,
    dif_pos text.isValidUTF8]
  rfl

@[simp] theorem ofText_inj {a b : String} : ofText a = ofText b ↔ a = b := by
  constructor
  · intro h
    rw [← Option.some_inj, ← text?_ofText a, h, text?_ofText]
  · exact congrArg ofText

/-! ## Components -/

/-- The byte between components. -/
def slash : UInt8 := 47

/-- The byte of which the components with a meaning of their own consist. -/
def dot : UInt8 := 46

/-- The parts of a sequence of bytes between slashes, of which there is one more than slashes. -/
def split : List UInt8 → List (List UInt8)
  | [] => [[]]
  | b :: rest =>
    if b = slash then [] :: split rest
    else
      match split rest with
      | [] => [[b]]
      | part :: parts => (b :: part) :: parts

/-- The components of a path that mean something. -/
def components (path : FilePath) : List (List UInt8) :=
  (split path.bytes).filter fun part => part ≠ [] && part ≠ [dot]

/-- Whether the path starts at the root. -/
def isAbsolute (path : FilePath) : Bool := path.bytes.head? == some slash

/-- The absolute path with the given components. -/
def ofComponents (parts : List (List UInt8)) : FilePath := ⟨parts.flatMap (slash :: ·)⟩

/-- The name at the end of a path, if it ends in one. -/
def last? (path : FilePath) : Option (List UInt8) :=
  path.components.getLast?.filter (· ≠ [dot, dot])

/-- The name at the end of a path as text. -/
def name? (path : FilePath) : Option String := path.last?.bind decode?

end FilePath

end FileSieve
