import FileSieve.FileSystem

/-!
# File trees

A file system that is given by its entries: files, directories and symbolic links, each at a list
of names that leads to it from the root.  Names are bytes, as paths are.  A path is resolved name by
name (`Tree.walk`) from the working directory or, if it starts with a slash, from the root.  A
symbolic link is followed wherever the path goes on after it.
-/

namespace FileSieve

/-- An entry of a file tree. -/
inductive TreeEntry
  /-- A regular file. -/
  | file (mode : Nat) (modTime : Instant) (content : ByteArray)
  /-- A directory. -/
  | dir (mode : Nat) (modTime : Instant)
  /-- A symbolic link. -/
  | symlink (modTime : Instant) (target : FilePath)
  /-- A file of another kind, which has no content. -/
  | device
  deriving Inhabited

/-- A tree of files. -/
structure Tree where
  /-- The entries, by the names that lead to them from the root.  The root itself is always a
  directory. -/
  entries : List (List (List UInt8) × TreeEntry) := []
  /-- The names that lead to the working directory. -/
  workingDirectory : List (List UInt8) := []

namespace Tree

/-! ## Building trees -/

/-- The instant at which entries are made whose time is not given. -/
def now : Instant := ⟨1780000000, 0⟩

/-- The entry at the given names. -/
def find? (t : Tree) (names : List (List UInt8)) : Option TreeEntry :=
  if names.isEmpty then some (.dir 0o755 now) else t.entries.lookup names

/-- Adds an entry with the directories that lead to it. -/
def add (t : Tree) (names : List (List UInt8)) (entry : TreeEntry) : Tree :=
  let fronts := (List.range names.length).map fun n => names.take n
  let missing := fronts.filter fun front => (t.find? front).isNone
  let others := t.entries.filter fun e => e.1 ≠ names
  { t with entries := (names, entry) :: missing.map (·, .dir 0o755 now) ++ others }

/-! ## Paths -/

/-- The greatest number of symbolic links that are followed. -/
def linkLimit : Nat := 40

/-- The greatest number of bytes in a name. -/
def nameLimit : Nat := 255

/-- The names that lead to what a list of components means, from the directory at `names` on.
Where the path ends in a symbolic link, `followLast` says whether it is followed. -/
def walk (t : Tree) (followLast : Bool) : (fuel links : Nat) → (names : List (List UInt8)) →
    List (List UInt8) → Except FileError (List (List UInt8) × TreeEntry)
  | 0, _, _, _ => .error .linkLoop
  | _, _, names, [] =>
    match t.find? names with
    | some entry => .ok (names, entry)
    | none => .error .notFound
  | fuel + 1, links, names, part :: rest =>
    if part = [] ∨ part = [FilePath.dot] then walk t followLast fuel links names rest
    else if part = [FilePath.dot, FilePath.dot] then
      walk t followLast fuel links names.dropLast rest
    else if nameLimit < part.length then .error .nameTooLong
    else
      match t.find? (names ++ [part]) with
      | none => .error .notFound
      | some (.dir _ _) => walk t followLast fuel links (names ++ [part]) rest
      | some (.symlink time target) =>
        if rest.isEmpty && !followLast then .ok (names ++ [part], .symlink time target)
        else if links = 0 then .error .linkLoop
        else
          let start := if target.isAbsolute then [] else names
          walk t followLast fuel (links - 1) start (FilePath.split target.bytes ++ rest)
      | some entry => if rest.isEmpty then .ok (names ++ [part], entry) else .error .notADirectory

/-- The entry that a path leads to. -/
def resolve (t : Tree) (followLast : Bool) (path : FilePath) :
    Except FileError (List (List UInt8) × TreeEntry) :=
  if path.bytes.isEmpty then .error .notFound
  else
    let longest := t.entries.foldl (fun n e =>
      match e.2 with
      | .symlink _ target => max n target.bytes.length
      | _ => n) 0
    let fuel := path.bytes.length + 2 + (linkLimit + 1) * (longest + 2)
    t.walk followLast fuel linkLimit (if path.isAbsolute then [] else t.workingDirectory)
      (FilePath.split path.bytes)

/-! ## The tree as a file system -/

/-- The metadata of an entry. -/
def metadataOf : TreeEntry → Metadata
  | .file mode modTime content => ⟨.file, mode, some modTime, content.size⟩
  | .dir mode modTime => ⟨.dir, mode, some modTime, 4096⟩
  | .symlink modTime target => ⟨.symlink, 0o777, some modTime, target.bytes.length⟩
  | .device => ⟨.other, 0o666, some now, 0⟩

/-- The bytes of an entry. -/
def bytesOf : TreeEntry → Except FileError ByteArray
  | .file _ _ content => .ok content
  | .dir _ _ => .error .isADirectory
  | .symlink _ _ => .error .linkLoop
  | .device => .ok ByteArray.empty

/-- The file system that the tree is. -/
def fileSystem (t : Tree) : FileSystem where
  metadata path := (t.resolve false path).map fun found => metadataOf found.2
  bytes path := t.resolve true path >>= fun found => bytesOf found.2

end Tree

end FileSieve
