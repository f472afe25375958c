import FileSieve.FileInfo

/-!
# Selecting paths

The paths of a list for which an expression holds, in their order.  A path whose metadata are
needed and cannot be read is passed over.  A file that ends the program ends the selection, which
keeps what it has selected so far.
-/

namespace FileSieve

/-- What selecting paths comes to. -/
structure Selection where
  /-- The paths that are selected. -/
  paths : List String := []
  /-- Why the selection breaks off after them, if it does. -/
  abort? : Option Abort := none
  deriving DecidableEq, Repr

/-- The selection with another path before it. -/
def Selection.after (path : String) (s : Selection) : Selection :=
  { s with paths := path :: s.paths }

namespace Expression

variable {α ρ : Type} [Operand α ρ]

/-- The selection among the paths of a list for which the expression holds. -/
def select (fs : FileSystem) (e : Expression α) : List String → Selection
  | [] => {}
  | path :: rest =>
    match FileInfo.forExpression fs path e with
    | .error _ => select fs e rest
    | .ok info =>
      match info.verdict e with
      | .ok true => (select fs e rest).after path
      | .ok false => select fs e rest
      | .error abort => { abort? := some abort }

end Expression

end FileSieve
