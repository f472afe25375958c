import FileSieve.Text.Blank

/-!
# The written form of an operand

`Operand.written` joins a name and a value by `=`, in the spelling that the scan of tokens reads
back as exactly that name and that value.  A value without special characters stands for itself;
one without quotes is put between quotes; any other has each special character escaped by a
backslash.
-/

namespace FileSieve.Operand

/-- Whether a character has a meaning of its own in a value without quotes. -/
def isSpecial (c : Char) : Bool :=
  Text.isBlank c || c = '(' || c = ')' || c = '&' || c = '|' || c = '\\' || c = '\''

/-- The characters with a backslash before each special one. -/
def escape : List Char → List Char
  | [] => []
  | c :: rest => if isSpecial c then '\\' :: c :: escape rest else c :: escape rest

/-- The spelling of a value. -/
def writtenValue (value : List Char) : List Char :=
  if !value.any isSpecial then value
  else if !value.contains '\'' then '\'' :: value ++ ['\'']
  else escape value

/-- The written form of the operand with the given name and raw value. -/
def written (name value : String) : String :=
  name ++ "=" ++ String.ofList (writtenValue value.toList)

end FileSieve.Operand
