/-!
# JSON values

Values in the format JSON, written over several lines with two blanks for each level.
-/

namespace FileSieve

/-- A value that can be written as JSON. -/
inductive JsonValue
  | text (s : String)
  | list (items : List JsonValue)
  | record (fields : List (String × JsonValue))
  deriving Inhabited

namespace JsonValue

/-- The four hexadecimal digits of a number below 65536. -/
def fourDigits (n : Nat) : List Char :=
  [4096, 256, 16, 1].map fun unit => Nat.digitChar (n / unit % 16)

/-- A character as it stands between quotes. -/
def quotedChar (c : Char) : List Char :=
  if c = '"' then ['\\', '"']
  else if c = '\\' then ['\\', '\\']
  else if c = '\n' then ['\\', 'n']
  else if c = '\r' then ['\\', 'r']
  else if c = '\t' then ['\\', 't']
  else if c = '\x08' then ['\\', 'b']
  else if c = '\x0c' then ['\\', 'f']
  else if c.toNat < 32 then ['\\', 'u'] ++ fourDigits c.toNat
  else [c]

/-- A text between quotes. -/
def quoted (s : String) : String := String.ofList ('"' :: s.toList.flatMap quotedChar ++ ['"'])

/-- Writes parts between brackets, one on a line, at the given level. -/
def enclosed (level : Nat) (opening closing : String) (parts : List String) : String :=
  let margin (n : Nat) := "\n" ++ String.ofList (List.replicate (2 * n) ' ')
  match parts with
  | [] => opening ++ closing
  | parts =>
    opening ++ margin (level + 1) ++ ("," ++ margin (level + 1)).intercalate parts
      ++ margin level ++ closing

mutual

/-- A value as text at the given level. -/
def write (level : Nat) : JsonValue → String
  | text s => quoted s
  | list items => enclosed level "[" "]" (writeItems (level + 1) items)
  | record fields => enclosed level "\x7b" "\x7d" (writeFields (level + 1) fields)

def writeItems (level : Nat) : List JsonValue → List String
  | [] => []
  | item :: rest => write level item :: writeItems level rest

def writeFields (level : Nat) : List (String × JsonValue) → List String
  | [] => []
  | (name, value) :: rest => (quoted name ++ ": " ++ write level value) :: writeFields level rest

end

/-- A value as text. -/
def pretty (value : JsonValue) : String := value.write 0

end JsonValue

end FileSieve
