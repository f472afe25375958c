import FileSieve.Regex.Syntax
import FileSieve.Text.Age
import FileSieve.Text.Folding
import FileSieve.Text.Property
import FileSieve.Text.Script

/-!
# Named classes of characters

The classes that a pattern can name: the letters `d`, `s` and `w` after a backslash, the names
between `[:` and `:]`, and the Unicode classes of `\p`.  A Unicode class is given by one name, of a
property, a category or a script, or by the name of a property and a value.  Names are compared
without case, blanks, hyphens and underscores, and without `is` in front.
-/

namespace FileSieve.Regex

/-! ## Sets under flags -/

/-- The ASCII letters in the other case added to a set of ASCII characters. -/
def foldAscii (s : CodeSet) : CodeSet :=
  s.union (CodeSet.ofPoints ((List.range 26).flatMap fun i =>
    (if s.contains (65 + i) then [97 + i] else []) ++
      if s.contains (97 + i) then [65 + i] else []))

/-- The set with the case variants that the flags ask for. -/
def Flags.fold (flags : Flags) (s : CodeSet) : CodeSet :=
  if !flags.ignoreCase then s else if flags.unicode then s.foldCase else foldAscii s

/-- The set, folded and perhaps negated.  Without Unicode classes a negated set would match bytes
that are no text. -/
def Flags.finish (flags : Flags) (negated : Bool) (s : CodeSet) : Except Error CodeSet :=
  let s := flags.fold s
  if !negated then .ok s
  else if flags.unicode then .ok s.compl
  else .error .unicode

/-! ## Letters after a backslash -/

/-- The set of code points in the listed ranges. -/
def ofRanges (ranges : List (Nat × Nat)) : CodeSet :=
  CodeSet.unionAll ranges.length (ranges.map fun r => CodeSet.range r.1 r.2)

/-- ASCII digits. -/
def asciiDigits : CodeSet := CodeSet.range 0x30 0x39

/-- ASCII blanks. -/
def asciiBlanks : CodeSet := ofRanges [(0x09, 0x0D), (0x20, 0x20)]

/-- ASCII word characters. -/
def asciiWord : CodeSet := ofRanges [(0x30, 0x39), (0x41, 0x5A), (0x5F, 0x5F), (0x61, 0x7A)]

/-- The class of a letter after a backslash; a capital negates it. -/
def letterClass (flags : Flags) (letter : Char) : Except Error CodeSet :=
  let set :=
    match letter.toLower with
    | 'd' => if flags.unicode then Text.decimalDigits else asciiDigits
    | 's' => if flags.unicode then Text.blanks else asciiBlanks
    | _ => if flags.unicode then Text.wordCharacters else asciiWord
  if letter.isLower then .ok set
  else if flags.unicode then .ok set.compl
  else .error .unicode

/-! ## Names in brackets -/

/-- The class of a name between `[:` and `:]`. -/
def bracketClass? (name : String) : Option CodeSet :=
  let ranges : Option (List (Nat × Nat)) :=
    match name with
    | "alnum" => some [(0x30, 0x39), (0x41, 0x5A), (0x61, 0x7A)]
    | "alpha" => some [(0x41, 0x5A), (0x61, 0x7A)]
    | "ascii" => some [(0x00, 0x7F)]
    | "blank" => some [(0x09, 0x09), (0x20, 0x20)]
    | "cntrl" => some [(0x00, 0x1F), (0x7F, 0x7F)]
    | "digit" => some [(0x30, 0x39)]
    | "graph" => some [(0x21, 0x7E)]
    | "lower" => some [(0x61, 0x7A)]
    | "print" => some [(0x20, 0x7E)]
    | "punct" => some [(0x21, 0x2F), (0x3A, 0x40), (0x5B, 0x60), (0x7B, 0x7E)]
    | "space" => some [(0x09, 0x0D), (0x20, 0x20)]
    | "upper" => some [(0x41, 0x5A)]
    | "word" => some [(0x30, 0x39), (0x41, 0x5A), (0x5F, 0x5F), (0x61, 0x7A)]
    | "xdigit" => some [(0x30, 0x39), (0x41, 0x46), (0x61, 0x66)]
    | _ => none
  ranges.map ofRanges

/-! ## Unicode classes -/

/-- A name in lower case without separators and without `is` in front. -/
def normalName (name : List Char) : String :=
  let (marked, rest) :=
    match name with
    | i :: s :: rest => if i.toLower = 'i' ∧ s.toLower = 's' then (true, rest) else (false, name)
    | _ => (false, name)
  let letters := rest.filter fun c => c.toNat < 0x80 && !(c = ' ' || c = '_' || c = '-')
  let normal := String.ofList (letters.map Char.toLower)
  if marked && normal == "c" then "isc" else normal

/-- The class of a general category or of one of the sets of code points that are named like
one. -/
def categoryClass? (name : String) : Option CodeSet :=
  match name with
  | "any" => some CodeSet.all
  | "assigned" => some (Text.ofCategories ["Cn"]).compl
  | "ascii" => some (CodeSet.range 0x00 0x7F)
  | name => Text.categorySet name

/-- The class of a single name.  A property goes before a category and a category before a
script, but `sc` and `lc` are categories. -/
def unicodeClass (name : List Char) : Except Error CodeSet :=
  let name := normalName name
  let found :=
    Text.propertySet name <|> categoryClass? name <|> (Text.scriptCode? name).map Text.scriptSet
  match found with
  | some set => .ok set
  | none => .error .className

/-- The class of a property and a value. -/
def unicodeClassOf (property value : List Char) : Except Error CodeSet :=
  let value := normalName value
  let found :=
    match normalName property with
    | "gc" => categoryClass? value
    | "generalcategory" => categoryClass? value
    | "sc" => (Text.scriptCode? value).map Text.scriptSet
    | "script" => (Text.scriptCode? value).map Text.scriptSet
    | "scx" => (Text.scriptCode? value).map Text.scriptExtensionSet
    | "scriptextensions" => (Text.scriptCode? value).map Text.scriptExtensionSet
    | "age" => Text.ageSet value
    | _ => none
  match found with
  | some set => .ok set
  | none => .error .className

end FileSieve.Regex
