/-!
# Lines

A line is ended by a line feed, with or without a carriage return before it, and neither belongs
to the line.  What follows the last line feed is one more line unless it is empty; a carriage
return at its end stays.  `splitLines` is stated for any two symbols, so that texts and bytes are
split by one rule; `splitLinesFrom_append_feed` is that rule for one line.
-/

namespace FileSieve.Text

section

variable {σ : Type} [DecidableEq σ]

/-- A line that a line feed ended, without the carriage return at its end.  The line is given in
reverse and returned in order. -/
def endedLine (ret : σ) : List σ → List σ
  | [] => []
  | s :: line => if s = ret then line.reverse else (s :: line).reverse

/-- The lines of a sequence, where `line` is, in reverse, what has been read of the first one. -/
def splitLinesFrom (feed ret : σ) (line : List σ) : List σ → List (List σ)
  | [] => if line.isEmpty then [] else [line.reverse]
  | s :: rest =>
    if s = feed then endedLine ret line :: splitLinesFrom feed ret [] rest
    else splitLinesFrom feed ret (s :: line) rest

/-- Up to a line feed nothing is split. -/
theorem splitLinesFrom_append (feed ret : σ) {front : List σ} (rest : List σ) (h : feed ∉ front)
    (line : List σ) :
    splitLinesFrom feed ret line (front ++ rest) =
      splitLinesFrom feed ret (front.reverse ++ line) rest := by
  induction front generalizing line with
  | nil => rfl
  | cons s front ih =>
    have hs : s ≠ feed := fun e => h (e ▸ List.mem_cons_self)
    have hf : feed ∉ front := fun m => h (List.mem_cons_of_mem s m)
    simp [splitLinesFrom, hs, ih hf]

theorem splitLinesFrom_append_feed (feed ret : σ) {front : List σ} (rest : List σ)
    (h : feed ∉ front) (line : List σ) :
    splitLinesFrom feed ret line (front ++ feed :: rest) =
      endedLine ret (front.reverse ++ line) :: splitLinesFrom feed ret [] rest := by
  rw [splitLinesFrom_append feed ret (feed :: rest) h line, splitLinesFrom, if_pos rfl]

/-- The lines of a sequence of symbols. -/
def splitLines (feed ret : σ) (symbols : List σ) : List (List σ) :=
  splitLinesFrom feed ret [] symbols

end

/-- The lines of a text. -/
def lines (text : String) : List String :=
  (splitLines '\n' '\r' text.toList).map String.ofList

/-- The lines of a sequence of bytes, each of which is a text only if it is UTF-8. -/
def byteLines (bytes : ByteArray) : List (Option String) :=
  (splitLines 10 13 bytes.toList).map fun line => String.fromUTF8? ⟨line.toArray⟩

/-- The text that has the given lines, each ended by a line feed. -/
def unlines (lines : List String) : String := String.join (lines.map (· ++ "\n"))

end FileSieve.Text
