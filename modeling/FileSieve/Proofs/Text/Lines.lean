import Mathlib.Tactic.Common
import FileSieve.Text.Lines

/-!
# Texts that list lines

A text lists lines if each of them stands in it, followed by a line feed or by a carriage return and
a line feed (`Text.Lists`).  Reading the lines of such a text gives them back (`Text.lines_of_lists`),
whichever way each one is ended, provided that none could be mistaken for something else
(`Text.IsLine`).

Not every text lists lines, as the last one may not be ended.  `Text.HasLines` says for any text which
lines it has, and they are the ones that are read (`Text.hasLines_iff`).
-/

namespace FileSieve.Text

/-- Whether a text can stand on a line: it has no line feed, and no carriage return at its end. -/
def IsLine (line : String) : Prop :=
  '\n' ∉ line.toList ∧ line.toList.getLast? ≠ some '\r'

instance : DecidablePred IsLine := fun _ => inferInstanceAs (Decidable (_ ∧ _))

/-- The text lists the lines, each with its own ending. -/
inductive Lists : (text : String) → (lines : List String) → Prop
  | nil : Lists "" []
  | feed {text : String} {lines : List String} (line : String) (h : Lists text lines) :
      Lists (line ++ "\n" ++ text) (line :: lines)
  | returnFeed {text : String} {lines : List String} (line : String) (h : Lists text lines) :
      Lists (line ++ "\r\n" ++ text) (line :: lines)

/-- The text has the lines, of which all but the last one are ended. -/
inductive HasLines : (text : String) → (lines : List String) → Prop
  | nil : HasLines "" []
  | last {line : String} (hne : line ≠ "") (hfeed : '\n' ∉ line.toList) : HasLines line [line]
  | feed {line text : String} {lines : List String} (hline : IsLine line) (h : HasLines text lines) :
      HasLines (line ++ "\n" ++ text) (line :: lines)
  | returnFeed {line text : String} {lines : List String} (hfeed : '\n' ∉ line.toList)
      (h : HasLines text lines) : HasLines (line ++ "\r\n" ++ text) (line :: lines)

/-! ## Ended lines -/

lemma endedLine_reverse {σ : Type} [DecidableEq σ] {ret : σ} {line : List σ}
    (h : line.getLast? ≠ some ret) : endedLine ret line.reverse = line := by
  rcases List.eq_nil_or_concat line with rfl | ⟨front, s, rfl⟩
  · rfl
  · have hs : s ≠ ret := by simpa using h
    simp [endedLine, hs]

lemma endedLine_ret {σ : Type} [DecidableEq σ] (ret : σ) (line : List σ) :
    endedLine ret (line ++ [ret]).reverse = line := by
  simp [endedLine]

lemma lines_append_feed {line : String} (h : IsLine line) (text : String) :
    lines (line ++ "\n" ++ text) = line :: lines text := by
  have hsplit := splitLinesFrom_append_feed '\n' '\r' text.toList h.1 []
  rw [List.append_nil, endedLine_reverse h.2] at hsplit
  have htext : (line ++ "\n" ++ text).toList = line.toList ++ '\n' :: text.toList := by simp
  rw [lines, splitLines, htext, hsplit, List.map_cons, String.ofList_toList]
  rfl

lemma lines_append_returnFeed {line : String} (h : '\n' ∉ line.toList) (text : String) :
    lines (line ++ "\r\n" ++ text) = line :: lines text := by
  have hfeed : '\n' ∉ line.toList ++ ['\r'] := by simp [h]
  have hsplit := splitLinesFrom_append_feed '\n' '\r' text.toList hfeed []
  rw [List.append_nil, endedLine_ret] at hsplit
  have htext : (line ++ "\r\n" ++ text).toList = (line.toList ++ ['\r']) ++ '\n' :: text.toList := by
    simp
  rw [lines, splitLines, htext, hsplit, List.map_cons, String.ofList_toList]
  rfl

/-! ## The lines of a text -/

lemma lines_of_notMem {line : String} (hne : line ≠ "") (h : '\n' ∉ line.toList) :
    lines line = [line] := by
  have hlast := splitLinesFrom_append '\n' '\r' [] h []
  rw [List.append_nil] at hlast
  rw [lines, splitLines, hlast, splitLinesFrom]
  simp [hne]

lemma HasLines.lines_eq {text : String} {listed : List String} (h : HasLines text listed) :
    lines text = listed := by
  induction h with
  | nil => rfl
  | last hne hfeed => exact lines_of_notMem hne hfeed
  | feed hline _ ih => rw [lines_append_feed hline, ih]
  | returnFeed hfeed _ ih => rw [lines_append_returnFeed hfeed, ih]

/-- A text with a line feed begins with an ended line. -/
lemma exists_line_append {text : String} (h : '\n' ∈ text.toList) :
    ∃ line rest, rest.length < text.length ∧
      ((IsLine line ∧ text = line ++ "\n" ++ rest) ∨
        ('\n' ∉ line.toList ∧ text = line ++ "\r\n" ++ rest)) := by
  obtain ⟨front, rest, htext, hfeed⟩ := List.eq_append_cons_of_mem h
  have hlength : (String.ofList rest).length < text.length := by
    rw [← String.length_toList, ← String.length_toList, htext, String.toList_ofList,
      List.length_append, List.length_cons]
    omega
  -- A carriage return right before the line feed belongs to the ending and not to the line.
  by_cases hreturn : front.getLast? = some '\r'
  · obtain ⟨line, rfl⟩ := List.getLast?_eq_some_iff.mp hreturn
    refine ⟨.ofList line, .ofList rest, hlength, .inr ⟨?_, ?_⟩⟩
    · simpa using hfeed
    · rw [← String.toList_inj]
      simp [htext]
  · refine ⟨.ofList front, .ofList rest, hlength, .inl ⟨⟨?_, ?_⟩, ?_⟩⟩
    · simpa using hfeed
    · simpa using hreturn
    · rw [← String.toList_inj]
      simp [htext]

lemma exists_hasLines (text : String) : ∃ listed, HasLines text listed := by
  -- On the length of the text: what follows the first line feed is shorter.
  induction hn : text.length using Nat.strongRecOn generalizing text with
  | ind n ih =>
    subst hn
    by_cases hfeed : '\n' ∈ text.toList
    · obtain ⟨line, rest, hlength, ⟨hline, rfl⟩ | ⟨hline, rfl⟩⟩ := exists_line_append hfeed
      · obtain ⟨listed, h⟩ := ih _ hlength rest rfl
        exact ⟨line :: listed, .feed hline h⟩
      · obtain ⟨listed, h⟩ := ih _ hlength rest rfl
        exact ⟨line :: listed, .returnFeed hline h⟩
    · by_cases hempty : text = ""
      · exact ⟨[], hempty ▸ .nil⟩
      · exact ⟨[text], .last hempty hfeed⟩

/-- The lines that are read are the ones that the text has. -/
lemma hasLines_iff {text : String} {listed : List String} :
    HasLines text listed ↔ lines text = listed := by
  constructor
  · exact HasLines.lines_eq
  · rintro rfl
    obtain ⟨listed, h⟩ := exists_hasLines text
    rwa [h.lines_eq]

lemma Lists.hasLines {text : String} {listed : List String} (h : Lists text listed)
    (hlines : ∀ line ∈ listed, IsLine line) : HasLines text listed := by
  induction h with
  | nil => exact .nil
  | feed line _ ih =>
    obtain ⟨hline, hrest⟩ := List.forall_mem_cons.mp hlines
    exact .feed hline (ih hrest)
  | returnFeed line _ ih =>
    obtain ⟨hline, hrest⟩ := List.forall_mem_cons.mp hlines
    exact .returnFeed hline.1 (ih hrest)

/-- The lines of a text are those that it lists. -/
lemma lines_of_lists {text : String} {listed : List String} (h : Lists text listed)
    (hlines : ∀ line ∈ listed, IsLine line) : lines text = listed :=
  (h.hasLines hlines).lines_eq

end FileSieve.Text
