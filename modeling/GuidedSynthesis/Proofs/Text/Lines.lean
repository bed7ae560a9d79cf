import GuidedSynthesis.Text.Blank
import GuidedSynthesis.Text.Lines
/-!
Lines that are written and read.

A line is written with one of two ends (`LineEnd`) and read again by `Text.lines` (`lines_ended`). A
line that is ended by a line feed alone loses a carriage return at its own end, so what is read need
not be what was written; but nothing is lost where there is no carriage return (`read_of_not_mem`),
and never anything but a blank at the end (`trimEnd_read`).

Where one text ends with a line feed, the next one is cut into lines by itself (`lines_append`).
-/

namespace GuidedSynthesis.Text

/-! ## 1. Ends of lines -/

/-- How a line is ended: by a line feed, or by a carriage return and a line feed. -/
inductive LineEnd where
  | feed
  | returnFeed
  deriving DecidableEq, Repr

/-- A line without the carriage return at its end, if it has one. -/
def unreturned (line : List Char) : List Char :=
  match line.reverse with
  | '\r' :: more => more.reverse
  | _ => line

namespace LineEnd

def text : LineEnd → List Char
  | feed => ['\n']
  | returnFeed => ['\r', '\n']

/-- What is read of a line with this end. -/
def read : LineEnd → List Char → List Char
  | feed, line => unreturned line
  | returnFeed, line => line

end LineEnd

theorem unreturned_append_return (line : List Char) : unreturned (line ++ ['\r']) = line := by
  rw [unreturned, List.reverse_append]
  exact List.reverse_reverse line

/-- A line has a carriage return at its end or is read as it is. -/
theorem unreturned_cases (line : List Char) :
    line = unreturned line ++ ['\r'] ∨ unreturned line = line := by
  rw [unreturned]
  split
  · rename_i more hmore
    left
    rw [← List.reverse_cons, ← hmore, List.reverse_reverse]
  · exact .inr rfl

/-! ## 2. Reading -/

/-- One line, of which the first part has been read already. -/
theorem linesFrom_append {line : List Char} (h : '\n' ∉ line) (read rest : List Char) :
    linesFrom read (line ++ '\n' :: rest) = unreturned (read.reverse ++ line) :: lines rest := by
  induction line generalizing read with
  | nil =>
    rw [List.nil_append, List.append_nil, linesFrom.eq_def, unreturned, List.reverse_reverse]
    exact if_pos rfl
  | cons c line ih =>
    rw [List.mem_cons, not_or] at h
    have hskip : linesFrom read (c :: (line ++ '\n' :: rest)) =
        linesFrom (c :: read) (line ++ '\n' :: rest) := by
      rw [linesFrom.eq_def]
      exact if_neg (Ne.symm h.1)
    rw [List.cons_append, hskip, ih h.2, List.reverse_cons, List.append_assoc,
      List.singleton_append]

theorem lines_ended {line : List Char} (h : '\n' ∉ line) (ending : LineEnd) (rest : List Char) :
    lines (line ++ ending.text ++ rest) = ending.read line :: lines rest := by
  cases ending with
  | feed =>
    rw [List.append_assoc]
    exact linesFrom_append h [] rest
  | returnFeed =>
    have hreturned : '\n' ∉ line ++ ['\r'] := by simp [h]
    have hline := linesFrom_append hreturned [] rest
    rw [List.append_assoc, List.reverse_nil, List.nil_append, unreturned_append_return] at hline
    rw [List.append_assoc]
    exact hline

/-- The text has no unfinished line: it is empty or ends with a line feed. -/
def EndsLine (s : List Char) : Prop := ∀ c ∈ s.getLast?, c = '\n'

theorem endsLine_of_getLast? {s : List Char} (h : s.getLast? = some '\n') : EndsLine s := by
  intro c hc
  rw [h] at hc
  exact (Option.some.inj hc).symm

/-- What follows a line feed is cut into lines by itself, however much of the line has been read. -/
theorem linesFrom_append_feed (read front rest : List Char) :
    linesFrom read (front ++ '\n' :: rest) = linesFrom read (front ++ ['\n']) ++ lines rest := by
  induction front generalizing read with
  | nil => rfl
  | cons c front ih =>
    rw [List.cons_append, List.cons_append, linesFrom.eq_def, linesFrom.eq_def read (c :: _)]
    by_cases hfeed : c = '\n'
    · simp only [if_pos hfeed, ih, List.cons_append]
    · simp only [if_neg hfeed, ih]

/-- Lines do not reach from one text into the next if the first one has no unfinished line. -/
theorem lines_append {s : List Char} (h : EndsLine s) (t : List Char) :
    lines (s ++ t) = lines s ++ lines t := by
  obtain rfl | ⟨front, last, hs⟩ := s.eq_nil_or_concat
  · rfl
  · rw [List.concat_eq_append] at hs
    subst hs
    obtain rfl : last = '\n' := h last List.getLast?_concat
    rw [List.append_assoc, List.singleton_append]
    exact linesFrom_append_feed [] front t

theorem linesFrom_eq_nil {read s : List Char} (h : linesFrom read s = []) : read = [] ∧ s = [] := by
  fun_induction linesFrom read s with
  | case1 => exact ⟨List.isEmpty_iff.mp ‹_›, rfl⟩
  | case2 => exact nomatch h
  | case3 => exact nomatch h
  | case4 _ _ _ _ ih => exact nomatch (ih h).1

/-- A text of one line is the line, with an end or without. -/
theorem eq_of_lines_eq_singleton {s line : List Char} (h : lines s = [line]) :
    s = line ∨ ∃ ending : LineEnd, s = line ++ ending.text := by
  have hread : ∀ read, linesFrom read s = [line] →
      read.reverse ++ s = line ∨ ∃ ending : LineEnd, read.reverse ++ s = line ++ ending.text := by
    clear h
    intro read h
    fun_induction linesFrom read s with
    | case1 => exact nomatch h
    | case2 read _ =>
      cases h
      exact .inl (List.append_nil _)
    | case3 read rest ih =>
      obtain ⟨hline, hrest⟩ := List.cons.inj h
      obtain ⟨-, rfl⟩ := linesFrom_eq_nil hrest
      split at hline
      · subst hline
        refine .inr ⟨.returnFeed, ?_⟩
        rw [List.reverse_cons, List.append_assoc]
        rfl
      · subst hline
        exact .inr ⟨.feed, rfl⟩
    | case4 read c rest _ ih =>
      have hnext := ih h
      rwa [List.reverse_cons, List.append_assoc] at hnext
  exact hread [] h

/-! ## 3. What is read -/

theorem read_of_not_mem {line : List Char} (h : '\r' ∉ line) (ending : LineEnd) :
    ending.read line = line := by
  cases ending with
  | returnFeed => rfl
  | feed =>
    obtain hline | hline := unreturned_cases line
    · rw [hline] at h
      exact absurd (List.mem_append_right _ List.mem_cons_self) h
    · exact hline

/-- Blanks at the end do not count. -/
theorem trimEnd_append {blanks : List Char} (h : ∀ c ∈ blanks, isBlank c = true)
    (line : List Char) : trimEnd (line ++ blanks) = trimEnd line := by
  have hblanks : ∀ c ∈ blanks.reverse, isBlank c = true :=
    fun c hc => h c (List.mem_reverse.mp hc)
  rw [trimEnd, List.reverse_append, List.dropWhile_append_of_pos hblanks, trimEnd]

theorem trimEnd_read (ending : LineEnd) (line : List Char) :
    trimEnd (ending.read line) = trimEnd line := by
  cases ending with
  | returnFeed => rfl
  | feed =>
    obtain hline | hline := unreturned_cases line
    · have hreturn : ∀ c ∈ ['\r'], isBlank c = true := List.forall_mem_singleton.mpr (by decide)
      calc trimEnd (unreturned line)
          = trimEnd (unreturned line ++ ['\r']) := (trimEnd_append hreturn _).symm
        _ = trimEnd line := by rw [← hline]
    · exact congrArg trimEnd hline

end GuidedSynthesis.Text
