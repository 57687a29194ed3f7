/-!
Lines of a text and lines of raw input. The lines of a text are without their endings, a line feed
or a carriage return and a line feed; a line of input keeps its line feed, so that nothing of the
input is lost.
-/

namespace RemoteNotebook.Text

/-- The lines of a text. A text that ends in a line ending has no empty line after it. -/
def lines : List Char → List (List Char)
  | [] => []
  | '\r' :: '\n' :: cs => [] :: lines cs
  | c :: cs =>
    if c = '\n' then [] :: lines cs
    else if cs.isEmpty then [[c]]
    else
      match lines cs with
      | l :: ls => (c :: l) :: ls
      | [] => [[c]]

/-- Input bytes up to and including the first line feed, and the rest. -/
def splitLine : List UInt8 → List UInt8 × List UInt8
  | [] => ([], [])
  | b :: bs =>
    if b = 10 then ([b], bs)
    else ((b :: (splitLine bs).1), (splitLine bs).2)

theorem splitLine_append (bs : List UInt8) : (splitLine bs).1 ++ (splitLine bs).2 = bs := by
  induction bs with
  | nil => rfl
  | cons b bs ih =>
    simp only [splitLine]
    split
    · rfl
    · simp [ih]

theorem splitLine_rest_lt {bs : List UInt8} (h : bs ≠ []) :
    (splitLine bs).2.length < bs.length := by
  induction bs with
  | nil => exact absurd rfl h
  | cons b bs ih =>
    simp only [splitLine]
    split
    · simp
    · cases bs with
      | nil => simp [splitLine]
      | cons b' bs' =>
        have := ih (by simp)
        simp only [List.length_cons] at this ⊢
        omega

/-- A line as the reader of it sees it: without line feeds and carriage returns at its end. -/
def chomp (cs : List Char) : List Char :=
  (cs.reverse.dropWhile fun c => c = '\n' || c = '\r').reverse

end RemoteNotebook.Text
