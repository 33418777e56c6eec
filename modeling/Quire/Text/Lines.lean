/-!
# Lines

Taking a text apart at its line ends and putting pieces together again.
-/

namespace Quire.Text

/-- A line, last character first, without the carriage return before its end. -/
def dropReturn : List Char → List Char
  | '\r' :: line => line
  | line => line

/-- The lines of a text; `line` holds the characters of the current line, last one first. -/
def linesFrom (line : List Char) : List Char → List (List Char)
  | [] => if line.isEmpty then [] else [line.reverse]
  | c :: rest =>
    if c = '\n' then (dropReturn line).reverse :: linesFrom [] rest
    else linesFrom (c :: line) rest

/-- The lines of a text, ended by a line feed that a carriage return may precede; a line end at the
end of the text begins no further line. -/
def lines (cs : List Char) : List (List Char) :=
  linesFrom [] cs

/-- Pieces put together with `separator` between neighbours. -/
def join (separator : String) : List String → String
  | [] => ""
  | [s] => s
  | s :: t :: rest => s ++ separator ++ join separator (t :: rest)

/-- What holds of the empty text and of all pieces, and still holds of two texts put together, holds
of the pieces put together. -/
theorem join_induction {motive : String → Prop} {separator : String} {pieces : List String}
    (empty : motive "") (glue : ∀ {s t}, motive s → motive t → motive (s ++ separator ++ t))
    (each : ∀ piece ∈ pieces, motive piece) : motive (join separator pieces) := by
  induction pieces with
  | nil => exact empty
  | cons piece rest ih =>
    have here := each piece List.mem_cons_self
    have behind := ih fun piece mem => each piece (List.mem_cons_of_mem _ mem)
    cases rest with
    | nil => exact here
    | cons next rest => exact glue here behind

end Quire.Text
