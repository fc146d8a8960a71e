import FrontEnd.Text.Basic

namespace FrontEnd

namespace Text

/-- Splits a text after each newline. -/
def lines : Text → List Text
  | [] => []
  | character :: rest =>
      if character = '\n' then
        [character] :: lines rest
      else
        match lines rest with
        | [] => [[character]]
        | line :: others => (character :: line) :: others

theorem flatten_lines (text : Text) : (lines text).flatten = text := by
  induction text with
  | nil => rfl
  | cons character rest ih =>
      simp only [lines]
      split
      next => simp [ih]
      next =>
        split
        next hlines => simpa [hlines] using ih
        next line others hlines => simpa [hlines] using ih

/-- A line without the newline at its end, and without one carriage return directly before that
newline. -/
def withoutNewline (line : Text) : Text :=
  match line.reverse with
  | '\n' :: '\r' :: rest => rest.reverse
  | '\n' :: rest => rest.reverse
  | _ => line

/-- The line with the given number, counted from one, without its newline. -/
def line? (text : Text) : Nat → Option Text
  | 0 => none
  | number + 1 => (lines text)[number]?.map withoutNewline

end Text

/-- Where a position lies: the number of its line, the line with its newline, and the byte offset
of the position in that line. -/
structure Place where
  number : Nat
  line : Text
  offset : Nat
  deriving DecidableEq, Repr

namespace Place

/-- Finds an offset among lines, the first of which has the given number. -/
def among? (number offset : Nat) : List Text → Option Place
  | [] => none
  | line :: rest =>
      if offset < line.byteLength then
        some ⟨number, line, offset⟩
      else
        among? (number + 1) (offset - line.byteLength) rest

end Place

/-- The place of a byte position; nothing at or beyond the end of the text. -/
def Text.place? (text : Text) (position : Nat) : Option Place :=
  Place.among? 1 position text.lines

end FrontEnd
