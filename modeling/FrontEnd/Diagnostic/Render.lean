import FrontEnd.Diagnostic.Basic
import FrontEnd.Text.Line
import FrontEnd.Text.Unicode

namespace FrontEnd

namespace Text

/-- Removes white space at the end. -/
def trimEnd (text : Text) : Text :=
  (text.reverse.dropWhile isWhiteSpace).reverse

def trim (text : Text) : Text :=
  trimEnd (text.dropWhile isWhiteSpace)

end Text

/-- The quoted line of a rendering and, where a span is to blame, the width of the caret line: the
caret stands at its end. -/
structure Excerpt where
  line : Text
  caret : Option Nat
  deriving DecidableEq, Repr

namespace Excerpt

def widestCaret : Nat := 65535

def indentation (line : Text) : Nat :=
  (line.takeWhile (· == ' ')).length

/-- The excerpt that points at a place; nothing when the place is in the indentation or the caret
line would be too wide. -/
def at? (place : Place) : Option Excerpt :=
  let removed := indentation place.line
  let width := place.offset - removed + 1
  if removed ≤ place.offset ∧ width ≤ widestCaret then
    some ⟨Text.trimEnd (place.line.drop removed), some width⟩
  else
    none

end Excerpt

namespace Diagnostic

/-- The line to show for a diagnostic: the one where its span begins, or else the one that it is
reported on. -/
def excerpt? (diagnostic : Diagnostic) (source : Text) : Option Excerpt :=
  match diagnostic.span.bind fun span => source.place? span.start with
  | some place => Excerpt.at? place
  | none => some ⟨Text.trim ((source.line? diagnostic.line).getD []), none⟩

/-- The bar to the left of lines that have no number. -/
def gutter (diagnostic : Diagnostic) : Text :=
  List.replicate ((toString diagnostic.line).length + 1) ' ' ++ ['|']

/-- The name of the cause, with its tip in brackets. -/
def heading (diagnostic : Diagnostic) : Text :=
  "error: ".toList ++ diagnostic.cause.name.toList ++
    match diagnostic.cause.tip? with
    | none => []
    | some tip => " (".toList ++ tip.toList ++ ")".toList

/-- The lines of a rendering, without their newlines. -/
def renderedLines (diagnostic : Diagnostic) (file : Text) (excerpt : Excerpt) : List Text :=
  [diagnostic.heading,
    "-> ".toList ++ file,
    diagnostic.gutter,
    (toString diagnostic.line).toList ++ " | ".toList ++ excerpt.line] ++
  match excerpt.caret with
  | none => []
  | some width => [diagnostic.gutter ++ ' ' :: List.replicate (width - 1) '-' ++ ['^']]

/-- A diagnostic as it is shown to the author of a file; nothing when its excerpt cannot be
drawn. -/
def render? (diagnostic : Diagnostic) (source file : Text) : Option Text :=
  (diagnostic.excerpt? source).map fun excerpt =>
    (diagnostic.renderedLines file excerpt).flatMap (· ++ ['\n'])

end Diagnostic

end FrontEnd
