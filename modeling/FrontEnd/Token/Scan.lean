import FrontEnd.Diagnostic.Basic

namespace FrontEnd

namespace Scan

def isWordStart (character : Char) : Bool :=
  character.isAlpha || character == '_'

def isWordPart (character : Char) : Bool :=
  character.isAlphanum || character == '_'

/-- Symbols of one character. -/
def symbol? : Char → Option Kind
  | ':' => some .colon
  | '-' => some .dash
  | '+' => some .plus
  | '*' => some .star
  | '=' => some .assignment
  | '.' => some .dot
  | '(' => some .openParen
  | ')' => some .closeParen
  | '{' => some .openCurly
  | '}' => some .closeCurly
  | '[' => some .openBracket
  | ']' => some .closeBracket
  | ',' => some .comma
  | ';' => some .semicolon
  | _ => none

/-- Symbols of two characters. -/
def pair? : Char → Char → Option Kind
  | ':', ':' => some .colonColon
  | ':', '=' => some .colonEquals
  | '-', '>' => some .arrow
  | '-', '=' => some .minusEquals
  | '+', '=' => some .plusEquals
  | _, _ => none

/-- The symbol of two characters that `first` begins, with the text after it. -/
def longSymbol? (first : Char) : Text → Option (Kind × Char × Text)
  | [] => none
  | second :: tail => (pair? first second).map fun kind => (kind, second, tail)

/-- What stands at the head of a text. -/
inductive Munch where
  /-- The longest lexeme there, and the text after it. -/
  | token (kind : Kind) (lexeme tail : Text)
  /-- One character that separates tokens, and how many lines it ends. -/
  | blank (lines : Nat)
  /-- A character that begins no token and separates none. -/
  | stray
  deriving DecidableEq, Repr

/-- Reads the head of a nonempty text. -/
def munch (first : Char) (rest : Text) : Munch :=
  if isWordStart first then
    let word := first :: rest.takeWhile isWordPart
    .token (Kind.ofWord word) word (rest.dropWhile isWordPart)
  else if first.isDigit then
    .token .number (first :: rest.takeWhile Char.isDigit) (rest.dropWhile Char.isDigit)
  else
    match longSymbol? first rest, symbol? first with
    | some (kind, second, tail), _ => .token kind [first, second] tail
    | none, some kind => .token kind [first] rest
    | none, none =>
        if first = ' ' then .blank 0 else if first = '\n' then .blank 1 else .stray

theorem append_of_munch {first : Char} {rest : Text} {kind : Kind} {lexeme tail : Text}
    (h : munch first rest = .token kind lexeme tail) : lexeme ++ tail = first :: rest := by
  simp only [munch] at h
  split at h
  next =>
    obtain ⟨-, rfl, rfl⟩ := Munch.token.inj h
    simp
  next =>
    split at h
    next =>
      obtain ⟨-, rfl, rfl⟩ := Munch.token.inj h
      simp
    next =>
      split at h
      next hsymbol =>
        obtain ⟨-, rfl, rfl⟩ := Munch.token.inj h
        cases rest with
        | nil => simp [longSymbol?] at hsymbol
        | cons second tail =>
            obtain ⟨kind, -, hpair⟩ := Option.map_eq_some_iff.1 hsymbol
            obtain ⟨-, rfl, rfl⟩ := hpair
            rfl
      next =>
        obtain ⟨-, rfl, rfl⟩ := Munch.token.inj h
        rfl
      next =>
        split at h
        next => simp at h
        next => split at h <;> simp at h

theorem lexeme_ne_nil_of_munch {first : Char} {rest : Text} {kind : Kind} {lexeme tail : Text}
    (h : munch first rest = .token kind lexeme tail) : lexeme ≠ [] := by
  rintro rfl
  simp only [munch] at h
  repeat' split at h
  all_goals simp at h

theorem tail_length_of_munch {first : Char} {rest : Text} {kind : Kind} {lexeme tail : Text}
    (h : munch first rest = .token kind lexeme tail) : tail.length < (first :: rest).length := by
  have nonempty := List.length_pos_iff.2 (lexeme_ne_nil_of_munch h)
  have total := congrArg List.length (append_of_munch h)
  rw [List.length_append] at total
  omega

end Scan

/-- The tokens of a text that begins at the given byte offset and line of a larger one. -/
def tokensFrom (offset line : Nat) : Text → Except Diagnostic (List Token)
  | [] => .ok []
  | first :: rest =>
      match _h : Scan.munch first rest with
      | .token kind lexeme tail =>
          let stop := offset + lexeme.byteLength
          (tokensFrom stop line tail).map (⟨kind, ⟨offset, stop⟩, line⟩ :: ·)
      | .blank lines => tokensFrom (offset + 1) (line + lines) rest
      | .stray =>
          .error ⟨.unrecognisedCharacter first, line, some ⟨offset, offset + first.utf8Size⟩⟩
termination_by text => text.length
decreasing_by
  · exact Scan.tail_length_of_munch ‹_›
  · simp

/-- All tokens of a source, or its first stray character. -/
def tokenize (source : Text) : Except Diagnostic (List Token) :=
  tokensFrom 0 1 source

end FrontEnd
