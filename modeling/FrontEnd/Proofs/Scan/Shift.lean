import FrontEnd.Proofs.Scan.Continuation
import FrontEnd.Proofs.Scan.Legibility

namespace FrontEnd

open Scan

def Span.shift (bytes : Nat) (span : Span) : Span :=
  ⟨span.start + bytes, span.stop + bytes⟩

/-- A token that stands some bytes and lines further on. -/
def Token.shift (bytes lines : Nat) (token : Token) : Token :=
  ⟨token.kind, token.span.shift bytes, token.line + lines⟩

/-- The diagnostic for a place that is some bytes and lines further on. -/
def Diagnostic.shift (bytes lines : Nat) (problem : Diagnostic) : Diagnostic :=
  ⟨problem.cause, problem.line + lines, problem.span.map (Span.shift bytes)⟩

theorem Text.dropBytes?_append (front text : Text) (count : Nat) :
    (front ++ text).dropBytes? (count + front.byteLength) = text.dropBytes? count := by
  induction front with
  | nil => rfl
  | cons character rest ih =>
      have hpositive := character.utf8Size_pos
      obtain ⟨size, hsize⟩ := Nat.exists_eq_add_one_of_ne_zero
        (show count + byteLength (character :: rest) ≠ 0 by rw [byteLength_cons]; omega)
      rw [hsize, List.cons_append, dropBytes?, ← hsize, byteLength_cons, if_pos (by omega), ← ih]
      congr 1
      omega

theorem Span.slice?_shift (front text : Text) (span : Span) :
    (span.shift front.byteLength).slice? (front ++ text) = span.slice? text := by
  have hlength : (span.shift front.byteLength).length = span.length :=
    Nat.add_sub_add_right _ _ _
  rw [slice?, slice?, hlength]
  simp only [shift, Nat.add_le_add_iff_right, Text.dropBytes?_append]

/-- The outcome of a scan, moved. -/
def shiftScan (bytes lines : Nat) :
    Except Diagnostic (List Token) → Except Diagnostic (List Token)
  | .ok tokens => .ok (tokens.map (Token.shift bytes lines))
  | .error problem => .error (problem.shift bytes lines)

theorem tokensFrom_add (offset line bytes lines : Nat) (text : Text) :
    tokensFrom (offset + bytes) (line + lines) text =
      shiftScan bytes lines (tokensFrom offset line text) := by
  induction text using Scan.induction generalizing offset line with
  | nil => rw [tokensFrom_nil, tokensFrom_nil, shiftScan, List.map_nil]
  | token first rest kind lexeme tail hmunch ih =>
      rw [tokensFrom_of_token hmunch, tokensFrom_of_token hmunch, Nat.add_right_comm, ih]
      cases tokensFrom (offset + lexeme.byteLength) line tail <;> rfl
  | blank first rest ended hmunch ih =>
      rw [tokensFrom_of_blank hmunch, tokensFrom_of_blank hmunch, Nat.add_right_comm offset,
        Nat.add_right_comm line, ih]
  | stray first rest hmunch =>
      rw [tokensFrom_of_stray hmunch, tokensFrom_of_stray hmunch, Nat.add_right_comm]
      rfl

theorem tokenize_append_of_ok {first : Text} {tokens : List Token} {blank : Char}
    (hblank : blank = ' ' ∨ blank = '\n') (h : tokenize first = .ok tokens) (second : Text) :
    tokenize (first ++ blank :: second) =
      (shiftScan (first.byteLength + 1) ((first ++ [blank]).count '\n') (tokenize second)).map
        (tokens ++ ·) := by
  have hcases : blank = ' ' ∧ [blank].count '\n' = 0 ∨ blank = '\n' ∧ [blank].count '\n' = 1 := by
    rcases hblank with rfl | rfl
    · exact .inl ⟨rfl, rfl⟩
    · exact .inr ⟨rfl, rfl⟩
  rw [tokenize, tokensFrom_append_blank hcases h, Nat.add_assoc, Nat.add_assoc, ← List.count_append,
    tokensFrom_add, tokenize]

/-- Scanning takes a text with a separator in it apart. The tokens before the separator are followed
by those after it, each moved to where it stands, and so is a diagnostic from after the separator; a
diagnostic from before it stays as it is. -/
theorem tokenize_append_blank (first second : Text) {blank : Char}
    (hblank : blank = ' ' ∨ blank = '\n') :
    (∀ tokens, tokenize first = .ok tokens →
      (∀ others, tokenize second = .ok others →
        tokenize (first ++ blank :: second) = .ok (tokens ++ others.map
          (Token.shift (first.byteLength + 1) ((first ++ [blank]).count '\n')))) ∧
      ∀ problem, tokenize second = .error problem →
        tokenize (first ++ blank :: second) =
          .error (problem.shift (first.byteLength + 1) ((first ++ [blank]).count '\n'))) ∧
    ∀ problem, tokenize first = .error problem →
      tokenize (first ++ blank :: second) = .error problem := by
  refine ⟨fun tokens htokens => ⟨fun others hothers => ?_, fun problem hproblem => ?_⟩,
    fun problem hproblem => tokensFrom_append_of_error hproblem _⟩
  · rw [tokenize_append_of_ok hblank htokens, hothers]
    rfl
  · rw [tokenize_append_of_ok hblank htokens, hproblem]
    rfl

/-- A dash at the end of a line and a `>` on the next one make no arrow. -/
theorem tokenize_append_blank_arrow :
    let first : Text := "x-".toList
    let second : Text := ">é".toList
    let found : Cause := .unrecognisedCharacter '>'
    tokenize first = .ok [⟨.identifier, ⟨0, 1⟩, 1⟩, ⟨.dash, ⟨1, 2⟩, 1⟩] ∧
      tokenize second = .error ⟨found, 1, some ⟨0, 1⟩⟩ ∧
      tokenize (first ++ '\n' :: second) = .error ⟨found, 2, some ⟨3, 4⟩⟩ := by
  intro first second found
  have hfirst : tokenize first = .ok [⟨.identifier, ⟨0, 1⟩, 1⟩, ⟨.dash, ⟨1, 2⟩, 1⟩] := by
    decide +kernel
  have hsecond : tokenize second = .error ⟨found, 1, some ⟨0, 1⟩⟩ := by decide +kernel
  refine ⟨hfirst, hsecond, ?_⟩
  exact ((tokenize_append_blank first second (.inr rfl)).1 _ hfirst).2 _ hsecond

end FrontEnd
