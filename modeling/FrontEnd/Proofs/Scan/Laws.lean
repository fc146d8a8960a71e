import FrontEnd.Proofs.Scan.Spelling

namespace FrontEnd

open Scan

theorem Except.map_eq_ok_iff {ε α β : Type} {f : α → β} {x : Except ε α} {b : β} :
    x.map f = .ok b ↔ ∃ a, x = .ok a ∧ f a = b := by
  cases x <;> simp [Except.map]

theorem Except.map_eq_error_iff {ε α β : Type} {f : α → β} {x : Except ε α} {e : ε} :
    x.map f = .error e ↔ x = .error e := by
  cases x <;> simp [Except.map]

@[elab_as_elim]
theorem Scan.induction {motive : Text → Prop} (text : Text) (nil : motive [])
    (token : ∀ first rest kind lexeme tail, munch first rest = .token kind lexeme tail →
      motive tail → motive (first :: rest))
    (blank : ∀ first rest lines, munch first rest = .blank lines →
      motive rest → motive (first :: rest))
    (stray : ∀ first rest, munch first rest = .stray → motive (first :: rest)) :
    motive text := by
  induction hlength : text.length using Nat.strong_induction_on generalizing text with
  | h length ih =>
      subst hlength
      cases text with
      | nil => exact nil
      | cons first rest =>
          cases hmunch : munch first rest with
          | token kind lexeme tail =>
              exact token first rest kind lexeme tail hmunch
                (ih tail.length (tail_length_of_munch hmunch) tail rfl)
          | blank lines =>
              exact blank first rest lines hmunch (ih rest.length (by simp) rest rfl)
          | stray => exact stray first rest hmunch

section Laws

variable {offset line : Nat} {first : Char} {rest : Text}

@[simp]
theorem tokensFrom_nil : tokensFrom offset line [] = .ok [] := by
  rw [tokensFrom]

theorem tokensFrom_of_token {kind : Kind} {lexeme tail : Text}
    (h : munch first rest = .token kind lexeme tail) :
    tokensFrom offset line (first :: rest) =
      (tokensFrom (offset + lexeme.byteLength) line tail).map
        (⟨kind, ⟨offset, offset + lexeme.byteLength⟩, line⟩ :: ·) := by
  rw [tokensFrom]
  split
  all_goals simp_all

theorem tokensFrom_of_blank {lines : Nat} (h : munch first rest = .blank lines) :
    tokensFrom offset line (first :: rest) = tokensFrom (offset + 1) (line + lines) rest := by
  rw [tokensFrom]
  split
  all_goals simp_all

theorem tokensFrom_of_stray (h : munch first rest = .stray) :
    tokensFrom offset line (first :: rest) =
      .error ⟨.unrecognisedCharacter first, line, some ⟨offset, offset + first.utf8Size⟩⟩ := by
  rw [tokensFrom]
  split
  all_goals simp_all

end Laws

end FrontEnd
