import FrontEnd.Grammar.Statement

namespace FrontEnd

namespace Outcome

variable {α β : Type}

def map (f : α → β) : Outcome α → Outcome β
  | ok value rest => .ok (f value) rest
  | error problem rest => .error problem rest
  | fault rest opened => .fault rest opened

/-- Outcomes that are the same, but for their values. -/
inductive Alike (values : α → β → Prop) : Outcome α → Outcome β → Prop
  | ok {value : α} {other : β} {rest : List Token} : values value other →
      Alike values (.ok value rest) (.ok other rest)
  | error {problem : Diagnostic} {rest : List Token} :
      Alike values (.error problem rest) (.error problem rest)
  | fault {rest : List Token} {opened : Nat} :
      Alike values (.fault rest opened) (.fault rest opened)

theorem Alike.mono {values wider : α → β → Prop} {first : Outcome α} {second : Outcome β}
    (h : Alike values first second)
    (hwider : ∀ value other, values value other → wider value other) :
    Alike wider first second := by
  cases h with
  | ok hvalue => exact .ok (hwider _ _ hvalue)
  | error => exact .error
  | fault => exact .fault

theorem Alike.refl (outcome : Outcome α) : Alike Eq outcome outcome := by
  cases outcome with
  | ok value rest => exact .ok rfl
  | error problem rest => exact .error
  | fault rest opened => exact .fault

theorem Alike.eq {first second : Outcome α} (h : Alike Eq first second) : first = second := by
  cases h with
  | ok hvalue => rw [hvalue]
  | error => rfl
  | fault => rfl

end Outcome

namespace Reading

open Reads

variable {α β γ : Type} {setting : Setting} {tokens : List Token} {token : Token}

theorem bind_apply (reading : Reading α) (next : α → Reading β) (setting : Setting)
    (tokens : List Token) :
    (reading >>= next) setting tokens =
      match reading setting tokens with
      | .ok value rest => next value setting rest
      | .error problem rest => .error problem rest
      | .fault rest opened => .fault rest opened := rfl

theorem bind_assoc (reading : Reading α) (next : α → Reading β) (last : β → Reading γ) :
    reading >>= next >>= last = reading >>= fun value => next value >>= last := by
  funext setting tokens
  simp only [bind_apply]
  cases reading setting tokens <;> rfl

theorem bind_of_ok {reading : Reading α} {value : α} {rest : List Token}
    (h : reading setting tokens = .ok value rest) (next : α → Reading β) :
    (reading >>= next) setting tokens = next value setting rest := by
  rw [bind_apply, h]

theorem bind_of_error {reading : Reading α} {problem : Diagnostic} {rest : List Token}
    (h : reading setting tokens = .error problem rest) (next : α → Reading β) :
    (reading >>= next) setting tokens = .error problem rest := by
  rw [bind_apply, h]

theorem bind_of_fault {reading : Reading α} {opened : Nat} {rest : List Token}
    (h : reading setting tokens = .fault rest opened) (next : α → Reading β) :
    (reading >>= next) setting tokens = .fault rest opened := by
  rw [bind_apply, h]

theorem bind_pure (reading : Reading α) (f : α → β) :
    (reading >>= fun value => Pure.pure (f value)) setting tokens =
      (reading setting tokens).map f := by
  rw [bind_apply]
  cases reading setting tokens <;> rfl

theorem bind_eq_ok_iff {reading : Reading α} {next : α → Reading β} {value : β}
    {rest : List Token} :
    (reading >>= next) setting tokens = .ok value rest ↔
      ∃ first middle, reading setting tokens = .ok first middle ∧
        next first setting middle = .ok value rest := by
  constructor
  · intro h
    cases hreading : reading setting tokens with
    | ok first middle =>
        rw [bind_of_ok hreading] at h
        exact ⟨first, middle, rfl, h⟩
    | error problem last =>
        rw [bind_of_error hreading] at h
        cases h
    | fault last opened =>
        rw [bind_of_fault hreading] at h
        cases h
  · rintro ⟨first, middle, hreading, h⟩
    rwa [bind_of_ok hreading]

theorem bind_alike {δ : Type} {values : α → β → Prop} {results : γ → δ → Prop}
    {reading : Reading α} {other : Reading β} {next : α → Reading γ} {otherNext : β → Reading δ}
    (h : (reading setting tokens).Alike values (other setting tokens))
    (hnext : ∀ value otherValue rest, reading setting tokens = .ok value rest →
      values value otherValue →
      (next value setting rest).Alike results (otherNext otherValue setting rest)) :
    ((reading >>= next) setting tokens).Alike results ((other >>= otherNext) setting tokens) := by
  generalize hfirst : reading setting tokens = first at h
  generalize hsecond : other setting tokens = second at h
  cases h with
  | ok hvalue =>
      rw [bind_of_ok hfirst, bind_of_ok hsecond]
      exact hnext _ _ _ hfirst hvalue
  | error =>
      rw [bind_of_error hfirst, bind_of_error hsecond]
      exact .error
  | fault =>
      rw [bind_of_fault hfirst, bind_of_fault hsecond]
      exact .fault

theorem bind_congr {reading : Reading α} {next other : α → Reading β}
    (h : ∀ value rest, reading setting tokens = .ok value rest →
      next value setting rest = other value setting rest) :
    (reading >>= next) setting tokens = (reading >>= other) setting tokens := by
  refine (bind_alike (.refl _) fun value _ rest hvalue heq => ?_).eq
  subst heq
  rw [h value rest hvalue]
  exact .refl _

@[simp]
theorem pure_apply (value : α) :
    (Pure.pure value : Reading α) setting tokens = .ok value tokens := rfl

@[simp]
theorem current?_bind (next : Option Token → Reading β) :
    (current? >>= next) setting tokens = next tokens.head? setting tokens := rfl

@[simp]
theorem kind?_bind (next : Option Kind → Reading β) :
    (kind? >>= next) setting tokens = next (tokens.head?.map Token.kind) setting tokens := rfl

@[simp]
theorem peek?_bind (distance : Nat) (next : Option Kind → Reading β) :
    (peek? distance >>= next) setting tokens =
      next (tokens[distance]?.map Token.kind) setting tokens := rfl

@[simp]
theorem skip_bind (next : Unit → Reading β) :
    (skip >>= next) setting tokens = next () setting tokens.tail := rfl

@[simp]
theorem remaining_bind (next : Nat → Reading β) :
    (remaining >>= next) setting tokens = next tokens.length setting tokens := rfl

@[simp]
theorem rules_bind (next : Rules → Reading β) :
    (rules >>= next) setting tokens = next setting.rules setting tokens := rfl

@[simp]
theorem failAt_apply (cause : Cause) :
    (failAt token cause : Reading α) setting tokens =
      .error ⟨cause, token.line, some token.span⟩ tokens := rfl

@[simp]
theorem unsupported_apply (construct : String) :
    (unsupported token construct : Reading α) setting tokens =
      .error ⟨.unsupported construct, token.line, some token.span⟩ tokens := rfl

@[simp]
theorem currentOr_bind_nil (expected : String) (next : Token → Reading β) :
    (currentOr expected >>= next) setting [] =
      .error ⟨.endOfInput expected, setting.lastLine, none⟩ [] := rfl

@[simp]
theorem currentOr_bind_cons (expected : String) (next : Token → Reading β) :
    (currentOr expected >>= next) setting (token :: tokens) =
      next token setting (token :: tokens) := rfl

@[simp]
theorem advanceOr_bind_cons (expected : String) (next : Token → Reading β) :
    (advanceOr expected >>= next) setting (token :: tokens) = next token setting tokens := rfl

theorem lexeme_of_some {text : Text} (h : token.lexeme? setting.source = some text) :
    (lexeme token : Reading Text) setting tokens = .ok text tokens := by
  simp [lexeme, h]

theorem lexeme_of_none (h : token.lexeme? setting.source = none) :
    (lexeme token : Reading Text) setting tokens = .fault tokens 0 := by
  simp [lexeme, h]

theorem lexeme_bind {text : Text} (h : token.lexeme? setting.source = some text)
    (next : Text → Reading β) :
    (lexeme token >>= next) setting tokens = next text setting tokens :=
  bind_of_ok (lexeme_of_some h) next

theorem unexpected_apply {text : Text} (h : token.lexeme? setting.source = some text)
    (message : String) :
    (unexpected token message : Reading α) setting tokens =
      .error ⟨.misplacedToken text message, token.line, some token.span⟩ tokens := by
  rw [unexpected, lexeme_bind h, failAt_apply]

theorem expect_cons {kind : Kind} (h : token.kind = kind) :
    (expect kind : Reading Token) setting (token :: tokens) = .ok token tokens := by
  rw [expect, currentOr_bind_cons, if_pos h]
  rfl

theorem expect_cons_of_ne {kind : Kind} {text : Text} (h : token.kind ≠ kind)
    (htext : token.lexeme? setting.source = some text) :
    (expect kind : Reading Token) setting (token :: tokens) =
      .error ⟨.unexpectedToken kind text, token.line, some token.span⟩ (token :: tokens) := by
  rw [expect, currentOr_bind_cons, if_neg h, lexeme_bind htext, failAt_apply]

theorem expect_eq_ok_iff {kind : Kind} {rest : List Token} :
    (expect kind : Reading Token) setting tokens = .ok token rest ↔
      token.kind = kind ∧ tokens = token :: rest := by
  constructor
  · intro h
    cases tokens with
    | nil => cases h
    | cons first tokens =>
        by_cases hkind : first.kind = kind
        · rw [expect_cons hkind] at h
          cases h
          exact ⟨hkind, rfl⟩
        · rw [expect, currentOr_bind_cons, if_neg hkind] at h
          cases hlexeme : first.lexeme? setting.source with
          | none => cases (bind_of_fault (lexeme_of_none hlexeme) _).symm.trans h
          | some text => cases (lexeme_bind hlexeme _).symm.trans h
  · rintro ⟨hkind, rfl⟩
    exact expect_cons hkind

@[simp]
theorem expect_bind_cons {kind : Kind} (h : token.kind = kind) (next : Token → Reading β) :
    (expect kind >>= next) setting (token :: tokens) = next token setting tokens :=
  bind_of_ok (expect_cons h) next

theorem inLevel_of_ok {reading : Reading α} {value : α} {rest : List Token}
    (h : reading setting tokens = .ok value rest) :
    inLevel reading setting tokens = .ok value rest := by
  rw [inLevel, h]

theorem inLevel_of_error {reading : Reading α} {problem : Diagnostic} {rest : List Token}
    (h : reading setting tokens = .error problem rest) :
    inLevel reading setting tokens = .error problem rest := by
  rw [inLevel, h]

theorem inLevel_of_fault {reading : Reading α} {rest : List Token} {opened : Nat}
    (h : reading setting tokens = .fault rest opened) :
    inLevel reading setting tokens = .fault rest (opened + 1) := by
  rw [inLevel, h]

end Reading

end FrontEnd
