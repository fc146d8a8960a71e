import FrontEnd.Proofs.Grammar.Location
import FrontEnd.Proofs.Grammar.ViablePrefix
import FrontEnd.Proofs.Scan.Legibility
import FrontEnd.Proofs.Text.Lines

namespace FrontEnd

open Scan

/-- What a cause quotes from the source. -/
def Cause.quoted? : Cause → Option Text
  | unrecognisedCharacter character => some [character]
  | unexpectedToken _ text | misplacedToken text _ | numberOutOfRange text => some text
  | endOfInput _ | unsupported _ | nestingTooDeep _ => none

/-- The span of a diagnostic covers some text on its line, which is all that it quotes. -/
structure Diagnostic.PointsTo (source : Text) (problem : Diagnostic) (span : Span) (text : Text) :
    Prop where
  slice : span.slice? source = some text
  nonempty : text ≠ []
  place : ∃ place, source.place? span.start = some place ∧ place.number = problem.line
  quoted : ∀ quoted, problem.cause.quoted? = some quoted → quoted = text

/-- The line with a number shows a token, at the offset where its place is. -/
def Token.ShownOn (source : Text) (token : Token) (number : Nat) : Prop :=
  ∃ lexeme left right line, token.lexeme? source = some lexeme ∧
    source.line? number = some (left ++ (lexeme ++ right)) ∧
    source.place? token.span.start = some ⟨number, line, left.byteLength⟩

section Tokens

variable {source : Text} {token : Token}

theorem Token.Fits.exists_cut (h : token.Fits source) :
    ∃ before lexeme after, source = before ++ (lexeme ++ after) ∧
      token.lexeme? source = some lexeme ∧ token.kind.Spells lexeme ∧
      token.span.start = before.byteLength ∧ token.line = before.count '\n' + 1 := by
  obtain ⟨lexeme, hlexeme, hspells⟩ := h.spelled
  obtain ⟨before, after, hsource, hstart, -⟩ := Span.slice?_eq_some_iff.mp hlexeme
  rw [List.append_assoc] at hsource
  have hline := h.line
  rw [← hstart, hsource, Text.take_bytes, Text.count_bytes (by decide), Nat.add_comm] at hline
  exact ⟨before, lexeme, after, hsource, hlexeme, hspells, hstart.symm, hline⟩

/-- No character of a lexeme ends a line, or stands before the newline that does. -/
theorem not_mem_of_spells {kind : Kind} {lexeme : Text} (h : kind.Spells lexeme) :
    '\n' ∉ lexeme ∧ '\r' ∉ lexeme := by
  constructor
  · intro hmem
    exact (not_blank_of_mem_lexeme h hmem).2 rfl
  · intro hmem
    obtain ⟨before, after, hsplit⟩ := List.append_of_mem hmem
    rcases Legible.of_spells h before '\r' after hsplit with hplain | ⟨hangle, -⟩
    · unfold IsPlain at hplain
      revert hplain
      decide
    · exact absurd hangle (by decide)

theorem Token.Fits.shownOn (h : token.Fits source) : token.ShownOn source token.line := by
  obtain ⟨before, lexeme, after, rfl, hlexeme, hspells, hstart, hline⟩ := h.exists_cut
  obtain ⟨hnewline, hreturn⟩ := not_mem_of_spells hspells
  have hnonempty := lexeme_ne_nil_of_spells hspells
  obtain ⟨left, right, hplace, hshown⟩ := Text.exists_place before after hnonempty hnewline
  have hlast : (left ++ lexeme).getLast? = some (lexeme.getLast hnonempty) := by
    rw [List.getLast?_append, List.getLast?_eq_some_getLast hnonempty, Option.some_or]
  have hmem := List.getLast_mem hnonempty
  refine ⟨lexeme, left, Text.withoutNewline right, left ++ (lexeme ++ right), hlexeme, ?_, ?_⟩
  · rw [hline, hshown, ← List.append_assoc, ← List.append_assoc, Text.withoutNewline_append hlast]
    · exact fun heq => hnewline (heq ▸ hmem)
    · exact fun heq => hreturn (heq ▸ hmem)
  · rw [hstart, hline, hplace]

theorem Token.Fits.pointsTo (h : token.Fits source) {problem : Diagnostic}
    (hline : problem.line = token.line)
    (hquoted : ∀ quoted, problem.cause.quoted? = some quoted →
      token.lexeme? source = some quoted) :
    ∃ text, problem.PointsTo source token.span text := by
  obtain ⟨lexeme, hlexeme, hspells⟩ := h.spelled
  obtain ⟨_, _, _, line, -, -, hplace⟩ := h.shownOn
  refine ⟨lexeme, hlexeme, lexeme_ne_nil_of_spells hspells, ⟨_, hplace, hline.symm⟩, ?_⟩
  intro quoted htext
  exact Option.some.inj ((hquoted quoted htext).symm.trans hlexeme)

theorem Cause.Quotes.of_quoted? {cause : Cause} {property : Text → Prop}
    (h : cause.Quotes property) {quoted : Text} (hquoted : cause.quoted? = some quoted) :
    property quoted := by
  cases cause with
  | unexpectedToken | misplacedToken | numberOutOfRange =>
      obtain rfl := Option.some.inj hquoted
      exact h
  | unsupported => cases hquoted
  | unrecognisedCharacter | endOfInput | nestingTooDeep => exact h.elim

theorem Located.token_or_end {setting : Setting} {tokens : List Token} {mayStop : Prop}
    {problem : Diagnostic} (h : Located setting tokens mayStop problem) :
    (∃ token ∈ tokens, problem.span = some token.span ∧ problem.line = token.line ∧
      ∀ quoted, problem.cause.quoted? = some quoted →
        token.lexeme? setting.source = some quoted) ∨
    problem.span = none ∧ problem.line = setting.lastLine ∧
      ((∃ expected, problem.cause = .endOfInput expected) ∨
        problem.cause = .nestingTooDeep setting.limit) := by
  rcases h with ⟨htoken, _, hquotes⟩ | _ | ⟨_, htoken⟩ | _
  · exact .inl ⟨_, htoken, rfl, rfl, fun _ => hquotes.of_quoted?⟩
  · exact .inr ⟨rfl, rfl, .inl ⟨_, rfl⟩⟩
  · refine .inl ⟨_, htoken, rfl, rfl, fun quoted hquoted => ?_⟩
    cases hquoted
  · exact .inr ⟨rfl, rfl, .inr rfl⟩

end Tokens

section Characters

variable {source before after : Text} {character : Char}

theorem Scan.FirstIllegible.pointsTo (h : FirstIllegible source before character after) :
    Diagnostic.PointsTo source (.unrecognised 0 1 before character)
      ⟨before.byteLength, before.byteLength + character.utf8Size⟩ [character] := by
  have hnewline : '\n' ∉ [character] := by
    rw [List.mem_singleton]
    rintro rfl
    exact h.illegible (.inl (.inr (.inl rfl)))
  obtain ⟨left, right, hplace, -⟩ :=
    Text.exists_place before after (List.cons_ne_nil character []) hnewline
  obtain rfl : source = before ++ ([character] ++ after) := h.split
  refine ⟨?_, List.cons_ne_nil _ _, ⟨_, hplace, Nat.add_comm _ 1⟩, ?_⟩
  · rw [Span.slice?_eq_some_iff]
    exact ⟨before, after, (List.append_assoc ..).symm, rfl, by simp⟩
  · intro quoted hquoted
    exact (Option.some.inj hquoted).symm

end Characters

/-- A diagnostic with a span points to the first character that is not read, or to a token; one
without a span is about the end of the source, and on its line stands the last token. -/
theorem analyze_error_pointsTo {source : Text} {limit : Nat} {problem : Diagnostic}
    (h : analyze source limit = .error problem) :
    (∀ span, problem.span = some span → ∃ text, problem.PointsTo source span text ∧
      ((∃ before character after, FirstIllegible source before character after ∧
          problem.cause = .unrecognisedCharacter character ∧ text = [character] ∧
          span.start = before.byteLength) ∨
        ∃ tokens token, tokenize source = .ok tokens ∧ token ∈ tokens ∧ token.span = span)) ∧
    (problem.span = none →
      ((∃ expected, problem.cause = .endOfInput expected) ∨
        problem.cause = .nestingTooDeep limit) ∧
      ∃ tokens last, tokenize source = .ok tokens ∧ tokens.getLast? = some last ∧
        problem.line = last.line ∧ last.ShownOn source problem.line) := by
  cases htokens : tokenize source with
  | error stray =>
      obtain ⟨before, character, after, hfirst, hstray⟩ :=
        exists_firstIllegible_of_tokensFrom htokens
      obtain rfl : problem = .unrecognised 0 1 before character := by
        rw [analyze_of_stray htokens] at h
        exact (Verdict.error.inj h).symm.trans hstray
      refine ⟨fun span hspan => ?_, fun hspan => ?_⟩
      · rw [Diagnostic.unrecognised, Nat.zero_add] at hspan
        obtain rfl := Option.some.inj hspan
        exact ⟨[character], hfirst.pointsTo,
          .inl ⟨before, character, after, hfirst, rfl, rfl, rfl⟩⟩
      · cases hspan
  | ok tokens =>
      obtain ⟨rest, hread⟩ := exists_of_analyze_error htokens h
      obtain ⟨last, hlast⟩ := exists_getLast?_of_readProgram hread
      have hfits := (decomposition_of_tokenize htokens).fits
      have hshown := (hfits last (List.mem_of_getLast? hlast)).shownOn
      have hline := lastLine_ofTokens hlast source .standard limit
      have hroom : tokens.length < limit ∨ True := .inr trivial
      rcases (located_of_readProgram hread hroom).token_or_end with
        ⟨token, htoken, hspan, hproblem, hquoted⟩ | ⟨hspan, hproblem, hcause⟩
      · obtain ⟨text, hpoints⟩ := (hfits token htoken).pointsTo hproblem hquoted
        rw [hspan]
        refine ⟨fun span heq => ?_, fun hnone => ?_⟩
        · obtain rfl := Option.some.inj heq
          exact ⟨text, hpoints, .inr ⟨tokens, token, rfl, htoken, rfl⟩⟩
        · cases hnone
      · rw [hspan]
        refine ⟨fun span heq => ?_, fun _ => ⟨hcause, tokens, last, rfl, hlast, ?_⟩⟩
        · cases heq
        · rw [hproblem.trans hline]
          exact ⟨rfl, hshown⟩

/-- The levels run out where the tokens do, and the line before the last one shows the sign. -/
theorem analyze_error_pointsTo_sign :
    let source : Text := "\nreturn 1 +\n  ".toList
    let sign : Token := ⟨.plus, ⟨10, 11⟩, 2⟩
    let tokens : List Token := [⟨.returnKeyword, ⟨1, 7⟩, 2⟩, ⟨.number, ⟨8, 9⟩, 2⟩, sign]
    analyze source 2 = .error ⟨.nestingTooDeep 2, 2, none⟩ ∧ tokenize source = .ok tokens ∧
      tokens.getLast? = some sign ∧ sign.ShownOn source 2 := by
  intro source sign tokens
  have hproblem : analyze source 2 = .error ⟨.nestingTooDeep 2, 2, none⟩ := by decide +kernel
  have htokens : tokenize source = .ok tokens := by decide +kernel
  obtain ⟨-, hend⟩ := analyze_error_pointsTo hproblem
  obtain ⟨-, others, last, hothers, hlast, -, hshown⟩ := hend rfl
  obtain rfl := Except.ok.inj (hothers.symm.trans htokens)
  obtain rfl := Option.some.inj (hlast.symm.trans (rfl : tokens.getLast? = some sign))
  exact ⟨hproblem, htokens, rfl, hshown⟩

end FrontEnd
