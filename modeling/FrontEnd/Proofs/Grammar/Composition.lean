import FrontEnd.Proofs.Grammar.Limits
import FrontEnd.Proofs.Grammar.ViablePrefix
import FrontEnd.Proofs.Scan.Legibility
import FrontEnd.Proofs.Scan.Shift

namespace FrontEnd

open Reading Grammar

/-- The verdict on a text that stands after a unit, some bytes and lines further on. -/
def Verdict.after (unit : CompilationUnit) (bytes lines : Nat) :
    Verdict CompilationUnit → Verdict CompilationUnit
  | .ok other =>
      .ok ⟨unit.tokens ++ other.tokens.map (Token.shift bytes lines),
        unit.statements ++ Stmt.mapAll (Token.shift bytes lines) other.statements⟩
  | .error problem => .error (problem.shift bytes lines)
  | .fault => .fault

/-- The comparison of the tokens of a text with those that it has after another text. -/
def Comparison.ofShift (front text : Text) (lines : Nat) (tokens others : List Token)
    (limit : Nat) : Comparison :=
  .ofTokens tokens others text (front ++ text) limit limit False
    (fun token image => image = token.shift front.byteLength lines) (.inl rfl)
    (by
      rintro token _ rfl
      rfl)
    (by
      rintro token _ rfl
      exact (Span.slice?_shift front text token.span).symm)

section

variable {front text : Text} {lines limit : Nat} {before tokens : List Token}

theorem lastLine_append_shift (htokens : tokens ≠ []) (bytes : Nat) (other : Text) :
    (Setting.ofTokens (before ++ tokens.map (Token.shift bytes lines)) other .standard
      limit).lastLine = (Setting.ofTokens tokens text .standard limit).lastLine + lines := by
  obtain ⟨initial, last, rfl⟩ := (List.eq_nil_or_concat tokens).resolve_left htokens
  simp [Setting.ofTokens, Token.shift]

theorem eq_shift_of_samePlace {others : List Token} {problem other : Diagnostic}
    (h : (Comparison.ofShift front text lines tokens others limit).SamePlace problem other)
    (hlast : (Setting.ofTokens others (front ++ text) .standard limit).lastLine =
      (Setting.ofTokens tokens text .standard limit).lastLine + lines) :
    other = problem.shift front.byteLength lines := by
  cases h with
  | token hrelated =>
      cases hrelated
      rfl
  | ending => exact congrArg (Diagnostic.mk _ · none) hlast

/-- After tokens that derive a program, the reading of a text goes on as that of the text alone. -/
theorem verdict_append_shift {program : List Stmt} (h : Program (front ++ text) before program)
    (hneed : Stmt.needAll program ≤ limit) :
    let others := before ++ tokens.map (Token.shift front.byteLength lines)
    (Analysis.scanned others (readProgram others (front ++ text) limit)).verdict =
      (Analysis.scanned tokens (readProgram tokens text limit)).verdict.after ⟨before, program⟩
        front.byteLength lines := by
  intro others
  let comparison := Comparison.ofShift front text lines tokens others limit
  let images := tokens.map (Token.shift front.byteLength lines)
  have hread : readProgram others (front ++ text) limit =
      (Stmt.readAllStatements (Stmt.read limit) comparison.second images).map (program ++ ·) :=
    Stmt.readAllStatements_append (Stmt.read_progressive limit)
      (@Stmt.accepts_read comparison.second rfl limit) h hneed images
  have himages : List.Forall₂ comparison.relation tokens images :=
    List.forall₂_map_right_iff.mpr (List.forall₂_same.mpr fun _ _ => rfl)
  have hfollows : comparison.Follows (Stmt.RelatedAll comparison.relation)
      (readProgram tokens text limit)
      (Stmt.readAllStatements (Stmt.read limit) comparison.second images) :=
    Stmt.readAllStatements_simulates ⟨Nat.le_refl limit, .inl rfl⟩ tokens images himages
  generalize hfirst : readProgram tokens text limit = outcome at hfollows ⊢
  generalize hsecond : Stmt.readAllStatements (Stmt.read limit) comparison.second images =
    otherOutcome at hfollows
  cases hfollows with
  | ok hstatements _ =>
      rw [hread, hsecond, hstatements.eq_mapAll]
      rfl
  | error hplace _ =>
      -- Without tokens of its own the text would end on the last line of the one before it, but
      -- then there is nothing to refuse.
      have htokens : tokens ≠ [] := by
        rintro rfl
        cases hfirst
      rw [hread, hsecond, eq_shift_of_samePlace hplace (lastLine_append_shift htokens _ _)]
      rfl
  | fault _ =>
      rw [hread, hsecond]
      rfl
  | stopped hstop => exact hstop.elim

end

/-- A text that is put on a new line after another adds its own verdict to the unit of the other,
moved to where it stands; after a text that cannot be scanned it changes nothing. -/
theorem analyze_append_newline (first second : Text) (limit : Nat) :
    (∀ unit, analyze first limit = .ok unit →
      analyze (first ++ '\n' :: second) limit =
        (analyze second limit).after unit (first.byteLength + 1) (first.count '\n' + 1)) ∧
    ∀ problem, tokenize first = .error problem →
      analyze (first ++ '\n' :: second) limit = .error problem := by
  refine ⟨fun unit hunit => ?_, fun problem hproblem => ?_⟩
  · obtain ⟨htokens, rest, hread⟩ := exists_of_analyze_ok hunit
    have hscan : tokenize (first ++ '\n' :: second) =
        (shiftScan (first.byteLength + 1) (first.count '\n' + 1) (tokenize second)).map
          (unit.tokens ++ ·) := by
      rw [tokenize, tokensFrom_append_blank (.inr ⟨rfl, rfl⟩) htokens, Nat.add_assoc, Nat.add_assoc,
        tokensFrom_add, tokenize]
    have hprogram : Program (first ++ '\n' :: second) unit.tokens unit.statements := by
      have halike := (spelled_of_tokenize htokens).alike [] ('\n' :: second)
      rw [List.append_nil] at halike
      exact program_of_readProgram htokens hread halike
    cases hsecond : tokenize second with
    | error problem =>
        rw [hsecond] at hscan
        rw [analyze_of_stray hscan, analyze_of_stray hsecond]
        rfl
    | ok tokens =>
        rw [hsecond] at hscan
        have hwhole : first ++ '\n' :: second = first ++ ['\n'] ++ second := by simp
        have hfront : (first ++ ['\n']).byteLength = first.byteLength + 1 :=
          Text.byteLength_append first ['\n']
        rw [analyze_of_tokenize hscan, analyze_of_tokenize hsecond, ← hfront, hwhole]
        rw [hwhole] at hprogram
        exact verdict_append_shift hprogram (needAll_le_of_readProgram hread)
  · exact analyze_of_stray (tokensFrom_append_of_error hproblem _) limit

/-- What is refused on the second line of a text is refused on the third line, if a line comes
before it. -/
theorem analyze_append_newline_unsupported :
    let first : Text := "a: ;".toList
    let second : Text := "\nb.c = x;".toList
    let name : Token := ⟨.identifier, ⟨0, 1⟩, 1⟩
    analyze first 2 =
        .ok ⟨[name, ⟨.colon, ⟨1, 2⟩, 1⟩, ⟨.semicolon, ⟨3, 4⟩, 1⟩],
          [.declaration name .inferred none]⟩ ∧
      analyze second 2 = .error ⟨.unsupported "identifier expression", 2, some ⟨7, 8⟩⟩ ∧
      analyze (first ++ '\n' :: second) 2 =
        .error ⟨.unsupported "identifier expression", 3, some ⟨12, 13⟩⟩ := by
  intro first second name
  have hfirst : analyze first 2 = .ok ⟨[name, ⟨.colon, ⟨1, 2⟩, 1⟩, ⟨.semicolon, ⟨3, 4⟩, 1⟩],
      [.declaration name .inferred none]⟩ := by decide +kernel
  have hsecond : analyze second 2 =
      .error ⟨.unsupported "identifier expression", 2, some ⟨7, 8⟩⟩ := by decide +kernel
  refine ⟨hfirst, hsecond, ?_⟩
  rw [(analyze_append_newline first second 2).1 _ hfirst, hsecond]
  rfl

end FrontEnd
