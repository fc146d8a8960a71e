import FrontEnd.CompilationUnit
import FrontEnd.Proofs.Grammar.Recognition

namespace FrontEnd

open Reading Grammar

section Analysis

variable {source : Text} {tokens rest : List Token} {limit : Nat} {problem : Diagnostic}

theorem analyze_of_tokenize (h : tokenize source = .ok tokens) (limit : Nat) :
    analyze source limit = (Analysis.scanned tokens (readProgram tokens source limit)).verdict := by
  rw [analyze, Analysis.ofSource, h]

theorem analyze_of_stray (h : tokenize source = .error problem) (limit : Nat) :
    analyze source limit = .error problem := by
  rw [analyze, Analysis.ofSource, h, Analysis.verdict]

theorem analyze_of_ok {program : List Stmt} (h : tokenize source = .ok tokens)
    (hread : readProgram tokens source limit = .ok program rest) :
    analyze source limit = .ok ⟨tokens, program⟩ := by
  rw [analyze_of_tokenize h, hread, Analysis.verdict]

theorem analyze_of_error (h : tokenize source = .ok tokens)
    (hread : readProgram tokens source limit = .error problem rest) :
    analyze source limit = .error problem := by
  rw [analyze_of_tokenize h, hread, Analysis.verdict]

theorem exists_of_analyze_ok {unit : CompilationUnit} (h : analyze source limit = .ok unit) :
    tokenize source = .ok unit.tokens ∧
      ∃ rest, readProgram unit.tokens source limit = .ok unit.statements rest := by
  cases hscan : tokenize source with
  | error problem =>
      rw [analyze, Analysis.ofSource, hscan] at h
      cases h
  | ok tokens =>
      rw [analyze_of_tokenize hscan] at h
      cases houtcome : readProgram tokens source limit with
      | ok program rest =>
          rw [houtcome] at h
          cases h
          exact ⟨rfl, rest, houtcome⟩
      | error problem rest =>
          rw [houtcome] at h
          cases h
      | fault rest opened =>
          rw [houtcome] at h
          cases h

theorem exists_of_analyze_error (h : tokenize source = .ok tokens)
    (hanalyze : analyze source limit = .error problem) :
    ∃ rest, readProgram tokens source limit = .error problem rest := by
  rw [analyze_of_tokenize h] at hanalyze
  cases houtcome : readProgram tokens source limit with
  | ok program rest =>
      rw [houtcome] at hanalyze
      cases hanalyze
  | error other rest =>
      rw [houtcome] at hanalyze
      cases hanalyze
      exact ⟨rest, rfl⟩
  | fault rest opened =>
      rw [houtcome] at hanalyze
      cases hanalyze

end Analysis

theorem exists_analyze_ok_of_completes {source head : Text} {tokens : List Token} {limit : Nat}
    (htokens : tokenize head = .ok tokens) (hlimit : tokens.length < limit)
    (halike : ∀ back, SpelledAlike source (head ++ back) tokens)
    (h : Completes Program source tokens) :
    ∃ text unit, analyze (head ++ ' ' :: text) limit = .ok unit := by
  obtain ⟨kinds, hmarks, hcompletes⟩ := h
  obtain ⟨more, hmore, hsamples⟩ :=
    exists_tokensFrom_sampleText (head ++ [' ']) (1 + head.count '\n') kinds
  have htext : head ++ [' '] ++ sampleText kinds = head ++ ' ' :: sampleText kinds := by simp
  have hscan : tokenize (head ++ ' ' :: sampleText kinds) = .ok (tokens ++ more) := by
    have hoffset : (head ++ [' ']).byteLength = 0 + head.byteLength + 1 := by
      simp [show ' '.utf8Size = 1 from rfl]
    rw [tokenize, tokensFrom_append_space htokens, ← hoffset, hmore]
    rfl
  rw [htext] at hsamples
  obtain ⟨program, hprogram⟩ := hcompletes _ more (halike _) hsamples
  -- The added tokens hold at most one mark, and the limit has room for one level more than the
  -- given tokens can open.
  have hneed : Stmt.needAll program ≤ limit := by
    calc
      Stmt.needAll program ≤ marks (tokens ++ more) := hprogram.needAll_le_marks
      _ = marks tokens + Kind.marks kinds := by rw [marks_append, hsamples.marks_eq]
      _ ≤ tokens.length + 1 := Nat.add_le_add (marks_le_length tokens) hmarks
      _ ≤ limit := hlimit
  exact ⟨sampleText kinds, _, analyze_of_ok hscan (readProgram_of_program hprogram hneed)⟩

theorem analyze_error_of_continuation {source head text : Text} {before : List Token}
    {token : Token} {others : List Token} {limit : Nat} {problem : Diagnostic}
    (hhead : tokenize head = .ok (before ++ [token]))
    (hlocal : ∀ (other : Setting) following, other.rules = .standard →
      SpelledAlike source other.source (before ++ [token]) →
        ∃ left, Stmt.readAllStatements (Stmt.read limit) other (before ++ token :: following) =
          .error problem left)
    (halike : ∀ back, SpelledAlike source (head ++ back) (before ++ [token]))
    (h : tokenize (head ++ ' ' :: text) = .ok others) :
    analyze (head ++ ' ' :: text) limit = .error problem := by
  have hothers := h
  rw [tokenize, tokensFrom_append_space hhead, Except.map_eq_ok_iff] at hothers
  obtain ⟨following, -, rfl⟩ := hothers
  obtain ⟨left, hleft⟩ := hlocal
    (Setting.ofTokens (before ++ [token] ++ following) (head ++ ' ' :: text) .standard limit)
    following rfl (halike _)
  rw [List.append_assoc] at h hleft
  exact analyze_of_error h hleft

/-- Every diagnostic stands at the first token that cannot be continued: the text up to it and any
text after that is refused with the same diagnostic, and the text before it can be continued to an
accepted one. If the diagnostic is the end of the input, the whole source can be continued so. -/
theorem analyze_error_at_first_unviable_token {source : Text} {tokens : List Token} {limit : Nat}
    {problem : Diagnostic} (htokens : tokenize source = .ok tokens)
    (hlimit : tokens.length < limit) (herror : analyze source limit = .error problem) :
    (∀ span, problem.span = some span →
      (∃ head, source.takeBytes? span.stop = some head ∧
        ∀ text others, tokenize (head ++ ' ' :: text) = .ok others →
          analyze (head ++ ' ' :: text) limit = .error problem) ∧
      ∃ head text unit, source.takeBytes? span.start = some head ∧
        analyze (head ++ ' ' :: text) limit = .ok unit) ∧
    ∀ expected, problem.cause = .endOfInput expected →
      ∃ text unit, analyze (source ++ ' ' :: text) limit = .ok unit := by
  obtain ⟨rest, hread⟩ := exists_of_analyze_error htokens herror
  have hexplains := readProgram_explains htokens hlimit
  rw [hread] at hexplains
  cases hexplains with
  | short hspan hcompletes =>
      refine ⟨fun span hsome => ?_, fun expected _ => ?_⟩
      · rw [hspan] at hsome
        cases hsome
      have halike := (spelled_of_tokenize htokens).alike []
      rw [List.append_nil] at halike
      exact exists_analyze_ok_of_completes htokens hlimit halike hcompletes
  | @refused before after _ token cause hsplit hcause hcompletes hlocal =>
      refine ⟨?_, fun expected hexpected => absurd hexpected (hcause expected)⟩
      rintro span ⟨⟩
      subst hsplit
      obtain ⟨front, lexeme, back, rfl, hspan, hfront, hlexeme⟩ := exists_cut_of_tokensFrom htokens
      rw [Nat.zero_add, Nat.zero_add] at hspan
      have hstart : front.byteLength = token.span.start := by rw [hspan]
      have hstop : (front ++ lexeme).byteLength = token.span.stop := by rw [hspan]
      constructor
      · refine ⟨front ++ lexeme,
          Text.takeBytes?_eq_some_iff.mpr ⟨List.prefix_append _ _, hstop⟩, ?_⟩
        intro text others hothers
        exact analyze_error_of_continuation hlexeme hlocal
          ((spelled_of_tokenize hlexeme).alike back) hothers
      · have hfewer : before.length < limit := by
          simp only [List.length_append] at hlimit
          omega
        have halike := (spelled_of_tokenize hfront).alike (lexeme ++ back)
        rw [← List.append_assoc] at halike
        obtain ⟨text, unit, hunit⟩ :=
          exists_analyze_ok_of_completes hfront hfewer halike hcompletes
        refine ⟨front, text, unit, Text.takeBytes?_eq_some_iff.mpr ⟨?_, hstart⟩, hunit⟩
        exact ⟨lexeme ++ back, by simp⟩

/-- A second number in the place of the end of a statement is refused whatever follows it, and
before it the statement could have been ended. -/
theorem analyze_error_at_first_unviable_token_number :
    let source : Text := "a.b=1 2;".toList
    let problem : Diagnostic := ⟨.unexpectedToken .semicolon ['2'], 1, some ⟨6, 7⟩⟩
    analyze source 8 = .error problem ∧
      (∃ head, source.takeBytes? 7 = some head ∧
        ∀ text others, tokenize (head ++ ' ' :: text) = .ok others →
          analyze (head ++ ' ' :: text) 8 = .error problem) ∧
      ∃ head text unit, source.takeBytes? 6 = some head ∧
        analyze (head ++ ' ' :: text) 8 = .ok unit := by
  intro source problem
  have htokens : tokenize source = .ok [⟨.identifier, ⟨0, 1⟩, 1⟩, ⟨.dot, ⟨1, 2⟩, 1⟩,
      ⟨.identifier, ⟨2, 3⟩, 1⟩, ⟨.assignment, ⟨3, 4⟩, 1⟩, ⟨.number, ⟨4, 5⟩, 1⟩,
      ⟨.number, ⟨6, 7⟩, 1⟩, ⟨.semicolon, ⟨7, 8⟩, 1⟩] := by decide +kernel
  have herror : analyze source 8 = .error problem := by decide +kernel
  exact ⟨herror,
    (analyze_error_at_first_unviable_token htokens (by decide) herror).1 ⟨6, 7⟩ rfl⟩

end FrontEnd
