import FrontEnd.Proofs.Grammar.Limits
import FrontEnd.Proofs.Grammar.Printing
import FrontEnd.Proofs.Grammar.ViablePrefix

namespace FrontEnd

open Reading Grammar

theorem exists_tokensFrom_intercalate (front : Text) (line : Nat) {source : Text}
    {tokens : List Token} {texts : List Text} (h : Prints source tokens (texts.map some)) :
    ∃ others, tokensFrom front.byteLength line ([' '].intercalate texts) = .ok others ∧
      List.Forall₂ (SameSpelling source (front ++ [' '].intercalate texts)) tokens others := by
  induction texts generalizing front tokens with
  | nil =>
      obtain rfl := List.map_eq_nil_iff.mp h.lexemes
      exact ⟨[], tokensFrom_nil, .nil⟩
  | cons text texts ih =>
      obtain ⟨token, tokens, rfl, htext, hrest⟩ := List.map_eq_cons_iff.mp h.lexemes
      obtain ⟨⟨lexeme, hlexeme, hspells⟩, hspelled⟩ := spelled_cons.mp h.spelled
      obtain rfl : lexeme = text := Option.some.inj (hlexeme.symm.trans htext)
      let image : Token :=
        ⟨token.kind, ⟨front.byteLength, front.byteLength + lexeme.byteLength⟩, line⟩
      cases texts with
      | nil =>
          obtain rfl := List.map_eq_nil_iff.mp hrest
          have hscan : tokensFrom front.byteLength line (lexeme ++ []) = .ok [image] := by
            rw [tokensFrom_lexeme_append hspells (by simp), tokensFrom_nil]
            rfl
          have himage : image.lexeme? (front ++ lexeme ++ []) = some lexeme := lexeme?_of_cut
          rw [List.append_nil] at hscan himage
          rw [List.intercalate_singleton]
          exact ⟨[image], hscan, .cons ⟨rfl, lexeme, hlexeme, himage⟩ .nil⟩
      | cons second texts =>
          obtain ⟨others, hothers, hsame⟩ := ih (front ++ lexeme ++ [' ']) ⟨hspelled, hrest⟩
          have htext : [' '].intercalate (lexeme :: second :: texts) =
              lexeme ++ ' ' :: [' '].intercalate (second :: texts) := by
            rw [List.intercalate_cons_cons, List.append_assoc, List.singleton_append]
          refine ⟨image :: others, ?_, .cons ⟨rfl, lexeme, hlexeme, ?_⟩ ?_⟩
          · rw [htext, tokensFrom_lexeme_space hspells, hothers]
            rfl
          · rw [htext, ← List.append_assoc]
            exact lexeme?_of_cut
          · rw [htext]
            simpa using hsame

section Spelling

variable {source other : Text} {tokens others rest : List Token} {limit : Nat}
  {relation : Token → Token → Prop}

/-- Under one limit, neither of two runs may be stopped before the other. -/
theorem Comparison.limit_eq_self (limit : Nat) : limit = limit ∨ False :=
  .inl rfl

/-- The comparison of tokens with others that are spelled alike, under one limit. -/
def Comparison.ofSpelling (tokens others : List Token) (limit : Nat)
    (hrelation : ∀ {token image : Token}, relation token image →
      SameSpelling source other token image) : Comparison :=
  .ofTokens tokens others source other limit limit False relation (limit_eq_self limit)
    (fun h => (hrelation h).1) (fun h => (hrelation h).lexeme?_eq)

theorem readProgram_follows (limit : Nat)
    (hrelation : ∀ {token image : Token}, relation token image →
      SameSpelling source other token image)
    (htokens : List.Forall₂ relation tokens others) :
    (Comparison.ofSpelling tokens others limit hrelation).Follows (Stmt.RelatedAll relation)
      (readProgram tokens source limit) (readProgram others other limit) := by
  have hfits : (Comparison.ofSpelling tokens others limit hrelation).Fits limit limit :=
    ⟨Nat.le_refl limit, Comparison.limit_eq_self limit⟩
  exact Stmt.readAllStatements_simulates hfits tokens others htokens

theorem readProgram_of_sameSpelling {program : List Stmt}
    (htokens : List.Forall₂ (SameSpelling source other) tokens others)
    (h : readProgram tokens source limit = .ok program rest) :
    ∃ images left, readProgram others other limit = .ok images left ∧
      Stmt.RelatedAll (SameSpelling source other) program images := by
  have hfollows := readProgram_follows limit id htokens
  rw [h] at hfollows
  generalize readProgram others other limit = outcome at hfollows
  cases hfollows with
  | ok hprogram _ => exact ⟨_, _, rfl, hprogram⟩

end Spelling

/-- The program of a unit can be printed; what is printed is analyzed under the same limit as the
same program, up to where its tokens stand; and that program is printed as the same text. -/
theorem analyze_print {source : Text} {limit : Nat} {unit : CompilationUnit}
    (h : analyze source limit = .ok unit) :
    ∃ text, Stmt.print source unit.statements = some text ∧
      ∃ other, analyze text limit = .ok other ∧
        Stmt.RelatedAll (SameSpelling source text) unit.statements other.statements ∧
        Stmt.print text other.statements = some text := by
  obtain ⟨htokens, rest, hread⟩ := exists_of_analyze_ok h
  have hprogram := program_of_readProgram htokens hread (.refl source unit.tokens)
  obtain ⟨printed, hprinted, hwords⟩ := hprogram.printed (spelled_of_tokenize htokens)
  obtain ⟨texts, htexts⟩ := hwords.exists_texts
  rw [htexts] at hwords
  obtain ⟨others, hscan, hsame⟩ := exists_tokensFrom_intercalate [] 1 hwords
  have hagain := readProgram_of_program hprinted (needAll_le_of_readProgram hread)
  obtain ⟨images, left, himages, hrelated⟩ := readProgram_of_sameSpelling hsame hagain
  refine ⟨_, Stmt.print_of_allWords htexts, ⟨others, images⟩, analyze_of_ok hscan himages,
    hrelated, ?_⟩
  apply Stmt.print_of_allWords
  rw [← htexts]
  exact hrelated.allWords_eq.symm

/-- A comma at the end of a struct literal is not printed; a zero before a number is. -/
theorem analyze_print_trailing_comma :
    let source : Text := "return 7-.\x7bb=07,\x7d;".toList
    let text : Text := "return 7 - . \x7b b = 07 \x7d ;".toList
    let token := fun (kind : Kind) (start : Nat) => (⟨kind, ⟨start, start + 1⟩, 1⟩ : Token)
    let unit : CompilationUnit :=
      ⟨[⟨.returnKeyword, ⟨0, 6⟩, 1⟩, token .number 7, token .dash 8, token .dot 9,
          token .openCurly 10, token .identifier 11, token .assignment 12, ⟨.number, ⟨13, 15⟩, 1⟩,
          token .comma 15, token .closeCurly 16, token .semicolon 17],
        [.returns (.binary (.number 7 (token .number 7)) .dash
          (.structLiteral (token .dot 9)
            [(token .identifier 11, .number 7 ⟨.number, ⟨13, 15⟩, 1⟩)]))]⟩
    analyze source 4 = .ok unit ∧ Stmt.print source unit.statements = some text ∧
      ∃ other, analyze text 4 = .ok other ∧
        Stmt.RelatedAll (SameSpelling source text) unit.statements other.statements ∧
        Stmt.print text other.statements = some text := by
  intro source text token unit
  have hunit : analyze source 4 = .ok unit := by decide +kernel
  have hprint : Stmt.print source unit.statements = some text := by decide +kernel
  obtain ⟨printed, hprinted, hother⟩ := analyze_print hunit
  obtain rfl : printed = text := Option.some.inj (hprinted.symm.trans hprint)
  exact ⟨hunit, hprint, hother⟩

end FrontEnd
