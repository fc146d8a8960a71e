import FrontEnd.Tree.Equality
import FrontEnd.Proofs.Grammar.ExplainedStatements
import FrontEnd.Proofs.Scan.Decomposition

namespace FrontEnd

open Reading Grammar

theorem spelled_of_tokenize {source : Text} {tokens : List Token}
    (h : tokenize source = .ok tokens) : Spelled source tokens := by
  intro token htoken
  exact ((decomposition_of_tokenize h).fits token htoken).spelled

theorem readProgram_explains {source : Text} {tokens : List Token} {limit : Nat}
    (htokens : tokenize source = .ok tokens) (hlimit : tokens.length < limit) :
    Explains (Stmt.readAllStatements (Stmt.read limit)) Program
      (Setting.ofTokens tokens source .standard limit) tokens
      (readProgram tokens source limit) := by
  have hexplained := Stmt.readAllStatements_explained (Stmt.read_progressive limit)
    (Stmt.read_explained limit) (Nat.le_refl limit)
  exact hexplained.explained tokens.head? (Setting.ofTokens tokens source .standard limit) tokens
    ⟨rfl, spelled_of_tokenize htokens, hlimit⟩ rfl

/-- The tokens of a source are read as a program exactly if the grammar derives the program from
them. -/
theorem readProgram_eq_ok_iff_program {source : Text} {tokens : List Token} {limit : Nat}
    (htokens : tokenize source = .ok tokens) (hlimit : tokens.length < limit)
    (program : List Stmt) :
    (∃ rest, readProgram tokens source limit = .ok program rest) ↔
      Program source tokens program := by
  constructor
  · rintro ⟨rest, hread⟩
    have hexplains := readProgram_explains htokens hlimit
    rw [hread] at hexplains
    obtain rfl := Stmt.rest_eq_nil_of_readAllStatements (Stmt.read_progressive limit) hread
    cases hexplains with
    | accepted hsplit hprogram _ =>
        rw [List.append_nil] at hsplit
        subst hsplit
        exact hprogram source (.refl _ _)
  · intro h
    have hneed : Stmt.needAll program ≤ limit := by
      calc
        Stmt.needAll program ≤ marks tokens := h.needAll_le_marks
        _ ≤ tokens.length := marks_le_length tokens
        _ ≤ limit := Nat.le_of_lt hlimit
    exact ⟨[], readProgram_of_program h hneed⟩

/-- A chain of signs is read from the left, and is derived so. -/
theorem readProgram_eq_ok_iff_program_chain :
    let source := "a.b=1-2+3;".toList
    let token := fun (kind : Kind) (start : Nat) => (⟨kind, ⟨start, start + 1⟩, 1⟩ : Token)
    let tokens := [token .identifier 0, token .dot 1, token .identifier 2, token .assignment 3,
      token .number 4, token .dash 5, token .number 6, token .plus 7, token .number 8,
      token .semicolon 9]
    let program := [Stmt.fieldWrite (token .identifier 0) (token .identifier 2) .assignment
      (.binary (.binary (.number 1 (token .number 4)) .dash (.number 2 (token .number 6))) .plus
        (.number 3 (token .number 8)))]
    tokenize source = .ok tokens ∧ tokens.length < 11 ∧
      (∃ rest, readProgram tokens source 11 = .ok program rest) ∧
        Program source tokens program := by
  intro source token tokens program
  have htokens : tokenize source = .ok tokens := by decide +kernel
  have hlimit : tokens.length < 11 := by decide
  have hread : readProgram tokens source 11 = .ok program [] := by decide +kernel
  exact ⟨htokens, hlimit, ⟨[], hread⟩,
    (readProgram_eq_ok_iff_program htokens hlimit program).mp ⟨[], hread⟩⟩

end FrontEnd
