import FrontEnd.Proofs.Grammar.Account
import FrontEnd.Proofs.Scan.Decomposition

namespace FrontEnd

/-- The diagnostics that a reading of some tokens may end with. -/
inductive Located (setting : Setting) (tokens : List Token) (mayStop : Prop) : Diagnostic → Prop
  | refused {token : Token} {cause : Cause} : token ∈ tokens → cause.OneLine →
      cause.Quotes (token.lexeme? setting.source = some ·) →
        Located setting tokens mayStop ⟨cause, token.line, some token.span⟩
  | missing {expected : String} : '\n' ∉ expected.toList →
      Located setting tokens mayStop ⟨.endOfInput expected, setting.lastLine, none⟩
  | stopped {token : Token} : mayStop → token ∈ tokens →
      Located setting tokens mayStop
        ⟨.nestingTooDeep setting.limit, token.line, some token.span⟩
  | stoppedAtEnd : mayStop →
      Located setting tokens mayStop ⟨.nestingTooDeep setting.limit, setting.lastLine, none⟩

/-- A fault means that a token is not spelled in the source. -/
def Account.located (setting : Setting) (tokens : List Token) (mayStop : Prop) : Account where
  setting := setting
  tokens := tokens
  problem := Located setting tokens mayStop
  fault := ∃ token ∈ tokens, token.lexeme? setting.source = none
  refused := .refused
  missing := .missing
  unspelled htoken hlexeme := ⟨_, htoken, hlexeme⟩

section Program

variable {source : Text} {tokens rest : List Token} {limit : Nat} {mayStop : Prop}
  {problem : Diagnostic}

theorem readProgram_ends (source : Text) (hroom : tokens.length < limit ∨ mayStop) :
    (Account.located (.ofTokens tokens source .standard limit) tokens mayStop).Ends 0 tokens
      (readProgram tokens source limit) := by
  let account := Account.located (.ofTokens tokens source .standard limit) tokens mayStop
  have hstatement : account.correspondence.relates 1 (tokens.length + 1) Eq (Stmt.read limit)
      (Stmt.read limit) :=
    Stmt.read_accounted (fun _ => account.trees) (fun _ _ _ => id) (fun _ _ _ => id)
      (hroom.imp (fun hlimit => ⟨hlimit, rfl⟩) fun hstop => ⟨.stopped hstop, .stoppedAtEnd hstop⟩)
  exact (Stmt.readAllStatements_relates _ account.trees hstatement.forget tokens List.suffix_rfl
    (Nat.lt_succ_self _)).2

theorem located_of_readProgram (h : readProgram tokens source limit = .error problem rest)
    (hroom : tokens.length < limit ∨ mayStop) :
    Located (.ofTokens tokens source .standard limit) tokens mayStop problem := by
  have hends := readProgram_ends source hroom
  rw [h] at hends
  cases hends with
  | error _ hlocated => exact hlocated

theorem readProgram_ne_fault (htokens : tokenize source = .ok tokens) (opened : Nat) :
    readProgram tokens source limit ≠ .fault rest opened := by
  intro hfault
  have hends := @readProgram_ends tokens limit True source (.inr trivial)
  rw [hfault] at hends
  obtain _ | _ | ⟨-, token, htoken, hnone⟩ := hends
  obtain ⟨lexeme, hlexeme, -⟩ := ((decomposition_of_tokenize htokens).fits token htoken).spelled
  cases hnone.symm.trans hlexeme

/-- Something was read before a reading fails; a program without tokens is read without failure. -/
theorem exists_getLast?_of_readProgram
    (h : readProgram tokens source limit = .error problem rest) :
    ∃ last, tokens.getLast? = some last := by
  have hnonempty : tokens ≠ [] := by
    rintro rfl
    cases h
  exact ⟨_, List.getLast?_eq_some_getLast hnonempty⟩

theorem lastLine_ofTokens {last : Token} (h : tokens.getLast? = some last) (source : Text)
    (rules : Rules) (limit : Nat) :
    (Setting.ofTokens tokens source rules limit).lastLine = last.line := by
  rw [Setting.ofTokens, h]
  rfl

end Program

end FrontEnd
