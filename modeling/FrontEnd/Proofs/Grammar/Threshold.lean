import FrontEnd.Proofs.Grammar.Limits
import FrontEnd.Proofs.Grammar.Location
import Mathlib.Data.Nat.Find

namespace FrontEnd

variable {source : Text} {tokens : List Token}

theorem not_stoppedAt_of_length_lt {limit : Nat} (hlimit : tokens.length < limit) (any : Nat) :
    ¬(readProgram tokens source limit).StoppedAt any := by
  rintro ⟨line, span, rest, hstopped⟩
  have hroom : tokens.length < limit ∨ False := .inl hlimit
  rcases located_of_readProgram hstopped hroom with ⟨_, _, hquotes⟩ | _ | hstop | hstop
  · exact hquotes
  · exact hstop
  · exact hstop

theorem readProgram_eq_of_not_stoppedAt {limit other : Nat}
    (h : ¬(readProgram tokens source limit).StoppedAt limit) (hlimit : limit ≤ other) :
    readProgram tokens source other = readProgram tokens source limit :=
  ((readProgram_eq_or_stoppedAt hlimit).resolve_right h).symm

/-- A reading that is stopped reports its own limit. -/
theorem stoppedAt_of_stoppedAt {limit any : Nat}
    (h : (readProgram tokens source limit).StoppedAt any) :
    (readProgram tokens source limit).StoppedAt limit := by
  by_contra hgoes
  have hlarge := readProgram_eq_of_not_stoppedAt hgoes (Nat.le_max_left limit (tokens.length + 1))
  rw [← hlarge] at h
  exact not_stoppedAt_of_length_lt (Nat.le_max_right _ _) any h

/-- A smaller limit gives the same outcome as a greater one or stops the reading; with more levels
than tokens nothing is stopped; and there is one number of levels below which the reading is
stopped and from which on it always ends in the same way. -/
theorem readProgram_stopped_below_threshold (tokens : List Token) (source : Text) :
    (∀ limit other, limit ≤ other →
      readProgram tokens source limit = readProgram tokens source other ∨
        (readProgram tokens source limit).StoppedAt limit) ∧
    (∀ limit, tokens.length < limit → ∀ any, ¬(readProgram tokens source limit).StoppedAt any) ∧
    ∃! threshold,
      (∀ limit < threshold, (readProgram tokens source limit).StoppedAt limit) ∧
      ∀ limit, threshold ≤ limit →
        readProgram tokens source limit = readProgram tokens source threshold ∧
          ∀ any, ¬(readProgram tokens source limit).StoppedAt any := by
  classical
  have hlong : ∃ limit, ¬(readProgram tokens source limit).StoppedAt limit :=
    ⟨tokens.length + 1, not_stoppedAt_of_length_lt (Nat.lt_succ_self _) _⟩
  have hgoes := Nat.find_spec hlong
  refine ⟨fun _ _ => readProgram_eq_or_stoppedAt, fun _ => not_stoppedAt_of_length_lt,
    Nat.find hlong, ⟨?_, ?_⟩, ?_⟩
  · intro limit hlimit
    exact not_not.mp (Nat.find_min hlong hlimit)
  · intro limit hlimit
    have heq := readProgram_eq_of_not_stoppedAt hgoes hlimit
    refine ⟨heq, fun any hstopped => hgoes ?_⟩
    rw [heq] at hstopped
    exact stoppedAt_of_stoppedAt hstopped
  · rintro threshold ⟨hbelow, habove⟩
    apply Nat.le_antisymm
    · apply Nat.le_of_not_lt
      intro hless
      exact hgoes (hbelow _ hless)
    · exact Nat.find_min' hlong ((habove threshold (Nat.le_refl _)).2 threshold)

/-- A sign in a struct literal is refused on the third level, with any number of levels from there
on. -/
theorem readProgram_stopped_below_threshold_sign :
    let source : Text := "return .\x7ba=-1;".toList
    let token := fun (kind : Kind) (start : Nat) => (⟨kind, ⟨start, start + 1⟩, 1⟩ : Token)
    let rest := [token .dash 11, token .number 12, token .semicolon 13]
    let tokens := [⟨.returnKeyword, ⟨0, 6⟩, 1⟩, token .dot 7, token .openCurly 8,
      token .identifier 9, token .assignment 10] ++ rest
    tokenize source = .ok tokens ∧ (readProgram tokens source 2).StoppedAt 2 ∧
      ∀ limit, 3 ≤ limit → readProgram tokens source limit =
        .error ⟨.unsupported "unary expression", 1, some ⟨11, 12⟩⟩ rest := by
  intro source token rest tokens
  have htokens : tokenize source = .ok tokens := by decide +kernel
  have htwo : readProgram tokens source 2 = .error ⟨.nestingTooDeep 2, 1, some ⟨11, 12⟩⟩ rest := by
    decide +kernel
  have hthree : readProgram tokens source 3 =
      .error ⟨.unsupported "unary expression", 1, some ⟨11, 12⟩⟩ rest := by decide +kernel
  obtain ⟨_, _, threshold, ⟨hbelow, habove⟩, _⟩ := readProgram_stopped_below_threshold tokens source
  have hthreshold : threshold ≤ 3 := by
    apply Nat.le_of_not_lt
    intro hless
    obtain ⟨_, _, _, hstopped⟩ := hbelow 3 hless
    cases hthree.symm.trans hstopped
  refine ⟨htokens, ⟨_, _, _, htwo⟩, fun limit hlimit => ?_⟩
  rw [(habove limit (hthreshold.trans hlimit)).1, ← (habove 3 hthreshold).1, hthree]

section Accepted

variable {rest : List Token} {limit : Nat} {program : List Stmt}

theorem readProgram_of_needAll_le (htokens : tokenize source = .ok tokens)
    (h : readProgram tokens source limit = .ok program rest) {other : Nat}
    (hneed : Stmt.needAll program ≤ other) :
    readProgram tokens source other = .ok program rest := by
  have hprogram := program_of_readProgram htokens h (.refl source tokens)
  obtain rfl := Stmt.rest_eq_nil_of_readAllStatements (Stmt.read_progressive limit) h
  exact readProgram_of_program hprogram hneed

theorem stoppedAt_of_lt_needAll (h : readProgram tokens source limit = .ok program rest)
    {other : Nat} (hneed : other < Stmt.needAll program) :
    (readProgram tokens source other).StoppedAt other := by
  have hlimit : other ≤ limit := (Nat.le_of_lt hneed).trans (needAll_le_of_readProgram h)
  rcases readProgram_eq_or_stoppedAt hlimit with heq | hstopped
  · have hless := needAll_le_of_readProgram (heq.trans h)
    omega
  · exact hstopped

/-- A program that is read under some limit is read in the same way exactly under the limits that
its tree needs, and every smaller limit stops the reading; a chain of operators, whatever its
length, takes one level more than its deepest operand at most. -/
theorem readProgram_accepted_from_need (htokens : tokenize source = .ok tokens)
    (h : readProgram tokens source limit = .ok program rest) :
    (∀ other, Stmt.needAll program ≤ other →
      readProgram tokens source other = .ok program rest) ∧
    (∀ other < Stmt.needAll program, (readProgram tokens source other).StoppedAt other) ∧
    ∀ first operations, (Grammar.joinLeft first operations).need ≤
      deepest Expr.need (first :: operations.map Prod.snd) + 1 :=
  ⟨fun _ => readProgram_of_needAll_le htokens h, fun _ => stoppedAt_of_lt_needAll h,
    Expr.need_joinLeft_le⟩

/-- A struct literal to the right of a sign is read on the third level, and its field on the
fourth. -/
theorem readProgram_accepted_from_need_literal :
    let source : Text := "return 1-.\x7ba=2\x7d-3;".toList
    let token := fun (kind : Kind) (start : Nat) => (⟨kind, ⟨start, start + 1⟩, 1⟩ : Token)
    let tokens := [⟨.returnKeyword, ⟨0, 6⟩, 1⟩, token .number 7, token .dash 8, token .dot 9,
      token .openCurly 10, token .identifier 11, token .assignment 12, token .number 13,
      token .closeCurly 14, token .dash 15, token .number 16, token .semicolon 17]
    let literal := Expr.structLiteral (token .dot 9)
      [(token .identifier 11, .number 2 (token .number 13))]
    let program := [Stmt.returns (.binary (.binary (.number 1 (token .number 7)) .dash literal)
      .dash (.number 3 (token .number 16)))]
    tokenize source = .ok tokens ∧ readProgram tokens source 256 = .ok program [] ∧
      readProgram tokens source 4 = .ok program [] ∧
      (readProgram tokens source 3).StoppedAt 3 := by
  intro source token tokens literal program
  have htokens : tokenize source = .ok tokens := by decide +kernel
  have hread : readProgram tokens source 256 = .ok program [] := by decide +kernel
  have hneed : Stmt.needAll program = 4 := by decide +kernel
  obtain ⟨habove, hbelow, -⟩ := readProgram_accepted_from_need htokens hread
  exact ⟨htokens, hread, habove 4 (by rw [hneed]), hbelow 3 (by rw [hneed]; decide)⟩

end Accepted

end FrontEnd
