import FrontEnd.Proofs.Grammar.Comparison
import FrontEnd.Proofs.Grammar.Recognition

namespace FrontEnd

open Reading Grammar

/-- Trees that need no more levels than are left for them. -/
def TreeRelation.needing (tokens : Token → Token → Prop) (room : Nat) : TreeRelation tokens where
  inner tree _ := tree.need ≤ room
  outer tree _ := tree.need ≤ room + 1
  fields content _ := Expr.needFields content ≤ room
  innerStatement tree _ := tree.need ≤ room
  outerStatement tree _ := tree.need ≤ room + 1
  body content _ := Stmt.needAll content ≤ room
  number _ := by
    rw [Expr.need_number]
    exact Nat.le_add_left 1 room
  binary hleft hright := by
    rw [Expr.need_binary, Nat.add_comm]
    exact Nat.max_le_of_le_of_le hleft (Nat.succ_le_succ hright)
  structLiteral _ hfields := by
    rw [Expr.need_structLiteral, Nat.add_comm]
    exact Nat.succ_le_succ hfields
  fields_nil := Nat.zero_le room
  fields_cons _ hvalue hrest := Nat.max_le_of_le_of_le hvalue hrest
  declaration _ _ hvalue := by
    cases hvalue with
    | none => exact Nat.le_add_left 1 room
    | some hvalue =>
        rw [Stmt.need, Nat.add_comm]
        exact Nat.succ_le_succ hvalue
  fieldWrite _ _ hvalue := by
    rw [Stmt.need, Nat.add_comm]
    exact Nat.succ_le_succ hvalue
  structDefinition _ hbody := by
    rw [Stmt.need, Nat.add_comm]
    exact Nat.succ_le_succ hbody
  function _ _ hbody := by
    rw [Stmt.need, Nat.add_comm]
    exact Nat.succ_le_succ hbody
  returns hvalue := by
    rw [Stmt.need, Nat.add_comm]
    exact Nat.succ_le_succ hvalue
  outer_of_inner := Nat.le_succ_of_le
  body_nil := Nat.zero_le room
  body_cons htree hrest := Nat.max_le_of_le_of_le htree hrest

section Program

variable {source : Text} {tokens rest : List Token} {limit : Nat} {program : List Stmt}

theorem needAll_le_of_readProgram (h : readProgram tokens source limit = .ok program rest) :
    Stmt.needAll program ≤ limit := by
  let setting := Setting.ofTokens tokens source .standard limit
  let account := Account.progress setting tokens
  let trees := TreeRelation.needing account.correspondence.tokens
  have hstatement : account.correspondence.relates 1 (tokens.length + 1)
      (trees limit).innerStatement (Stmt.read limit) (Stmt.read limit) :=
    Stmt.read_accounted trees (fun _ _ _ => id) (fun _ _ _ => id)
      (.inr (Account.stops_progress setting tokens))
  have hprogram := Stmt.readAllStatements_relates _ (trees limit) hstatement.forget tokens
    List.suffix_rfl (Nat.lt_succ_self _)
  change Outcome.Alike _ (readProgram tokens source limit) (readProgram tokens source limit) ∧ _
    at hprogram
  rw [h] at hprogram
  obtain ⟨⟨hneed⟩, -⟩ := hprogram
  exact hneed

/-- The comparison of two readings of the same tokens under limits of which the first may stop its
reading sooner. -/
def Comparison.ofLimits (tokens : List Token) (source : Text) (limit other : Nat) : Comparison :=
  .ofTokens tokens tokens source source limit other True (fun token image => image = id token)
    (.inr trivial)
    (by
      rintro token _ rfl
      rfl)
    (by
      rintro token _ rfl
      rfl)

/-- The limit stopped the reading. -/
def Outcome.StoppedAt {α : Type} (outcome : Outcome α) (limit : Nat) : Prop :=
  ∃ line span rest, outcome = .error ⟨.nestingTooDeep limit, line, span⟩ rest

theorem readProgram_eq_or_stoppedAt {other : Nat} (hlimit : limit ≤ other) :
    readProgram tokens source limit = readProgram tokens source other ∨
      (readProgram tokens source limit).StoppedAt limit := by
  let comparison := Comparison.ofLimits tokens source limit other
  have hfollows : comparison.Follows (Stmt.RelatedAll comparison.relation)
      (readProgram tokens source limit) (readProgram tokens source other) :=
    Stmt.readAllStatements_simulates ⟨hlimit, .inr trivial⟩ tokens tokens
      (List.forall₂_same.mpr fun _ _ => rfl)
  have hsame : ∀ {rest left : List Token}, List.Forall₂ comparison.relation rest left →
      rest = left := by
    intro rest left hrest
    have heq : List.Forall₂ (· = ·) rest left := hrest.imp fun _ _ himage => himage.symm
    rwa [List.forall₂_eq_eq_eq] at heq
  generalize readProgram tokens source limit = outcome at hfollows ⊢
  generalize readProgram tokens source other = otherOutcome at hfollows ⊢
  cases hfollows with
  | ok hprogram hrest =>
      left
      rw [hprogram.eq_mapAll, Stmt.mapAll_id, hsame hrest]
  | error hplace hrest =>
      left
      rw [hsame hrest]
      cases hplace with
      | token hrelated =>
          cases hrelated
          rfl
      | ending => rfl
  | fault hrest =>
      left
      rw [hsame hrest]
  | stopped _ => exact .inr ⟨_, _, _, rfl⟩

theorem readProgram_of_le {other : Nat} (hlimit : limit ≤ other)
    (h : readProgram tokens source limit = .ok program rest) :
    readProgram tokens source other = .ok program rest := by
  rcases readProgram_eq_or_stoppedAt hlimit with heq | ⟨_, _, _, hstopped⟩
  · exact heq.symm.trans h
  · cases h.symm.trans hstopped

theorem program_of_readProgram (htokens : tokenize source = .ok tokens)
    (h : readProgram tokens source limit = .ok program rest) {other : Text}
    (halike : SpelledAlike source other tokens) : Program other tokens program := by
  have hread := readProgram_of_le (Nat.le_max_left limit (tokens.length + 1)) h
  have hexplains := readProgram_explains htokens
    (Nat.lt_of_succ_le (Nat.le_max_right limit (tokens.length + 1)))
  rw [hread] at hexplains
  obtain rfl := Stmt.rest_eq_nil_of_readAllStatements (Stmt.read_progressive _) hread
  cases hexplains with
  | accepted hsplit hprogram _ =>
      rw [List.append_nil] at hsplit
      subst hsplit
      exact hprogram other halike

end Program

end FrontEnd
