import FrontEnd.Proofs.Grammar.Account

/-!
Progress, and the loops of the grammar without their bounds. A loop that may go on for as many
rounds as there are tokens never runs out of rounds, because every round that ends well consumes a
token; so each loop satisfies the equation that it would have been defined by, had it no bound.
-/

namespace FrontEnd

open Reads

/-- Of the ways in which a reading ends, only how many tokens it consumes. -/
def Account.progress (setting : Setting) (tokens : List Token) : Account where
  setting := setting
  tokens := tokens
  problem _ := True
  fault := True
  refused _ _ _ := trivial
  missing _ := trivial
  unspelled _ _ := trivial

theorem Account.stops_progress (setting : Setting) (tokens : List Token) :
    (progress setting tokens).Stops where
  atToken _ := trivial
  atEnd := trivial

namespace Reading

variable {α β : Type} {reading : Reading α} {setting : Setting} {tokens : List Token}

/-- A reading that always leaves an end of the tokens it was given. -/
def Forward (reading : Reading α) : Prop :=
  ∀ setting tokens, (reading setting tokens).rest <:+ tokens

/-- A forward reading that consumes at least one token whenever it ends well. -/
structure Progressive (reading : Reading α) : Prop where
  forward : Forward reading
  progress : ∀ setting tokens value rest, reading setting tokens = .ok value rest →
    rest.length < tokens.length

theorem Forward.relates (h : Forward reading) (setting : Setting) (tokens : List Token)
    (bound : Nat) :
    (Account.progress setting tokens).correspondence.relates 0 bound Eq reading reading := by
  intro others _ _
  refine ⟨.refl _, ?_⟩
  have hrest := h setting others
  change Account.Ends _ 0 others (reading setting others)
  generalize reading setting others = outcome at hrest
  cases outcome with
  | ok value rest => exact .ok hrest hrest.length_le
  | error problem rest => exact .error hrest trivial
  | fault rest opened => exact .fault hrest trivial

theorem Progressive.relates (h : Progressive reading) (setting : Setting) (tokens : List Token)
    (bound : Nat) :
    (Account.progress setting tokens).correspondence.relates 1 bound Eq reading reading := by
  intro others hsuffix hbound
  obtain ⟨halike, hends⟩ := h.forward.relates setting tokens bound others hsuffix hbound
  refine ⟨halike, ?_⟩
  change Account.Ends _ 1 others (reading setting others)
  change Account.Ends _ 0 others (reading setting others) at hends
  have hprogress := h.progress setting others
  generalize reading setting others = outcome at hends hprogress
  cases hends with
  | ok hrest => exact .ok hrest (hprogress _ _ rfl)
  | error hrest => exact .error hrest trivial
  | fault hrest => exact .fault hrest trivial

theorem Progressive.of_relates {values : α → α → Prop}
    (h : ∀ setting tokens bound, (Account.progress setting tokens).correspondence.relates 1
      (bound + 1) values reading reading) : Progressive reading := by
  have hends : ∀ setting tokens,
      (Account.progress setting tokens).Ends 1 tokens (reading setting tokens) :=
    fun setting tokens =>
    (h setting tokens tokens.length tokens List.suffix_rfl (Nat.lt_succ_self _)).2
  refine ⟨fun setting tokens => (hends setting tokens).rest, ?_⟩
  intro setting tokens value rest hok
  have hconsumed := hends setting tokens
  rw [hok] at hconsumed
  cases hconsumed with
  | ok _ hlength => exact hlength

section Unbounded

variable {round : (α → Reading β) → α → Reading β} (loop : Nat → α → Reading β)

/-- A round of a loop over `α` that looks at what follows it only on fewer tokens. -/
def Contracts (round : (α → Reading β) → α → Reading β) : Prop :=
  ∀ setting tokens bound (more other : α → Reading β),
    (∀ value, (Account.progress setting tokens).correspondence.relates 0 bound Eq (more value)
      (other value)) →
    ∀ value, (Account.progress setting tokens).correspondence.relates 0 (bound + 1) Eq
      (round more value) (round other value)

variable (hround : Contracts round) (hsucc : ∀ bound, loop (bound + 1) = round (loop bound))
  (hzero : ∀ value setting, loop 0 value setting [] = round (loop 0) value setting [])

include hsucc hzero in
/-- A loop with enough rounds begins with a round, and has enough rounds for the rest. -/
private theorem exists_round {bound count : Nat} (value : α) (setting : Setting)
    (hcount : count ≤ bound) :
    ∃ left, count ≤ left + 1 ∧ ∀ tokens : List Token, tokens.length ≤ count →
      loop bound value setting tokens = round (loop left) value setting tokens := by
  cases bound with
  | zero =>
      refine ⟨0, Nat.le_succ_of_le hcount, fun tokens hlength => ?_⟩
      obtain rfl := List.length_eq_zero_iff.mp (Nat.le_zero.mp (Nat.le_trans hlength hcount))
      exact hzero value setting
  | succ bound => exact ⟨bound, hcount, fun _ _ => by rw [hsucc]⟩

include hround hsucc hzero

theorem loop_relates {bound other count : Nat} (value : α) (setting : Setting)
    (tokens : List Token) (hbound : count ≤ bound + 1) (hother : count ≤ other + 1) :
    (Account.progress setting tokens).correspondence.relates 0 count Eq (loop bound value)
      (loop other value) := by
  induction count generalizing bound other value with
  | zero => exact Account.Relates.zero _ _
  | succ count ih =>
      obtain ⟨left, hleft, heq⟩ :=
        exists_round loop hsucc hzero value setting (Nat.le_of_succ_le_succ hbound)
      obtain ⟨right, hright, hequal⟩ :=
        exists_round loop hsucc hzero value setting (Nat.le_of_succ_le_succ hother)
      intro others hsuffix hlength
      change (loop bound value setting others).Alike Eq (loop other value setting others) ∧
        Account.Ends _ 0 others (loop bound value setting others)
      rw [heq others (Nat.le_of_lt_succ hlength), hequal others (Nat.le_of_lt_succ hlength)]
      exact hround setting tokens count _ _ (fun value => ih value hleft hright) value others
        hsuffix hlength

theorem loop_bound {bound other : Nat} (value : α) (setting : Setting)
    (hbound : tokens.length ≤ bound) (hother : tokens.length ≤ other) :
    loop bound value setting tokens = loop other value setting tokens :=
  (loop_relates loop hround hsucc hzero value setting tokens (Nat.succ_le_succ hbound)
    (Nat.succ_le_succ hother) tokens List.suffix_rfl (Nat.lt_succ_self _)).1.eq

/-- A loop that is given as many rounds as there are tokens satisfies its equation. -/
theorem loop_remaining_eq (value : α) :
    (remaining >>= fun bound => loop bound value) =
      round (fun value => remaining >>= fun bound => loop bound value) value := by
  funext setting tokens
  obtain ⟨left, hleft, heq⟩ :=
    exists_round loop hsucc hzero value setting (Nat.le_refl tokens.length)
  rw [remaining_bind, heq tokens (Nat.le_refl _)]
  refine (hround setting tokens tokens.length _ _ (fun value => ?_) value tokens List.suffix_rfl
    (Nat.lt_succ_self _)).1.eq
  intro rest hsuffix hlength
  exact loop_relates loop hround hsucc hzero value setting tokens
    (by omega) (by omega) rest hsuffix (Nat.lt_succ_self _)

end Unbounded

end Reading

open Reading

namespace Expr

variable {value : Reading Expr} {expression : Power → Reading Expr}

theorem read_progressive (room : Nat) (power : Power) : Progressive (read room power) :=
  .of_relates fun setting tokens _ => read_accounted (fun _ => Account.trees _)
    (fun _ _ _ => id) (.inr (Account.stops_progress setting tokens)) power

theorem read_forward (room : Nat) (power : Power) : Forward (read room power) :=
  (read_progressive room power).forward

theorem fieldsRound_contracts (hvalue : Forward value) :
    Contracts fun more (_ : Unit) => fieldsRound value (more ()) :=
  fun setting tokens bound _ _ hmore _ => fieldsRound_relates _ (Account.trees _)
    (hvalue.relates setting tokens bound) (hmore ())

theorem readAllFields_eq (hvalue : Forward value) :
    readAllFields value = fieldsRound value (readAllFields value) :=
  loop_remaining_eq (fun bound _ => readFields value bound) (fieldsRound_contracts hvalue)
    (fun _ => rfl) (fun _ _ => rfl) ()

theorem readFields_of_length_le (hvalue : Forward value) {setting : Setting}
    {tokens : List Token} {bound : Nat} (hbound : tokens.length ≤ bound) :
    readFields value bound setting tokens = readAllFields value setting tokens :=
  loop_bound (fun bound _ => readFields value bound) (fieldsRound_contracts hvalue)
    (fun _ => rfl) (fun _ _ => rfl) () setting hbound (Nat.le_refl _)

theorem operatorsRound_contracts (hexpression : ∀ power, Forward (expression power))
    (power : Power) : Contracts (operatorsRound (readBinary expression) power) := by
  intro setting tokens bound more other hmore left
  refine operatorsRound_relates _ (Account.trees _) ?_ ?_ power rfl
  · rintro left _ operator rfl
    exact readBinary_relates _ _ rfl ((hexpression operator).relates setting tokens bound)
  · rintro left _ rfl
    exact hmore left

theorem readAllOperators_eq (hexpression : ∀ power, Forward (expression power)) (power : Power) :
    readAllOperators expression power =
      operatorsRound (readBinary expression) power (readAllOperators expression power) := by
  funext left
  exact loop_remaining_eq (readOperators expression power)
    (operatorsRound_contracts hexpression power) (fun _ => rfl) (fun _ _ => rfl) left

theorem readOperators_of_length_le (hexpression : ∀ power, Forward (expression power))
    (power : Power) (left : Expr) {setting : Setting} {tokens : List Token} {bound : Nat}
    (hbound : tokens.length ≤ bound) :
    readOperators expression power bound left setting tokens =
      readAllOperators expression power left setting tokens :=
  loop_bound (readOperators expression power) (operatorsRound_contracts hexpression power)
    (fun _ => rfl) (fun _ _ => rfl) left setting hbound (Nat.le_refl _)

end Expr

namespace Stmt

variable {statement : Reading Stmt}

theorem read_progressive (room : Nat) : Progressive (read room) :=
  .of_relates fun setting tokens _ => read_accounted (fun _ => Account.trees _)
    (fun _ _ _ => id) (fun _ _ _ => id) (.inr (Account.stops_progress setting tokens))

theorem readAllBlockStatements_eq (hstatement : Progressive statement) :
    readAllBlockStatements statement =
      blockRound statement (readAllBlockStatements statement) := by
  have hround : Contracts fun more (_ : Unit) => blockRound statement (more ()) :=
    fun setting tokens bound _ _ hmore _ => blockRound_relates _ (Account.trees _)
      (hstatement.relates setting tokens (bound + 1)) (hmore ())
  exact loop_remaining_eq (fun bound _ => readBlockStatements statement bound) hround
    (fun _ => rfl) (fun _ _ => rfl) ()

theorem blockRound_of_close {setting : Setting} {token : Token} {tokens : List Token}
    (more : Reading (List Stmt)) (h : token.kind = .closeCurly) :
    blockRound statement more setting (token :: tokens) = .ok [] (token :: tokens) := by
  rw [blockRound, currentOr_bind_cons, if_pos h, pure_apply]

theorem blockRound_of_ne {setting : Setting} {token : Token} {tokens : List Token}
    (more : Reading (List Stmt)) (h : token.kind ≠ .closeCurly) :
    blockRound statement more setting (token :: tokens) =
      (do return (← statement) :: (← more)) setting (token :: tokens) := by
  rw [blockRound, currentOr_bind_cons, if_neg h]

theorem readAllStatements_eq (hstatement : Progressive statement) :
    readAllStatements statement = programRound statement (readAllStatements statement) := by
  have hround : Contracts fun more (_ : Unit) => programRound statement (more ()) :=
    fun setting tokens bound _ _ hmore _ => programRound_relates _ (Account.trees _)
      (hstatement.relates setting tokens (bound + 1)) (hmore ())
  exact loop_remaining_eq (fun bound _ => readAll statement bound) hround (fun _ => rfl)
    (fun _ _ => rfl) ()

theorem rest_eq_nil_of_readAllStatements (hstatement : Progressive statement) {setting : Setting}
    {tokens rest : List Token} {program : List Stmt}
    (h : readAllStatements statement setting tokens = .ok program rest) : rest = [] := by
  induction hlength : tokens.length using Nat.strongRecOn generalizing tokens program with
  | ind length ih =>
      rw [readAllStatements_eq hstatement, programRound, kind?_bind] at h
      cases tokens with
      | nil =>
          cases h
          rfl
      | cons token tokens =>
          obtain ⟨tree, middle, htree, hmore⟩ := bind_eq_ok_iff.mp h
          obtain ⟨trees, last, htrees, hlast⟩ := bind_eq_ok_iff.mp hmore
          cases hlast
          have hprogress := hstatement.progress _ _ _ _ htree
          exact ih _ (by omega) htrees rfl

end Stmt

end FrontEnd
