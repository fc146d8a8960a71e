import FrontEnd.Proofs.Grammar.Loops
import FrontEnd.Proofs.Grammar.Need

namespace FrontEnd

open Reads Reading Grammar

variable {setting : Setting}

/-- Tokens that do not continue an expression. -/
def EndsExpression (rest : List Token) : Prop :=
  ∀ token ∈ rest.head?, token.kind ≠ .plus ∧ token.kind ≠ .dash

theorem EndsExpression.of_kind {token : Token} {rest : List Token} {kind : Kind}
    (h : token.kind = kind) (hkind : kind ≠ .plus ∧ kind ≠ .dash) :
    EndsExpression (token :: rest) := by
  intro other hother
  cases hother
  rwa [h]

namespace Expr

variable {value : Reading Expr} {expression : Power → Reading Expr}

theorem readNumber_of_numeral {token : Token} {lexeme : Text} (hkind : token.kind = .number)
    (hlexeme : token.lexeme? setting.source = some lexeme) (hnumeral : Scan.IsNumeral lexeme)
    (hfits : decimal lexeme ≤ 2 ^ 31 - 1) (rest : List Token) :
    (readNumber : Reading Expr) setting (token :: rest) =
      .ok (.number (decimal lexeme) token) rest := by
  simp only [readNumber, expect_bind_cons hkind, lexeme_bind hlexeme,
    int32?_of_isNumeral hnumeral, if_pos hfits, pure_apply]

/-- A reading of expressions that accepts every expression that needs no more levels than given. -/
def Accepts (setting : Setting) (room : Nat) (value : Reading Expr) : Prop :=
  ∀ tokens tree rest, Expression setting.source tokens tree → tree.need ≤ room →
    EndsExpression rest → value setting (tokens ++ rest) = .ok tree rest

theorem readAllFields_of_fields {room : Nat} (hforward : Forward value)
    (hvalue : Accepts setting room value) {inside : List Token} {fields : List (Token × Expr)}
    (h : Fields (Expression setting.source) inside fields) (hneed : needFields fields ≤ room)
    {closing : Token} (hclosing : closing.kind = .closeCurly) (rest : List Token) :
    readAllFields value setting (inside ++ closing :: rest) = .ok fields (closing :: rest) := by
  induction fields generalizing inside with
  | nil =>
      cases h
      rw [readAllFields_eq hforward]
      simp [fieldsRound, hclosing]
  | cons field fields ih =>
      obtain ⟨first, others, rfl, hfield, hothers⟩ := h.uncons
      rw [needFields] at hneed
      cases hfield with
      | @mk name equals tokens tree hname hequals htree =>
          have hends : EndsExpression (others ++ closing :: rest) := by
            rcases hothers with ⟨rfl, -⟩ | ⟨comma, more, rfl, hcomma, -⟩
            · exact .of_kind hclosing (by decide)
            · exact .of_kind hcomma (by decide)
          have htreeNeed : tree.need ≤ room := le_of_max_le_left hneed
          have hread := hvalue tokens tree _ htree htreeNeed hends
          rw [readAllFields_eq hforward]
          simp only [fieldsRound, List.cons_append, List.append_assoc, kind?_bind,
            List.head?_cons, Option.map_some, hname, reduceCtorEq, Option.some.injEq, if_false,
            expect_bind_cons hname, expect_bind_cons hequals, bind_of_ok hread]
          rcases hothers with ⟨rfl, rfl⟩ | ⟨comma, more, rfl, hcomma, hmore⟩
          · simp [afterField, hclosing]
          · have hrest := ih hmore (le_of_max_le_right hneed)
            simp [afterField, hcomma, bind_of_ok hrest]

theorem readStructLiteral_of_fields {room : Nat} (hforward : Forward value)
    (hvalue : Accepts setting room value) {dot opening closing : Token} {inside : List Token}
    {fields : List (Token × Expr)} (hdot : dot.kind = .dot) (hopening : opening.kind = .openCurly)
    (h : Fields (Expression setting.source) inside fields) (hneed : needFields fields ≤ room)
    (hclosing : closing.kind = .closeCurly) (rest : List Token) :
    readStructLiteral (readAllFields value) setting
        (dot :: opening :: (inside ++ closing :: rest)) =
      .ok (.structLiteral dot fields) rest := by
  have hfields := readAllFields_of_fields hforward hvalue h hneed hclosing rest
  simp only [readStructLiteral, expect_bind_cons hdot, expect_bind_cons hopening,
    bind_of_ok hfields, expect_bind_cons hclosing, pure_apply]

theorem readInside_of_atom {room : Nat} (hrules : setting.rules = .standard)
    (hforward : ∀ power, Forward (expression power))
    (hvalue : Accepts setting room (expression .lowest)) {tokens : List Token} {operand : Expr}
    (h : Atom setting.source tokens operand) (hneed : operand.need ≤ room + 1) (power : Power)
    (rest : List Token) :
    readInside expression power setting (tokens ++ rest) =
      readAllOperators expression power operand setting rest := by
  cases h with
  | @number token lexeme hkind hlexeme hnumeral hfits =>
      have hrule : setting.rules.operand token.kind = some .number := by rw [hrules, hkind]; rfl
      have hread := readNumber_of_numeral hkind hlexeme hnumeral hfits rest
      simp only [readInside, readChain, List.cons_append, List.nil_append, currentOr_bind_cons,
        rules_bind, hrule, readOperand, bind_of_ok hread]
  | @structLiteral dot opening closing inside fields hdot hopening hfields hclosing =>
      have hrule : setting.rules.operand dot.kind = some .structLiteral := by rw [hrules, hdot]; rfl
      rw [need_structLiteral] at hneed
      have hread := readStructLiteral_of_fields (hforward .lowest) hvalue hdot hopening hfields
        (by omega) hclosing rest
      simp only [readInside, readChain, List.cons_append, List.append_assoc, List.nil_append,
        currentOr_bind_cons, rules_bind, hrule, readOperand, bind_of_ok hread]

theorem operatorAbove?_bind {β : Type} (power : Power) (next : Option Power → Reading β)
    (tokens : List Token) :
    (operatorAbove? power >>= next) setting tokens =
      next ((tokens.head?.bind fun token => setting.rules.operator token.kind).filter power.below)
        setting tokens := by
  cases tokens <;> rfl

theorem standard_operator (kind : Kind) :
    Rules.standard.operator kind =
      if kind = .plus ∨ kind = .dash then some .additive else none := by
  cases kind <;> rfl

/-- No operator binds more tightly than an additive one. -/
theorem readAllOperators_additive (hrules : setting.rules = .standard)
    (hforward : ∀ power, Forward (expression power)) (left : Expr) (tokens : List Token) :
    readAllOperators expression .additive left setting tokens = .ok left tokens := by
  have hnone : (tokens.head?.bind fun token => setting.rules.operator token.kind).filter
      Power.additive.below = none := by
    rw [hrules, Option.filter_eq_none_iff]
    intro power hpower
    obtain ⟨token, -, hoperator⟩ := Option.bind_eq_some_iff.mp hpower
    rw [standard_operator] at hoperator
    split at hoperator
    · cases hoperator
      decide
    · cases hoperator
  rw [readAllOperators_eq hforward]
  simp only [operatorsRound, operatorAbove?_bind, hnone, pure_apply]

theorem readAllOperators_of_ends (hrules : setting.rules = .standard)
    (hforward : ∀ power, Forward (expression power)) (left : Expr) (power : Power)
    {rest : List Token} (hends : EndsExpression rest) :
    readAllOperators expression power left setting rest = .ok left rest := by
  have hnone : (rest.head?.bind fun token => setting.rules.operator token.kind).filter
      power.below = none := by
    cases rest with
    | nil => rfl
    | cons token rest =>
        have hkind := hends token rfl
        rw [hrules, List.head?_cons, Option.bind_some, standard_operator, if_neg (not_or.mpr hkind)]
        rfl
  rw [readAllOperators_eq hforward]
  simp only [operatorsRound, operatorAbove?_bind, hnone, pure_apply]

theorem readAllOperators_of_sign (hrules : setting.rules = .standard)
    (hforward : ∀ power, Forward (expression power)) (left : Expr) {sign : Token}
    (hsign : sign.kind = .plus ∨ sign.kind = .dash) (tokens : List Token) :
    readAllOperators expression .lowest left setting (sign :: tokens) =
      (do
        let right ← expression .additive
        readAllOperators expression .lowest (.binary left sign.kind right)) setting tokens := by
  have hsome : (((sign :: tokens).head?.bind fun token => setting.rules.operator token.kind).filter
      Power.lowest.below) = some .additive := by
    rw [hrules, List.head?_cons, Option.bind_some, standard_operator, if_pos hsign]
    rfl
  conv => lhs; rw [readAllOperators_eq hforward]
  simp only [operatorsRound, operatorAbove?_bind, hsome, readBinary, bind_assoc,
    advanceOr_bind_cons]
  rfl

/-- A reading of operands that accepts every operand that needs no more levels than given. -/
def AcceptsAtoms (setting : Setting) (room : Nat) (value : Reading Expr) : Prop :=
  ∀ tokens operand rest, Atom setting.source tokens operand → operand.need ≤ room →
    value setting (tokens ++ rest) = .ok operand rest

theorem acceptsAtoms_read {room : Nat} (hrules : setting.rules = .standard)
    (hvalue : Accepts setting room (read room .lowest)) :
    AcceptsAtoms setting (room + 1) (read (room + 1) .additive) := by
  intro tokens operand rest h hneed
  apply inLevel_of_ok
  rw [readInside_of_atom hrules (read_forward room) hvalue h hneed,
    readAllOperators_additive hrules (read_forward room)]

theorem readAllOperators_of_operations {room : Nat} (hrules : setting.rules = .standard)
    (hatoms : AcceptsAtoms setting room (read room .additive)) {tokens rest : List Token}
    {operations : List (Kind × Expr)}
    (h : Repeated (Operation (Atom setting.source)) tokens operations) {left : Expr}
    (hneed : (joinLeft left operations).need ≤ room + 1) (hends : EndsExpression rest) :
    readAllOperators (read room) .lowest left setting (tokens ++ rest) =
      .ok (joinLeft left operations) rest := by
  induction h generalizing left with
  | nil => exact readAllOperators_of_ends hrules (read_forward room) left .lowest hends
  | @cons first others operation operations hfirst hothers ih =>
      cases hfirst with
      | @mk sign tokens operand hsign hoperand =>
          have hright : operand.need ≤ room := by
            have hoperandNeed : 1 + operand.need ≤ room + 1 := by
              rw [need_joinLeft, deepest] at hneed
              exact le_of_max_le_left (le_of_max_le_right hneed)
            omega
          have hread := hatoms tokens operand (others ++ rest) hoperand hright
          rw [List.cons_append, List.cons_append, List.append_assoc,
            readAllOperators_of_sign hrules (read_forward room) left hsign, bind_of_ok hread]
          exact ih hneed

theorem need_pos (tree : Expr) : 0 < tree.need := by
  cases tree <;> simp

theorem accepts_read (hrules : setting.rules = .standard) (room : Nat) :
    Accepts setting room (read room .lowest) ∧
      AcceptsAtoms setting room (read room .additive) := by
  -- An expression calls for operands one level further in, and an operand for expressions, so
  -- the two powers are carried through the induction together.
  induction room with
  | zero =>
      constructor
      · intro tokens tree rest _ hneed
        exact absurd hneed (Nat.not_le.mpr tree.need_pos)
      · intro tokens operand rest _ hneed
        exact absurd hneed (Nat.not_le.mpr operand.need_pos)
  | succ room ih =>
      refine ⟨?_, acceptsAtoms_read hrules ih.1⟩
      intro tokens tree rest h hneed hends
      cases h with
      | @chain first others operand operations hatom hoperations =>
          have hfirst : operand.need ≤ room + 1 := by
            rw [need_joinLeft] at hneed
            exact le_of_max_le_left hneed
          apply inLevel_of_ok
          rw [List.append_assoc,
            readInside_of_atom hrules (read_forward room) ih.1 hatom hfirst]
          exact readAllOperators_of_operations hrules ih.2 hoperations hneed hends

end Expr

namespace Ascription

theorem read_of_written {tokens : List Token} {ascription : Ascription}
    (h : WrittenType setting.source tokens ascription) (rest : List Token) :
    (read : Reading Ascription) setting (tokens ++ rest) = .ok ascription rest := by
  cases h with
  | primitive hkind hlexeme =>
      simp [read, hkind, lexeme_bind hlexeme, Primitive.ofName?]
  | named hkind hlexeme hother =>
      simp only [read, List.cons_append, List.nil_append, currentOr_bind_cons, hkind, skip_bind,
        List.tail_cons, lexeme_bind hlexeme, Primitive.ofName?, if_neg hother, pure_apply]

theorem readDeclared_of_declared {tokens : List Token} {ascription : Ascription}
    (h : DeclaredType setting.source tokens ascription) {next : Token} {rest : List Token}
    (hnext : next.kind = .assignment ∨ next.kind = .semicolon) :
    (readDeclared : Reading Ascription) setting (tokens ++ next :: rest) =
      .ok ascription (next :: rest) := by
  cases h with
  | elided => rcases hnext with hnext | hnext <;> simp [readDeclared, hnext]
  | written h =>
      have hread := read_of_written h (next :: rest)
      have hdeclared : (readDeclared : Reading Ascription) setting (tokens ++ next :: rest) =
          (read : Reading Ascription) setting (tokens ++ next :: rest) := by
        cases h with
        | primitive hkind | named hkind => simp [readDeclared, hkind]
      rw [hdeclared, hread]

end Ascription

namespace Stmt

variable {statement : Reading Stmt} {expression : Reading Expr} {room : Nat}

/-- A reading of statements that accepts every statement that needs no more levels than given. -/
def Accepts (setting : Setting) (room : Nat) (statement : Reading Stmt) : Prop :=
  ∀ tokens tree rest, Statement setting.source tokens tree → tree.need ≤ room →
    statement setting (tokens ++ rest) = .ok tree rest

theorem exists_cons_of_statement {source : Text} {tokens : List Token} {tree : Stmt}
    (h : Statement source tokens tree) :
    ∃ first rest, tokens = first :: rest ∧ first.kind ≠ .closeCurly := by
  cases h with
  | returns hkeyword => exact ⟨_, _, rfl, by simp [hkeyword]⟩
  | declaration hname | structDefinition hname | function hname | fieldWrite hname =>
      exact ⟨_, _, rfl, by rcases hname with hname | hname <;> simp [hname]⟩

theorem readAllBlockStatements_of_repeated (hstatement : Progressive statement)
    (haccepts : Accepts setting room statement) {tokens : List Token} {body : List Stmt}
    (h : Repeated (Statement setting.source) tokens body) (hneed : needAll body ≤ room)
    {closing : Token} (hclosing : closing.kind = .closeCurly) (rest : List Token) :
    readAllBlockStatements statement setting (tokens ++ closing :: rest) =
      .ok body (closing :: rest) := by
  induction h with
  | nil =>
      rw [readAllBlockStatements_eq hstatement]
      exact blockRound_of_close _ hclosing
  | @cons tokens others tree body hfirst hothers ih =>
      rw [needAll] at hneed
      have hread := haccepts tokens tree (others ++ closing :: rest) hfirst
        (le_of_max_le_left hneed)
      have hbody := ih (le_of_max_le_right hneed)
      obtain ⟨first, tail, rfl, hkind⟩ := exists_cons_of_statement hfirst
      rw [readAllBlockStatements_eq hstatement, List.append_assoc, List.cons_append,
        blockRound_of_ne _ hkind, ← List.cons_append, bind_of_ok hread, bind_of_ok hbody,
        pure_apply]

theorem readBlock_of_repeated (hstatement : Progressive statement)
    (haccepts : Accepts setting room statement) {tokens : List Token} {body : List Stmt}
    (h : Repeated (Statement setting.source) tokens body) (hneed : needAll body ≤ room)
    {closing : Token} (hclosing : closing.kind = .closeCurly) (rest : List Token) :
    readBlock (readAllBlockStatements statement) setting (tokens ++ closing :: rest) =
      .ok body rest := by
  have hbody := readAllBlockStatements_of_repeated hstatement haccepts h hneed hclosing rest
  rw [readBlock, bind_of_ok hbody, expect_bind_cons hclosing, pure_apply]

theorem readInitial_of_initial (hexpression : Expr.Accepts setting room expression)
    {tokens : List Token} {value : Option Expr} (h : Initial setting.source tokens value)
    (hneed : ∀ content ∈ value, content.need ≤ room) {stop : Token}
    (hstop : stop.kind = .semicolon) (rest : List Token) :
    readInitial expression setting (tokens ++ stop :: rest) = .ok value rest := by
  cases h with
  | none => simp [readInitial, hstop]
  | @some equals tokens content hequals hcontent =>
      have hread := hexpression tokens content (stop :: rest) hcontent (hneed content rfl)
        (.of_kind hstop (by decide))
      simp [readInitial, hequals, bind_of_ok hread, expect_bind_cons hstop]

theorem readReceiver_of_receives {tokens : List Token} {receiver : Option Receiver}
    (h : Receives tokens receiver) {closeParen : Token}
    (hclose : closeParen.kind = .closeParen) (rest : List Token) :
    (readReceiver : Reading (Option Receiver)) setting (tokens ++ closeParen :: rest) =
      .ok receiver (closeParen :: rest) := by
  cases h with
  | none => simp [readReceiver, hclose]
  | value hkind => simp [readReceiver, hkind]
  | pointer hstar hkind => simp [readReceiver, hstar, expect_bind_cons hkind]

theorem closeParameters_of_close {closeParen : Token} (h : closeParen.kind = .closeParen)
    (rest : List Token) :
    (closeParameters : Reading Unit) setting (closeParen :: rest) = .ok () rest := by
  simp [closeParameters, h, expect_bind_cons h]

theorem readResult_of_result {tokens : List Token} {result : Option Ascription}
    (h : Result setting.source tokens result) {opening : Token}
    (hopening : opening.kind = .openCurly) (rest : List Token) :
    (readResult : Reading (Option Ascription)) setting (tokens ++ opening :: rest) =
      .ok result (opening :: rest) := by
  cases h with
  | none => simp [readResult, hopening]
  | some harrow hwritten =>
      have hread := Ascription.read_of_written hwritten (opening :: rest)
      simp [readResult, harrow, bind_of_ok hread]

theorem readReturn_of_expression (hexpression : Expr.Accepts setting room expression)
    {keyword stop : Token} {tokens : List Token} {value : Expr}
    (hkeyword : keyword.kind = .returnKeyword) (hvalue : Expression setting.source tokens value)
    (hneed : value.need ≤ room) (hstop : stop.kind = .semicolon) (rest : List Token) :
    readReturn expression setting (keyword :: (tokens ++ stop :: rest)) =
      .ok (.returns value) rest := by
  have hread := hexpression tokens value (stop :: rest) hvalue hneed (.of_kind hstop (by decide))
  simp only [readReturn, expect_bind_cons hkeyword, bind_of_ok hread, expect_bind_cons hstop,
    pure_apply]

theorem readDeclaration_of_initial (hexpression : Expr.Accepts setting room expression)
    {name colon stop : Token} {type initial : List Token} {ascription : Ascription}
    {value : Option Expr} (hcolon : colon.kind = .colon)
    (htype : DeclaredType setting.source type ascription)
    (hinitial : Initial setting.source initial value)
    (hneed : ∀ content ∈ value, content.need ≤ room) (hstop : stop.kind = .semicolon)
    (rest : List Token) :
    readDeclaration expression setting (name :: colon :: (type ++ (initial ++ stop :: rest))) =
      .ok (.declaration name ascription value) rest := by
  have hvalue := readInitial_of_initial hexpression hinitial hneed hstop rest
  have htypeRead : (Ascription.readDeclared : Reading Ascription) setting
        (type ++ (initial ++ stop :: rest)) =
      .ok ascription (initial ++ stop :: rest) := by
    cases hinitial with
    | none => exact Ascription.readDeclared_of_declared htype (.inr hstop)
    | some hequals _ => exact Ascription.readDeclared_of_declared htype (.inl hequals)
  simp only [readDeclaration, advanceOr_bind_cons, expect_bind_cons hcolon,
    bind_of_ok htypeRead, bind_of_ok hvalue, pure_apply]

theorem readDefinition_of_struct (hstatement : Progressive statement)
    (haccepts : Accepts setting room statement) {name colons keyword opening closing : Token}
    {inside : List Token} {body : List Stmt} (hcolons : colons.kind = .colonColon)
    (hkeyword : keyword.kind = .structKeyword) (hopening : opening.kind = .openCurly)
    (hbody : Repeated (Statement setting.source) inside body) (hneed : needAll body ≤ room)
    (hclosing : closing.kind = .closeCurly) (rest : List Token) :
    readDefinition (readBlock (readAllBlockStatements statement)) setting
        (name :: colons :: keyword :: opening :: (inside ++ closing :: rest)) =
      .ok (.structDefinition name body) rest := by
  have hblock := readBlock_of_repeated hstatement haccepts hbody hneed hclosing rest
  simp only [readDefinition, advanceOr_bind_cons, expect_bind_cons hcolons, currentOr_bind_cons,
    hkeyword, skip_bind, List.tail_cons, expect_bind_cons hopening, bind_of_ok hblock, pure_apply]

theorem readDefinition_of_function (hstatement : Progressive statement)
    (haccepts : Accepts setting room statement)
    {name colons openParen closeParen opening closing : Token}
    {parameters output inside : List Token} {receiver : Option Receiver}
    {result : Option Ascription} {body : List Stmt} (hcolons : colons.kind = .colonColon)
    (hopen : openParen.kind = .openParen) (hreceives : Receives parameters receiver)
    (hclose : closeParen.kind = .closeParen) (hresult : Result setting.source output result)
    (hopening : opening.kind = .openCurly)
    (hbody : Repeated (Statement setting.source) inside body) (hneed : needAll body ≤ room)
    (hclosing : closing.kind = .closeCurly) (rest : List Token) :
    readDefinition (readBlock (readAllBlockStatements statement)) setting
        (name :: colons :: openParen ::
          (parameters ++ closeParen :: (output ++ opening :: (inside ++ closing :: rest)))) =
      .ok (.function name receiver result body) rest := by
  have hreceiver := @readReceiver_of_receives setting _ _ hreceives _ hclose
    (output ++ opening :: (inside ++ closing :: rest))
  have houtput := readResult_of_result hresult hopening (inside ++ closing :: rest)
  have hblock := readBlock_of_repeated hstatement haccepts hbody hneed hclosing rest
  simp only [readDefinition, advanceOr_bind_cons, expect_bind_cons hcolons, currentOr_bind_cons,
    hopen, skip_bind, List.tail_cons, bind_of_ok hreceiver,
    bind_of_ok (closeParameters_of_close hclose _), bind_of_ok houtput,
    expect_bind_cons hopening, bind_of_ok hblock, pure_apply]

theorem readFieldWrite_of_expression (hexpression : Expr.Accepts setting room expression)
    {receiver dot field operator stop : Token} {tokens : List Token} {value : Expr}
    (hdot : dot.kind = .dot) (hfield : field.kind = .identifier)
    (hoperator : operator.kind ∈ [.assignment, .plusEquals, .minusEquals])
    (hvalue : Expression setting.source tokens value) (hneed : value.need ≤ room)
    (hstop : stop.kind = .semicolon) (rest : List Token) :
    readFieldWrite expression setting
        (receiver :: dot :: field :: operator :: (tokens ++ stop :: rest)) =
      .ok (.fieldWrite receiver field operator.kind value) rest := by
  have hread := hexpression tokens value (stop :: rest) hvalue hneed (.of_kind hstop (by decide))
  obtain ⟨hassigns, hnotColons, hnotParen⟩ : operator.kind.isAssignment ∧
      operator.kind ≠ .colonColon ∧ operator.kind ≠ .openParen := by
    simp only [List.mem_cons, List.not_mem_nil, or_false] at hoperator
    rcases hoperator with h | h | h <;> rw [h] <;> decide
  simp only [readFieldWrite, advanceOr_bind_cons, expect_bind_cons hdot, expect_bind_cons hfield,
    currentOr_bind_cons, if_neg hnotColons, if_neg hnotParen, if_pos hassigns, skip_bind,
    List.tail_cons, bind_of_ok hread, expect_bind_cons hstop, pure_apply]

theorem readNamed_of_colon {block : Reading (List Stmt)} {name colon : Token} {tokens : List Token}
    (hcolon : colon.kind = .colon) :
    readNamed block expression setting (name :: colon :: tokens) =
      readDeclaration expression setting (name :: colon :: tokens) := by
  simp [readNamed, hcolon]

theorem readNamed_of_colonColon {block : Reading (List Stmt)} {name colons : Token}
    {tokens : List Token} (hcolons : colons.kind = .colonColon) :
    readNamed block expression setting (name :: colons :: tokens) =
      readDefinition block setting (name :: colons :: tokens) := by
  simp [readNamed, hcolons]

theorem readNamed_of_dot {block : Reading (List Stmt)} {name dot : Token} {tokens : List Token}
    (hdot : dot.kind = .dot) :
    readNamed block expression setting (name :: dot :: tokens) =
      readFieldWrite expression setting (name :: dot :: tokens) := by
  simp [readNamed, hdot]

theorem readInside_of_returnKeyword (hrules : setting.rules = .standard) {keyword : Token}
    (hkeyword : keyword.kind = .returnKeyword) (tokens : List Token) :
    readInside statement expression setting (keyword :: tokens) =
      readReturn expression setting (keyword :: tokens) := by
  have hrule : setting.rules.statement keyword.kind = some .returns := by
    rw [hrules, hkeyword]
    rfl
  simp only [readInside, readByTable, currentOr_bind_cons, rules_bind, hrule, readBy]

theorem readInside_of_name (hrules : setting.rules = .standard) {name : Token}
    (hname : IsName name) (tokens : List Token) :
    readInside statement expression setting (name :: tokens) =
      readNamed (readBlock (readAllBlockStatements statement)) expression setting
        (name :: tokens) := by
  have hrule : setting.rules.statement name.kind = some .named := by
    rcases hname with hname | hname <;> rw [hrules, hname] <;> rfl
  simp only [readInside, readByTable, currentOr_bind_cons, rules_bind, hrule, readBy]

theorem readInside_of_statement (hrules : setting.rules = .standard)
    (hstatement : Progressive statement) (haccepts : Accepts setting room statement)
    (hexpression : Expr.Accepts setting room expression) {tokens : List Token} {tree : Stmt}
    (h : Statement setting.source tokens tree) (hneed : tree.need ≤ room + 1)
    (rest : List Token) :
    readInside statement expression setting (tokens ++ rest) = .ok tree rest := by
  cases h with
  | returns hkeyword hvalue hstop =>
      rw [need] at hneed
      simp only [List.cons_append, List.append_assoc, List.nil_append]
      rw [readInside_of_returnKeyword hrules hkeyword]
      exact readReturn_of_expression hexpression hkeyword hvalue (by omega) hstop rest
  | @declaration _ _ _ _ _ _ value hname hcolon htype hinitial hstop =>
      have hvalueNeed : ∀ content ∈ value, content.need ≤ room := by
        rintro content ⟨⟩
        rw [need] at hneed
        omega
      simp only [List.cons_append, List.append_assoc, List.nil_append]
      rw [readInside_of_name hrules hname, readNamed_of_colon hcolon]
      exact readDeclaration_of_initial hexpression hcolon htype hinitial hvalueNeed hstop rest
  | structDefinition hname hcolons hkeyword hopening hbody hclosing =>
      rw [need] at hneed
      simp only [List.cons_append, List.append_assoc, List.nil_append]
      rw [readInside_of_name hrules hname, readNamed_of_colonColon hcolons]
      exact readDefinition_of_struct hstatement haccepts hcolons hkeyword hopening hbody
        (by omega) hclosing rest
  | function hname hcolons hopen hreceives hclose hresult hopening hbody hclosing =>
      rw [need] at hneed
      simp only [List.cons_append, List.append_assoc, List.nil_append]
      rw [readInside_of_name hrules hname, readNamed_of_colonColon hcolons]
      exact readDefinition_of_function hstatement haccepts hcolons hopen hreceives hclose hresult
        hopening hbody (by omega) hclosing rest
  | fieldWrite hname hdot hfield hoperator hvalue hstop =>
      rw [need] at hneed
      simp only [List.cons_append, List.append_assoc, List.nil_append]
      rw [readInside_of_name hrules hname, readNamed_of_dot hdot]
      exact readFieldWrite_of_expression hexpression hdot hfield hoperator hvalue (by omega) hstop
        rest

theorem need_pos (tree : Stmt) : 0 < tree.need := by
  cases tree with
  | declaration name ascription value =>
      cases value <;> rw [need] <;> omega
  | _ => rw [need]; omega

theorem accepts_read (hrules : setting.rules = .standard) (room : Nat) :
    Accepts setting room (read room) := by
  induction room with
  | zero =>
      intro tokens tree rest _ hneed
      exact absurd hneed (Nat.not_le.mpr tree.need_pos)
  | succ room ih =>
      intro tokens tree rest h hneed
      apply inLevel_of_ok
      exact readInside_of_statement hrules (read_progressive room) ih
        (Expr.accepts_read hrules room).1 h hneed rest

theorem readAllStatements_of_ok (hstatement : Progressive statement) {first : Token}
    {tokens rest : List Token} {tree : Stmt}
    (hread : statement setting (first :: tokens) = .ok tree rest) :
    readAllStatements statement setting (first :: tokens) =
      (readAllStatements statement setting rest).map (tree :: ·) := by
  conv => lhs; rw [readAllStatements_eq hstatement]
  simp only [programRound, kind?_bind, List.head?_cons, Option.map_some]
  rw [bind_of_ok hread, bind_pure]

theorem readAllStatements_append (hstatement : Progressive statement)
    (haccepts : Accepts setting room statement) {tokens : List Token} {program : List Stmt}
    (h : Program setting.source tokens program) (hneed : needAll program ≤ room)
    (rest : List Token) :
    readAllStatements statement setting (tokens ++ rest) =
      (readAllStatements statement setting rest).map (program ++ ·) := by
  induction h with
  | nil =>
      rw [List.nil_append]
      cases readAllStatements statement setting rest <;> rfl
  | @cons tokens others tree program hfirst hothers ih =>
      rw [needAll] at hneed
      have hread := haccepts tokens tree (others ++ rest) hfirst (le_of_max_le_left hneed)
      obtain ⟨first, tail, rfl, -⟩ := exists_cons_of_statement hfirst
      rw [List.cons_append] at hread
      rw [List.append_assoc, List.cons_append, readAllStatements_of_ok hstatement hread,
        ih (le_of_max_le_right hneed)]
      cases readAllStatements statement setting rest <;> rfl

end Stmt

theorem readProgram_of_program {source : Text} {tokens : List Token} {program : List Stmt}
    {limit : Nat} (h : Program source tokens program) (hneed : Stmt.needAll program ≤ limit) :
    readProgram tokens source limit = .ok program [] := by
  have hread := Stmt.readAllStatements_append (Stmt.read_progressive limit)
    (@Stmt.accepts_read (Setting.ofTokens tokens source .standard limit) rfl limit) h hneed []
  rw [List.append_nil] at hread
  calc
    readProgram tokens source limit = .ok (program ++ []) [] := hread
    _ = .ok program [] := by rw [List.append_nil]

end FrontEnd
