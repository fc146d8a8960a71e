import FrontEnd.Proofs.Grammar.Classification
import FrontEnd.Proofs.Grammar.Threshold

namespace FrontEnd

open Reads Reading Site

variable {setting : Setting}

section Contexts

variable {kinds : List Kind}

def After (kind : Kind) (earlier : List Kind → Prop) (kinds : List Kind) : Prop :=
  ∃ rest, kinds = kind :: rest ∧ earlier rest

/-- Kinds after which a statement may begin. -/
inductive BeforeStatement : List Kind → Prop
  | start : BeforeStatement []
  | semicolon {kinds : List Kind} : BeforeStatement (.semicolon :: kinds)
  | openCurly {kinds : List Kind} : BeforeStatement (.openCurly :: kinds)
  | closeCurly {kinds : List Kind} : BeforeStatement (.closeCurly :: kinds)

inductive AfterValue : List Kind → Prop
  | number {kinds : List Kind} : AfterValue (.number :: kinds)
  | closeCurly {kinds : List Kind} : AfterValue (.closeCurly :: kinds)

inductive AfterName : List Kind → Prop
  | identifier {kinds : List Kind} : BeforeStatement kinds → AfterName (.identifier :: kinds)
  | selfKeyword {kinds : List Kind} : BeforeStatement kinds → AfterName (.selfKeyword :: kinds)

/-- Kinds after which a field of a struct literal may begin. -/
inductive BeforeField : List Kind → Prop
  | openCurly {kinds : List Kind} : BeforeField (.openCurly :: kinds)
  | comma {kinds : List Kind} : BeforeField (.comma :: kinds)

theorem BeforeStatement.elsewhere (h : BeforeStatement kinds) : Elsewhere kinds := by
  cases h <;> rfl

theorem AfterValue.elsewhere (h : AfterValue kinds) : Elsewhere kinds := by
  cases h <;> rfl

theorem BeforeField.elsewhere (h : BeforeField kinds) : Elsewhere kinds := by
  cases h <;> rfl

theorem AfterName.elsewhere (h : AfterName kinds) : Elsewhere kinds := by
  rcases h with h | h
  · cases h <;> rfl
  · cases h <;> rfl

theorem elsewhere_of_after_type (h : After .identifier (At .type) kinds) :
    Elsewhere kinds := by
  obtain ⟨rest, rfl, htype⟩ := h
  cases rest with
  | nil => rfl
  | cons kind rest =>
      cases kind
      case dot => cases htype
      all_goals rfl

/-- Every kind that begins a value, or that would begin one, has a rule of its own. -/
theorem unclaimed_of_operand_eq_none {kind : Kind} (hkinds : At .value kinds)
    (h : Rules.standard.operand kind = none) : Unclaimed kinds kind := by
  refine .of_at hkinds ?_
  revert h
  cases kind <;> decide

theorem unclaimed_of_ne_struct {kind : Kind} (hkinds : At .type kinds)
    (h : kind ≠ .structKeyword) : Unclaimed kinds kind := by
  refine .of_at hkinds ?_
  revert h
  cases kind <;> decide

theorem unclaimed_of_ne_parameter {kind : Kind} (hkinds : At .parameters kinds)
    (h : kind ≠ .identifier ∧ kind ≠ .comma) : Unclaimed kinds kind := by
  refine .of_at hkinds ?_
  revert h
  cases kind <;> decide

theorem unclaimed_of_ne_call {kind : Kind} (hkinds : At .member kinds)
    (h : kind ≠ .colonColon ∧ kind ≠ .openParen) : Unclaimed kinds kind := by
  refine .of_at hkinds ?_
  revert h
  cases kind <;> decide

end Contexts

namespace Expr

variable {value : Reading Expr} {expression : Power → Reading Expr}

theorem readNumber_tracks :
    Tracks setting
      (fun kinds tokens => At .value kinds ∧ tokens.head?.map Token.kind = some .number)
      (fun _ kinds _ => AfterValue kinds) readNumber := by
  rintro kinds tokens hspelled ⟨hsite, hhead⟩
  obtain ⟨token, hhead, hkind⟩ := Option.map_eq_some_iff.mp hhead
  obtain ⟨rest, rfl⟩ := List.head?_eq_some_iff.mp hhead
  obtain ⟨text, htext, hspells⟩ := hspelled token List.mem_cons_self
  have hnumeral : Scan.IsNumeral text := by rwa [hkind] at hspells
  rw [readNumber, expect_bind_cons hkind, lexeme_bind htext, Grammar.int32?_of_isNumeral hnumeral]
  by_cases hfits : Grammar.decimal text ≤ 2 ^ 31 - 1
  · rw [if_pos hfits]
    refine .ok [token] rfl ?_
    rw [kindsAfter, List.map_singleton, hkind]
    exact .number
  · rw [if_neg hfits]
    -- The number was passed over, but the refusal points back to it.
    exact .refused [] rfl (.number hsite hkind htext (Nat.lt_of_not_le hfits))

theorem readAllFields_leads (hvalue : Leads setting (At .value) AfterValue value) :
    Leads setting BeforeField (fun kinds => BeforeField kinds ∨ AfterValue kinds)
      (readAllFields value) := by
  have hname : Leads setting BeforeField (After .identifier BeforeField) (expect .identifier) :=
    .expect _ (fun _ h => h.elsewhere) fun kinds h => ⟨kinds, rfl, h⟩
  have hequals : Leads setting (After .identifier BeforeField) (At .value)
      (expect .assignment) := by
    refine .expect _ ?_ fun _ _ => rfl
    rintro _ ⟨kinds, rfl, h⟩
    cases h <;> rfl
  refine Tracks.remaining.bind fun bound => ?_
  induction bound with
  | zero => exact .currentOr_bind _ fun _ _ _ => .pure fun _ _ h => .inl h.2
  | succ bound ih =>
      refine Tracks.kind?.bind fun kind => ?_
      split
      · exact .pure fun _ _ h => .inl h.2
      refine (hname.enter fun _ _ h => h.2).bind fun name => hequals.bind fun _ =>
        hvalue.bind fun content => Tracks.kind?.bind fun next => ?_
      split
      case isTrue hcomma =>
        have hskip : Tracks setting
            (fun kinds tokens => next = tokens.head?.map Token.kind ∧ AfterValue kinds)
            (fun _ kinds _ => BeforeField kinds) skip :=
          .skip_kind .comma fun _ _ h => ⟨h.1.symm.trans hcomma, .comma⟩
        exact hskip.bind fun _ => ih.bind fun _ => .pure fun _ _ h => h
      case isFalse => exact .pure fun _ _ h => .inr h.2

theorem readStructLiteral_tracks (hvalue : Leads setting (At .value) AfterValue value) :
    Tracks setting
      (fun kinds tokens => At .value kinds ∧ tokens.head?.map Token.kind = some .dot)
      (fun _ kinds _ => AfterValue kinds) (readStructLiteral (readAllFields value)) := by
  have hdot : Tracks setting
      (fun kinds tokens => At .value kinds ∧ tokens.head?.map Token.kind = some .dot)
      (fun _ kinds _ => After .dot (At .value) kinds) (expect .dot) := by
    refine .expect _ ?_ fun kinds _ _ h => ⟨kinds, rfl, h.1⟩
    rintro kinds token rest ⟨-, hhead⟩ hkind
    exact absurd (Option.some.inj hhead) hkind
  have hopening : Leads setting (After .dot (At .value)) BeforeField (expect .openCurly) := by
    refine .expect _ ?_ fun _ _ => .openCurly
    rintro _ ⟨kinds, rfl, -⟩
    rfl
  have hclosing : Leads setting (fun kinds => BeforeField kinds ∨ AfterValue kinds) AfterValue
      (expect .closeCurly) :=
    .expect _ (fun _ h => h.elim BeforeField.elsewhere AfterValue.elsewhere)
      fun _ _ => .closeCurly
  exact hdot.bind fun _ => hopening.bind fun _ => (readAllFields_leads hvalue).bind fun _ =>
    hclosing.bind fun _ => .pure fun _ _ h => h

theorem refuse_tracks {kind : Kind} {construct : String}
    (hconstruct : Site.value.construct? kind = some construct) :
    Tracks setting
      (fun kinds tokens => At .value kinds ∧ tokens.head?.map Token.kind = some kind)
      (fun _ kinds _ => AfterValue kinds) (refuse construct) := by
  refine .currentOr_bind _ fun token _ _ => .unsupported .value ?_
  rintro kinds tokens ⟨hhead, hsite, hkind⟩
  rw [hhead] at hkind
  cases hkind
  exact ⟨hhead, hsite, hconstruct⟩

theorem readOperand_tracks (hvalue : Leads setting (At .value) AfterValue value) {kind : Kind}
    {rule : OperandRule} (hrule : Rules.standard.operand kind = some rule) :
    Tracks setting
      (fun kinds tokens => At .value kinds ∧ tokens.head?.map Token.kind = some kind)
      (fun _ kinds _ => AfterValue kinds) (readOperand (readAllFields value) rule) := by
  cases kind
  case number =>
    cases hrule
    exact readNumber_tracks
  case dot =>
    cases hrule
    exact readStructLiteral_tracks hvalue
  case identifier | selfKeyword | openParen | dash =>
    cases hrule
    exact refuse_tracks rfl
  all_goals cases hrule

def BeginsWithSign (tokens : List Token) : Prop :=
  ∃ token, tokens.head? = some token ∧ (token.kind = .plus ∨ token.kind = .dash)

theorem readBinary_tracks
    (hexpression : ∀ power, Leads setting (At .value) AfterValue (expression power))
    (left : Expr) (power : Power) :
    Tracks setting (fun _ tokens => BeginsWithSign tokens) (fun _ kinds _ => AfterValue kinds)
      (readBinary expression left power) := by
  have hoperator : Tracks setting (fun _ tokens => BeginsWithSign tokens)
      (fun _ kinds _ => At .value kinds) (advanceOr "an operator") := by
    refine .advanceOr _ ?_
    rintro kinds token rest ⟨_, ⟨⟩, hkind | hkind⟩
    · rw [hkind]
      rfl
    · rw [hkind]
      rfl
  exact hoperator.bind fun _ => (hexpression power).bind fun _ => .pure fun _ _ h => h

theorem operatorAbove?_tracks (hrules : setting.rules = .standard) (power : Power) :
    Tracks setting (fun kinds _ => AfterValue kinds)
      (fun operator kinds tokens => AfterValue kinds ∧ (operator.isSome → BeginsWithSign tokens))
      (operatorAbove? power) := by
  intro kinds tokens _ hknown
  have happly : (operatorAbove? power : Reading (Option Power)) setting tokens =
      .ok ((tokens.head?.bind fun token => setting.rules.operator token.kind).filter power.below)
        tokens := by
    cases tokens <;> rfl
  rw [happly, hrules]
  refine .ok [] rfl ⟨hknown, fun hsome => ?_⟩
  obtain ⟨operator, hoperator⟩ := Option.isSome_iff_exists.mp hsome
  obtain ⟨hregistered, -⟩ := Option.filter_eq_some_iff.mp hoperator
  obtain ⟨token, hhead, hkind⟩ := Option.bind_eq_some_iff.mp hregistered
  refine ⟨token, hhead, ?_⟩
  rw [standard_operator] at hkind
  split at hkind
  case isTrue hsign => exact hsign
  case isFalse => cases hkind

theorem readAllOperators_leads (hrules : setting.rules = .standard)
    (hexpression : ∀ power, Leads setting (At .value) AfterValue (expression power))
    (power : Power) (left : Expr) :
    Leads setting AfterValue AfterValue (readAllOperators expression power left) := by
  refine Tracks.remaining.bind fun bound => ?_
  induction bound generalizing left with
  | zero => exact .pure fun _ _ h => h
  | succ bound ih =>
      refine (operatorAbove?_tracks hrules power).bind fun operator => ?_
      cases operator with
      | none => exact .pure fun _ _ h => h.1
      | some operator =>
          have hbinary := readBinary_tracks hexpression left operator
          exact (hbinary.enter fun _ _ h => h.2 rfl).bind fun joined => ih joined

theorem readInside_leads (hrules : setting.rules = .standard)
    (hexpression : ∀ power, Leads setting (At .value) AfterValue (expression power))
    (power : Power) : Leads setting (At .value) AfterValue (readInside expression power) := by
  refine .currentOr_bind _ fun token _ _ => .rules_bind hrules ?_
  cases hrule : Rules.standard.operand token.kind with
  | none => exact .unexpected _ fun _ _ h => ⟨h.1, unclaimed_of_operand_eq_none h.2 hrule⟩
  | some rule =>
      have hoperand := readOperand_tracks (hexpression .lowest) hrule
      refine (hoperand.enter fun kinds tokens h => ⟨h.2, ?_⟩).bind fun first =>
        readAllOperators_leads hrules hexpression power first
      rw [h.1, Option.map_some]

theorem read_leads (hrules : setting.rules = .standard) (room : Nat) (power : Power) :
    Leads setting (At .value) AfterValue (read room power) := by
  induction room generalizing power with
  | zero => exact Tracks.tooDeep
  | succ room ih => exact (readInside_leads hrules ih power).inLevel

end Expr

namespace Ascription

theorem read_leads : Leads setting (At .type) (After .identifier (At .type)) read := by
  refine .currentOr_bind _ fun token text htext => ?_
  split
  case h_1 hkind =>
    have hskip : Tracks setting (fun kinds tokens => tokens.head? = some token ∧ At .type kinds)
        (fun _ kinds _ => After .identifier (At .type) kinds) skip :=
      .skip_kind .identifier fun kinds _ h =>
        ⟨by rw [h.1, Option.map_some, hkind], kinds, rfl, h.2⟩
    refine hskip.bind fun _ => .lexeme_bind htext ?_
    split
    · exact .pure fun _ _ h => h
    · exact .pure fun _ _ h => h
  case h_2 hkind => exact .unsupported .type fun _ _ h => ⟨h.1, h.2, by rw [hkind]; rfl⟩
  case h_3 _ hstruct => exact .unexpected _ fun _ _ h => ⟨h.1, unclaimed_of_ne_struct h.2 hstruct⟩

theorem readDeclared_tracks :
    Tracks setting (fun kinds _ => At .type kinds)
      (fun _ kinds tokens => Elsewhere kinds ∨
        tokens.head?.map Token.kind = some .assignment ∨
        tokens.head?.map Token.kind = some .semicolon) readDeclared := by
  refine Tracks.kind?.bind fun kind => ?_
  split
  · exact .pure fun _ _ h => .inr (.inl h.1.symm)
  · exact .pure fun _ _ h => .inr (.inr h.1.symm)
  · exact (read_leads.enter fun _ _ h => h.2).leave fun _ _ _ h => .inl (elsewhere_of_after_type h)

end Ascription

namespace Stmt

variable {statement : Reading Stmt} {expression : Reading Expr}

def BeginsNamed (kinds : List Kind) (tokens : List Token) : Prop :=
  BeforeStatement kinds ∧ (tokens.head?.map Token.kind = some .identifier ∨
    tokens.head?.map Token.kind = some .selfKeyword)

theorem semicolon_leads : Leads setting AfterValue BeforeStatement (expect .semicolon) :=
  .expect _ (fun _ h => h.elsewhere) fun _ _ => .semicolon

theorem BeginsNamed.afterName {kinds : List Kind} {token : Token} {rest : List Token}
    (h : BeginsNamed kinds (token :: rest)) : AfterName (token.kind :: kinds) := by
  obtain ⟨hstatement, hkind | hkind⟩ := h
  · rw [Option.some.inj hkind]
    exact .identifier hstatement
  · rw [Option.some.inj hkind]
    exact .selfKeyword hstatement

theorem name_tracks :
    Tracks setting BeginsNamed (fun _ kinds _ => AfterName kinds) (advanceOr "an identifier") :=
  .advanceOr _ fun _ _ _ h => h.afterName

theorem readAllBlockStatements_leads
    (hstatement : Leads setting BeforeStatement BeforeStatement statement) :
    Leads setting BeforeStatement BeforeStatement (readAllBlockStatements statement) := by
  refine Tracks.remaining.bind fun bound => ?_
  induction bound with
  | zero => exact .currentOr_bind _ fun _ _ _ => .pure fun _ _ h => h.2
  | succ bound ih =>
      refine .currentOr_bind _ fun token _ _ => ?_
      split
      · exact .pure fun _ _ h => h.2
      · exact (hstatement.enter fun _ _ h => h.2).bind fun first =>
          ih.bind fun _ => .pure fun _ _ h => h

theorem readBlock_leads (hstatement : Leads setting BeforeStatement BeforeStatement statement) :
    Leads setting BeforeStatement BeforeStatement
      (readBlock (readAllBlockStatements statement)) := by
  have hclosing : Leads setting BeforeStatement BeforeStatement (expect .closeCurly) :=
    .expect _ (fun _ h => h.elsewhere) fun _ _ => .closeCurly
  exact (readAllBlockStatements_leads hstatement).bind fun _ =>
    hclosing.bind fun _ => .pure fun _ _ h => h

theorem readReturn_leads (hexpression : Leads setting (At .value) AfterValue expression) :
    Leads setting BeforeStatement BeforeStatement (readReturn expression) := by
  have hkeyword : Leads setting BeforeStatement (At .value) (expect .returnKeyword) :=
    .expect _ (fun _ h => h.elsewhere) fun _ _ => rfl
  exact hkeyword.bind fun _ => hexpression.bind fun _ => semicolon_leads.bind fun _ =>
    .pure fun _ _ h => h

theorem readInitial_tracks (hexpression : Leads setting (At .value) AfterValue expression) :
    Tracks setting
      (fun kinds tokens => Elsewhere kinds ∨
        tokens.head?.map Token.kind = some .assignment ∨
        tokens.head?.map Token.kind = some .semicolon)
      (fun _ kinds _ => BeforeStatement kinds) (readInitial expression) := by
  refine .currentOr_bind _ fun token _ _ => ?_
  split
  case h_1 hkind =>
    have hskip : Tracks setting (fun _ tokens => tokens.head? = some token)
        (fun _ kinds _ => At .value kinds) skip :=
      .skip_token hkind fun _ => rfl
    exact (hskip.enter fun _ _ h => h.1).bind fun _ => hexpression.bind fun _ =>
      semicolon_leads.bind fun _ => .pure fun _ _ h => h
  case h_2 hkind =>
    have hskip : Tracks setting (fun _ tokens => tokens.head? = some token)
        (fun _ kinds _ => BeforeStatement kinds) skip :=
      .skip_token hkind fun _ => .semicolon
    exact (hskip.enter fun _ _ h => h.1).bind fun _ => .pure fun _ _ h => h
  case h_3 hassignment hsemicolon =>
    refine .unexpected _ ?_
    rintro kinds tokens ⟨hhead, hknown⟩
    rw [hhead, Option.map_some, Option.some_inj, Option.some_inj] at hknown
    rcases hknown with hnone | hkind | hkind
    · exact ⟨hhead, .of_elsewhere hnone⟩
    · exact absurd hkind hassignment
    · exact absurd hkind hsemicolon

theorem readDeclaration_tracks (hexpression : Leads setting (At .value) AfterValue expression) :
    Tracks setting BeginsNamed (fun _ kinds _ => BeforeStatement kinds)
      (readDeclaration expression) := by
  have hcolon : Leads setting AfterName (At .type) (expect .colon) :=
    .expect _ (fun _ h => h.elsewhere) fun _ _ => rfl
  exact name_tracks.bind fun _ => hcolon.bind fun _ => Ascription.readDeclared_tracks.bind fun _ =>
    (readInitial_tracks hexpression).bind fun _ => .pure fun _ _ h => h

theorem readReceiver_leads {earlier : List Kind → Prop} :
    Leads setting (After .openParen earlier) (At .parameters) readReceiver := by
  refine Tracks.kind?.bind fun kind => ?_
  split
  case h_1 =>
    have hskip : Tracks setting
        (fun kinds tokens => some .selfKeyword = tokens.head?.map Token.kind ∧
          After .openParen earlier kinds)
        (fun _ kinds _ => At .parameters kinds) skip := by
      refine .skip_kind .selfKeyword ?_
      rintro _ tokens ⟨hhead, kinds, rfl, -⟩
      exact ⟨hhead.symm, rfl⟩
    exact hskip.bind fun _ => .pure fun _ _ h => h
  case h_2 =>
    have hskip : Tracks setting
        (fun kinds tokens => some .star = tokens.head?.map Token.kind ∧
          After .openParen earlier kinds)
        (fun _ kinds _ => After .star (fun _ => True) kinds) skip :=
      .skip_kind .star fun kinds _ h => ⟨h.1.symm, kinds, rfl, trivial⟩
    have hself : Leads setting (After .star fun _ => True) (At .parameters)
        (expect .selfKeyword) := by
      refine .expect _ ?_ ?_
      · rintro _ ⟨kinds, rfl, -⟩
        rfl
      · rintro _ ⟨kinds, rfl, -⟩
        rfl
    exact hskip.bind fun _ => hself.bind fun _ => .pure fun _ _ h => h
  case h_3 =>
    refine .pure ?_
    rintro _ tokens ⟨-, kinds, rfl, -⟩
    rfl

theorem closeParameters_leads :
    Leads setting (At .parameters) (After .closeParen (At .parameters)) closeParameters := by
  refine Tracks.current?.bind fun current => ?_
  have hclose : Tracks setting
      (fun kinds tokens => (∀ token, tokens.head? = some token →
        token.kind ≠ .identifier ∧ token.kind ≠ .comma) ∧ At .parameters kinds)
      (fun _ kinds _ => After .closeParen (At .parameters) kinds) (expect .closeParen) := by
    refine .expect _ ?_ fun kinds _ _ h => ⟨kinds, rfl, h.2⟩
    rintro kinds token rest ⟨hkind, hknown⟩ -
    exact unclaimed_of_ne_parameter hknown (hkind token rfl)
  split
  case h_1 token =>
    split
    case isTrue hparameter =>
      refine .unsupported .parameters fun _ _ h => ⟨h.1.symm, h.2, ?_⟩
      rcases hparameter with hkind | hkind
      · rw [hkind]
        rfl
      · rw [hkind]
        rfl
    case isFalse hparameter =>
      refine (hclose.enter fun kinds tokens h => ⟨?_, h.2⟩).bind fun _ => .pure fun _ _ h => h
      intro other hother
      rw [← h.1] at hother
      cases hother
      exact not_or.mp hparameter
  case h_2 =>
    refine (hclose.enter fun kinds tokens h => ⟨?_, h.2⟩).bind fun _ => .pure fun _ _ h => h
    intro other hother
    rw [← h.1] at hother
    cases hother

theorem readResult_leads {earlier : List Kind → Prop} :
    Leads setting (After .closeParen earlier) Elsewhere
      readResult := by
  refine Tracks.kind?.bind fun kind => ?_
  split
  case isTrue harrow =>
    have hskip : Tracks setting
        (fun kinds tokens => kind = tokens.head?.map Token.kind ∧ After .closeParen earlier kinds)
        (fun _ kinds _ => At .type kinds) skip :=
      .skip_kind .arrow fun _ _ h => ⟨h.1.symm.trans harrow, rfl⟩
    exact hskip.bind fun _ => Ascription.read_leads.bind fun _ =>
      .pure fun _ _ h => elsewhere_of_after_type h
  case isFalse =>
    refine .pure ?_
    rintro _ tokens ⟨-, kinds, rfl, -⟩
    rfl

theorem readDefinition_tracks
    (hstatement : Leads setting BeforeStatement BeforeStatement statement) :
    Tracks setting BeginsNamed (fun _ kinds _ => BeforeStatement kinds)
      (readDefinition (readBlock (readAllBlockStatements statement))) := by
  have hcolons : Leads setting AfterName (After .colonColon AfterName) (expect .colonColon) :=
    .expect _ (fun _ h => h.elsewhere) fun kinds h => ⟨kinds, rfl, h⟩
  have hopening : Leads setting Elsewhere BeforeStatement
      (expect .openCurly) :=
    .expect _ (fun _ h => h) fun _ _ => .openCurly
  refine name_tracks.bind fun name => hcolons.bind fun _ => .currentOr_bind _ fun token _ _ => ?_
  split
  case h_1 hkind =>
    have hskip : Tracks setting (fun _ tokens => tokens.head? = some token)
        (fun _ kinds _ => Elsewhere kinds) skip :=
      .skip_token hkind fun _ => rfl
    exact (hskip.enter fun _ _ h => h.1).bind fun _ => hopening.bind fun _ =>
      (readBlock_leads hstatement).bind fun _ => .pure fun _ _ h => h
  case h_2 hkind =>
    have hskip : Tracks setting (fun _ tokens => tokens.head? = some token)
        (fun _ kinds _ => After .openParen (fun _ => True) kinds) skip :=
      .skip_token hkind fun kinds => ⟨kinds, rfl, trivial⟩
    exact (hskip.enter fun _ _ h => h.1).bind fun _ => readReceiver_leads.bind fun _ =>
      closeParameters_leads.bind fun _ => readResult_leads.bind fun _ => hopening.bind fun _ =>
        (readBlock_leads hstatement).bind fun _ => .pure fun _ _ h => h
  case h_3 =>
    refine .unexpected _ ?_
    rintro _ tokens ⟨hhead, kinds, rfl, -⟩
    exact ⟨hhead, .of_elsewhere rfl⟩

theorem readFieldWrite_tracks (hexpression : Leads setting (At .value) AfterValue expression) :
    Tracks setting BeginsNamed (fun _ kinds _ => BeforeStatement kinds)
      (readFieldWrite expression) := by
  have hdot : Leads setting AfterName (After .dot AfterName) (expect .dot) :=
    .expect _ (fun _ h => h.elsewhere) fun kinds h => ⟨kinds, rfl, h⟩
  have hfield : Leads setting (After .dot AfterName) (At .member) (expect .identifier) := by
    refine .expect _ ?_ ?_
    · rintro _ ⟨kinds, rfl, -⟩
      rfl
    · rintro _ ⟨kinds, rfl, -⟩
      rfl
  refine name_tracks.bind fun receiver => hdot.bind fun _ => hfield.bind fun field =>
    .currentOr_bind _ fun token _ _ => ?_
  split
  case isTrue hkind => exact .unsupported .member fun _ _ h => ⟨h.1, h.2, by rw [hkind]; rfl⟩
  case isFalse hreference =>
  split
  case isTrue hkind => exact .unsupported .member fun _ _ h => ⟨h.1, h.2, by rw [hkind]; rfl⟩
  case isFalse hcall =>
  split
  case isTrue hassigns =>
    have hskip : Tracks setting (fun _ tokens => tokens.head? = some token)
        (fun _ kinds _ => At .value kinds) skip := by
      refine .skip_token rfl fun _ => ?_
      generalize token.kind = kind at hassigns
      cases kind
      case assignment | plusEquals | minusEquals => rfl
      all_goals cases hassigns
    exact (hskip.enter fun _ _ h => h.1).bind fun _ => hexpression.bind fun _ =>
      semicolon_leads.bind fun _ => .pure fun _ _ h => h
  case isFalse =>
    exact .unexpected _ fun _ _ h => ⟨h.1, unclaimed_of_ne_call h.2 ⟨hreference, hcall⟩⟩

theorem readNamed_tracks (hstatement : Leads setting BeforeStatement BeforeStatement statement)
    (hexpression : Leads setting (At .value) AfterValue expression) :
    Tracks setting BeginsNamed (fun _ kinds _ => BeforeStatement kinds)
      (readNamed (readBlock (readAllBlockStatements statement)) expression) := by
  refine (Tracks.peek? 1).bind fun kind => ?_
  split
  · exact readDeclaration_tracks hexpression
  · exact readDefinition_tracks hstatement
  · exact readFieldWrite_tracks hexpression
  · have hskip : Tracks setting BeginsNamed (fun _ kinds _ => AfterName kinds) skip := by
      refine .skip ?_ fun _ _ _ h => h.afterName
      rintro kinds ⟨-, hkind | hkind⟩
      · cases hkind
      · cases hkind
    exact hskip.bind fun _ => .currentOr_bind _ fun token _ _ =>
      .unexpected _ fun _ _ h => ⟨h.1, .of_elsewhere h.2.elsewhere⟩

theorem readInside_leads (hrules : setting.rules = .standard)
    (hstatement : Leads setting BeforeStatement BeforeStatement statement)
    (hexpression : Leads setting (At .value) AfterValue expression) :
    Leads setting BeforeStatement BeforeStatement (readInside statement expression) := by
  refine .currentOr_bind _ fun token _ _ => .rules_bind hrules ?_
  cases hkind : token.kind with
  | returnKeyword => exact (readReturn_leads hexpression).enter fun _ _ h => h.2
  | identifier =>
      refine (readNamed_tracks hstatement hexpression).enter fun _ _ h => ⟨h.2, .inl ?_⟩
      rw [h.1, Option.map_some, hkind]
  | selfKeyword =>
      refine (readNamed_tracks hstatement hexpression).enter fun _ _ h => ⟨h.2, .inr ?_⟩
      rw [h.1, Option.map_some, hkind]
  | _ => exact .unexpected _ fun _ _ h => ⟨h.1, .of_elsewhere h.2.elsewhere⟩

theorem read_leads (hrules : setting.rules = .standard) (room : Nat) :
    Leads setting BeforeStatement BeforeStatement (read room) := by
  induction room with
  | zero => exact Tracks.tooDeep
  | succ room ih => exact (readInside_leads hrules ih (Expr.read_leads hrules room .lowest)).inLevel

theorem readAllStatements_leads
    (hstatement : Leads setting BeforeStatement BeforeStatement statement) :
    Leads setting BeforeStatement BeforeStatement (readAllStatements statement) := by
  refine Tracks.remaining.bind fun bound => ?_
  induction bound with
  | zero => exact Tracks.pure fun _ _ h => h
  | succ bound ih =>
      refine Tracks.kind?.bind fun kind => ?_
      split
      · exact .pure fun _ _ h => h.2
      · exact (hstatement.enter fun _ _ h => h.2).bind fun first =>
          ih.bind fun _ => .pure fun _ _ h => h

end Stmt

section Program

/-- Tokens that end with tokens of the given kinds. -/
def EndWith (tokens : List Token) (kinds : List Kind) : Prop :=
  kinds <:+ tokens.map Token.kind

/-- Tokens after which a value has to begin. -/
def ExpectValue (tokens : List Token) : Prop :=
  ∃ kind ∈ [Kind.returnKeyword, .assignment, .plusEquals, .minusEquals, .plus, .dash],
    EndWith tokens [kind]

/-- The ways in which a token is refused other than for not being the expected one. -/
inductive Rejection where
  | identifierExpression
  | parenthesizedExpression
  | unaryExpression
  | methodReference
  | methodCall
  | functionParameters
  | anonymousStruct
  | numberOutOfRange

namespace Rejection

/-- Which causes report a rejection. -/
def ReportedAs : Rejection → Cause → Prop
  | identifierExpression, cause => cause = .unsupported "identifier expression"
  | parenthesizedExpression, cause => cause = .unsupported "parenthesized expression"
  | unaryExpression, cause => cause = .unsupported "unary expression"
  | methodReference, cause => cause = .unsupported "method reference"
  | methodCall, cause => cause = .unsupported "method call"
  | functionParameters, cause => cause = .unsupported "function parameters"
  | anonymousStruct, cause => cause = .unsupported "anonymous struct type"
  | numberOutOfRange, cause => ∃ text, cause = .numberOutOfRange text

/-- After which tokens something is rejected so. -/
def StandsAfter : Rejection → List Token → Prop
  | identifierExpression, before | parenthesizedExpression, before | unaryExpression, before
  | numberOutOfRange, before => ExpectValue before
  | methodReference, before | methodCall, before => EndWith before [.dot, .identifier]
  | functionParameters, before =>
      EndWith before [.openParen] ∨ EndWith before [.openParen, .selfKeyword] ∨
        EndWith before [.star, .selfKeyword]
  | anonymousStruct, before => EndWith before [.colon] ∨ EndWith before [.arrow]

/-- Which tokens are rejected so, if they stand there. -/
def BeginsAt (source : Text) (token : Token) : Rejection → Prop
  | identifierExpression => token.kind = .identifier ∨ token.kind = .selfKeyword
  | parenthesizedExpression | methodCall => token.kind = .openParen
  | unaryExpression => token.kind = .dash
  | methodReference => token.kind = .colonColon
  | functionParameters => token.kind = .identifier ∨ token.kind = .comma
  | anonymousStruct => token.kind = .structKeyword
  | numberOutOfRange =>
      token.kind = .number ∧
        ∃ text, token.lexeme? source = some text ∧ 2147483647 < Grammar.decimal text

def site : Rejection → Site
  | identifierExpression | parenthesizedExpression | unaryExpression | numberOutOfRange => .value
  | methodReference | methodCall => .member
  | functionParameters => .parameters
  | anonymousStruct => .type

end Rejection

variable {source : Text} {tokens before after rest : List Token} {token : Token} {limit : Nat}
  {problem : Diagnostic}

theorem endWith_iff {kinds : List Kind} :
    EndWith before kinds ↔ kinds.reverse <+: kindsAfter [] before := by
  rw [EndWith, kindsAfter, List.append_nil, List.reverse_prefix]

theorem at_value_iff : At .value (kindsAfter [] before) ↔ ExpectValue before := by
  simp only [ExpectValue, endWith_iff, List.reverse_singleton]
  generalize kindsAfter [] before = kinds
  constructor
  · intro h
    unfold At ofKinds? at h
    split at h
    case h_1 | h_2 | h_3 | h_4 | h_5 | h_6 => exact ⟨_, by decide, List.prefix_append _ _⟩
    all_goals cases h
  · rintro ⟨kind, hkind, earlier, rfl⟩
    cases kind
    case returnKeyword | assignment | plusEquals | minusEquals | plus | dash => rfl
    all_goals exact absurd hkind (by decide)

theorem at_member_iff :
    At .member (kindsAfter [] before) ↔ EndWith before [.dot, .identifier] := by
  rw [endWith_iff]
  generalize kindsAfter [] before = kinds
  constructor
  · intro h
    unfold At ofKinds? at h
    split at h
    case h_7 => exact ⟨_, rfl⟩
    all_goals cases h
  · rintro ⟨earlier, rfl⟩
    rfl

theorem at_parameters_iff :
    At .parameters (kindsAfter [] before) ↔ EndWith before [.openParen] ∨
      EndWith before [.openParen, .selfKeyword] ∨ EndWith before [.star, .selfKeyword] := by
  simp only [endWith_iff]
  generalize kindsAfter [] before = kinds
  constructor
  · intro h
    unfold At ofKinds? at h
    split at h
    case h_8 => exact .inl ⟨_, rfl⟩
    case h_9 => exact .inr (.inl ⟨_, rfl⟩)
    case h_10 => exact .inr (.inr ⟨_, rfl⟩)
    all_goals cases h
  · rintro (⟨earlier, rfl⟩ | ⟨earlier, rfl⟩ | ⟨earlier, rfl⟩)
    · rfl
    · rfl
    · rfl

theorem at_type_iff :
    At .type (kindsAfter [] before) ↔ EndWith before [.colon] ∨ EndWith before [.arrow] := by
  simp only [endWith_iff]
  generalize kindsAfter [] before = kinds
  constructor
  · intro h
    unfold At ofKinds? at h
    split at h
    case h_11 => exact .inl ⟨_, rfl⟩
    case h_12 => exact .inr ⟨_, rfl⟩
    all_goals cases h
  · rintro (⟨earlier, rfl⟩ | ⟨earlier, rfl⟩)
    · rfl
    · rfl

theorem Rejection.standsAfter_iff (rejection : Rejection) :
    rejection.StandsAfter before ↔ At rejection.site (kindsAfter [] before) := by
  cases rejection with
  | identifierExpression | parenthesizedExpression | unaryExpression | numberOutOfRange =>
      exact at_value_iff.symm
  | methodReference | methodCall => exact at_member_iff.symm
  | functionParameters => exact at_parameters_iff.symm
  | anonymousStruct => exact at_type_iff.symm

/-- Where something is rejected, the token is claimed by its site. -/
theorem Rejection.not_beginsAt_of_unclaimed (rejection : Rejection)
    (h : rejection.site.construct? token.kind = none ∧
      (rejection.site = .value → token.kind ≠ .number)) :
    ¬rejection.BeginsAt source token := by
  intro hbegins
  cases rejection with
  | numberOutOfRange => exact h.2 rfl hbegins.1
  | identifierExpression | functionParameters =>
      rcases hbegins with hkind | hkind
      · rw [hkind] at h
        cases h.1
      · rw [hkind] at h
        cases h.1
  | _ =>
      rw [BeginsAt] at hbegins
      rw [hbegins] at h
      cases h.1

theorem Cause.Classifies.reportedAs_iff {cause : Cause}
    (h : cause.Classifies source (kindsAfter [] before) token) (rejection : Rejection) :
    rejection.ReportedAs cause ↔
      rejection.StandsAfter before ∧ rejection.BeginsAt source token := by
  rw [rejection.standsAfter_iff]
  have hunclaimed : Unclaimed (kindsAfter [] before) token.kind →
      ¬(At rejection.site (kindsAfter [] before) ∧ rejection.BeginsAt source token) := by
    rintro hnone ⟨hsite, hbegins⟩
    exact rejection.not_beginsAt_of_unclaimed (hnone _ hsite) hbegins
  cases h with
  | @unsupported site construct hsite hconstruct =>
      rw [hsite.iff]
      cases site <;> cases hkind : token.kind <;> rw [hkind] at hconstruct <;> cases hconstruct
      all_goals
        cases rejection <;> simp [Rejection.ReportedAs, Rejection.site, Rejection.BeginsAt, hkind]
  | number hsite hkind htext hlarge =>
      rw [hsite.iff]
      have hbound : 2147483647 < Grammar.decimal _ := hlarge
      cases rejection <;>
        simp [Rejection.ReportedAs, Rejection.site, Rejection.BeginsAt, hkind, htext, hbound]
  | unexpected hnone =>
      refine iff_of_false ?_ (hunclaimed hnone)
      cases rejection <;> simp [Rejection.ReportedAs]
  | misplaced hnone =>
      refine iff_of_false ?_ (hunclaimed hnone)
      cases rejection <;> simp [Rejection.ReportedAs]

theorem Cause.Classifies.exists_reportedAs {cause : Cause} {kinds : List Kind}
    (h : cause.Classifies source kinds token) :
    (∃ rejection : Rejection, rejection.ReportedAs cause) ∨
      (∃ expected found, cause = .unexpectedToken expected found) ∨
        ∃ text message, cause = .misplacedToken text message := by
  cases h with
  | @unsupported site construct hsite hconstruct =>
      left
      cases site <;> cases hkind : token.kind <;> rw [hkind] at hconstruct <;> cases hconstruct
      case unsupported.value.openParen.refl => exact ⟨.parenthesizedExpression, rfl⟩
      case unsupported.value.dash.refl => exact ⟨.unaryExpression, rfl⟩
      case unsupported.value.identifier.refl | unsupported.value.selfKeyword.refl =>
        exact ⟨.identifierExpression, rfl⟩
      case unsupported.member.openParen.refl => exact ⟨.methodCall, rfl⟩
      case unsupported.member.colonColon.refl => exact ⟨.methodReference, rfl⟩
      case unsupported.parameters.identifier.refl | unsupported.parameters.comma.refl =>
        exact ⟨.functionParameters, rfl⟩
      case unsupported.type.structKeyword.refl => exact ⟨.anonymousStruct, rfl⟩
  | number => exact .inl ⟨.numberOutOfRange, _, rfl⟩
  | unexpected => exact .inr (.inl ⟨_, _, rfl⟩)
  | misplaced => exact .inr (.inr ⟨_, _, rfl⟩)

/-- The span of a token tells where the token stands. -/
theorem split_eq_of_span_eq (htokens : tokenize source = .ok tokens)
    (hsplit : tokens = before ++ token :: after) {passed later : List Token} {refused : Token}
    (hother : tokens = passed ++ refused :: later) (hspan : refused.span = token.span) :
    passed = before ∧ refused = token := by
  have hdecomposition := decomposition_of_tokenize htokens
  have hspans : (tokens.map Token.span).Nodup := by
    rw [List.Nodup, List.pairwise_map]
    refine hdecomposition.ordered.imp_of_mem fun {first _} hfirst _ hordered heq => ?_
    have hnonempty := (hdecomposition.fits first hfirst).nonempty
    rw [← heq] at hordered
    exact absurd hordered (Nat.not_le_of_lt hnonempty)
  have hrefused : refused = token :=
    List.inj_on_of_nodup_map hspans (by simp [hother]) (by simp [hsplit]) hspan
  have hnodup := hspans.of_map
  rw [hother, List.nodup_middle, List.nodup_cons, List.mem_append, not_or, hrefused] at hnodup
  rw [hother, hrefused, List.append_cons_inj_of_notMem hnodup.1.1 hnodup.1.2] at hsplit
  exact ⟨hsplit.1, hrefused⟩

theorem classifies_of_readProgram (htokens : tokenize source = .ok tokens)
    (hlimit : tokens.length < limit)
    (hread : readProgram tokens source limit = .error problem rest)
    (hsplit : tokens = before ++ token :: after) (hspan : problem.span = some token.span) :
    problem.cause.Classifies source (kindsAfter [] before) token := by
  have hleads : Leads (.ofTokens tokens source .standard limit) BeforeStatement BeforeStatement
      (Stmt.readAllStatements (Stmt.read limit)) :=
    Stmt.readAllStatements_leads (Stmt.read_leads rfl limit)
  have hends : Ends source _ [] tokens (readProgram tokens source limit) :=
    hleads [] tokens (spelled_of_tokenize htokens) .start
  have hstopped := @not_stoppedAt_of_length_lt source tokens limit hlimit
  rw [hread] at hends hstopped
  cases hends with
  | missing => cases hspan
  | stopped => exact absurd ⟨_, _, _, rfl⟩ (hstopped _)
  | refused passed hother hclassifies =>
      obtain ⟨rfl, rfl⟩ := split_eq_of_span_eq htokens hsplit hother (Option.some.inj hspan)
      exact hclassifies

/-- What stops the reading of a program at a token is told by the token and the two before it: one
of the rejections exactly if it stands and begins as they say, else that another token was
expected. -/
theorem readProgram_error_classified (htokens : tokenize source = .ok tokens)
    (hlimit : tokens.length < limit)
    (hread : readProgram tokens source limit = .error problem rest)
    (hsplit : tokens = before ++ token :: after) (hspan : problem.span = some token.span) :
    (∀ rejection : Rejection, rejection.ReportedAs problem.cause ↔
      rejection.StandsAfter before ∧ rejection.BeginsAt source token) ∧
    ((∀ rejection : Rejection,
        ¬(rejection.StandsAfter before ∧ rejection.BeginsAt source token)) →
      (∃ expected found, problem.cause = .unexpectedToken expected found) ∨
        ∃ text message, problem.cause = .misplacedToken text message) := by
  have hclassifies := classifies_of_readProgram htokens hlimit hread hsplit hspan
  refine ⟨hclassifies.reportedAs_iff, fun hnone => ?_⟩
  rcases hclassifies.exists_reportedAs with ⟨rejection, hreported⟩ | hother
  · exact absurd ((hclassifies.reportedAs_iff rejection).mp hreported) (hnone rejection)
  · exact hother

/-- A sign after the operator in a struct literal is told by the operator, whatever the literal
stands in. -/
theorem readProgram_error_classified_sign :
    let source : Text := "a.b=.\x7bc=1+-2\x7d;".toList
    let token := fun (kind : Kind) (start : Nat) => (⟨kind, ⟨start, start + 1⟩, 1⟩ : Token)
    let before := [token .identifier 0, token .dot 1, token .identifier 2, token .assignment 3,
      token .dot 4, token .openCurly 5, token .identifier 6, token .assignment 7, token .number 8,
      token .plus 9]
    let after := [token .number 11, token .closeCurly 12, token .semicolon 13]
    let tokens := before ++ token .dash 10 :: after
    tokenize source = .ok tokens ∧ readProgram tokens source 15 =
        .error ⟨.unsupported "unary expression", 1, some ⟨10, 11⟩⟩ (token .dash 10 :: after) ∧
      Rejection.unaryExpression.StandsAfter before ∧
        ∀ rejection : Rejection, rejection.StandsAfter before →
          rejection.BeginsAt source (token .dash 10) → rejection = .unaryExpression := by
  intro source token before after tokens
  have htokens : tokenize source = .ok tokens := by decide +kernel
  have hread : readProgram tokens source 15 =
      .error ⟨.unsupported "unary expression", 1, some ⟨10, 11⟩⟩ (token .dash 10 :: after) := by
    decide +kernel
  have hclassified := (readProgram_error_classified htokens (by decide) hread rfl rfl).1
  refine ⟨htokens, hread, ((hclassified .unaryExpression).mp rfl).1, ?_⟩
  intro rejection hstands hbegins
  have hreported := (hclassified rejection).mpr ⟨hstands, hbegins⟩
  cases rejection with
  | unaryExpression => rfl
  | numberOutOfRange =>
      obtain ⟨_, hcause⟩ := hreported
      cases hcause
  | _ => exact absurd hreported (by simp [Rejection.ReportedAs])

end Program

end FrontEnd
