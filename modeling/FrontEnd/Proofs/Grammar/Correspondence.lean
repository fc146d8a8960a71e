import FrontEnd.Grammar.Statement
import FrontEnd.Proofs.Tree.Related

/-!
What the rules of the grammar do alike in any two monads. A correspondence relates computations of
the one with computations of the other, and says of each action that it is related to itself; then
every rule is related to itself if what it is given is.

A correspondence may count: it relates computations on fewer tokens than a bound, which consume at
least a given number of tokens if they end well. A rule consumes a token before it calls for
anything smaller, so its calls need only be related on fewer tokens than it is itself.
-/

namespace FrontEnd

open Reads

namespace Cause

/-- What a cause says in words that the source has no part in. -/
def wording? : Cause → Option String
  | misplacedToken _ message => some message
  | endOfInput expected => some expected
  | unsupported construct => some construct
  | unrecognisedCharacter _ | unexpectedToken _ _ | numberOutOfRange _ | nestingTooDeep _ => none

/-- The words of a cause fit on one line. -/
def OneLine (cause : Cause) : Prop :=
  ∀ wording ∈ cause.wording?, '\n' ∉ wording.toList

/-- The cause is one for which a token by itself is refused, and what it quotes is as given. -/
def Quotes (quoted : Text → Prop) : Cause → Prop
  | unexpectedToken _ text | misplacedToken text _ | numberOutOfRange text => quoted text
  | unsupported _ => True
  | unrecognisedCharacter _ | endOfInput _ | nestingTooDeep _ => False

end Cause

theorem Token.kind_congr {token other : Token} (h : token = other) : token.kind = other.kind := by
  rw [h]

theorem Kind.newline_not_mem_name (kind : Kind) : '\n' ∉ kind.name.toList := by
  cases kind <;> decide

structure Correspondence (m n : Type → Type) [Reads m] [Reads n] where
  tokens : Token → Token → Prop
  /-- What may be known of the spelling of a token. -/
  spells : Token → Text → Prop
  /-- What may be known of the rules. -/
  tables : Rules → Prop
  relates {α β : Type} (consumed bound : Nat) (values : α → β → Prop) (first : m α) (second : n β) :
    Prop
  kind_eq {token other : Token} : tokens token other → token.kind = other.kind
  weaken {α β : Type} {consumed less bound fewer : Nat} {values wider : α → β → Prop} {first : m α}
    {second : n β} : relates consumed bound values first second → less ≤ consumed → fewer ≤ bound →
    (∀ value other, values value other → wider value other) →
      relates less fewer wider first second
  pure {α β : Type} {bound : Nat} {values : α → β → Prop} {value : α} {other : β} :
    values value other → relates 0 bound values (Pure.pure value) (Pure.pure other)
  bind {α β γ δ : Type} {consumed more bound : Nat} {values : α → β → Prop}
    {results : γ → δ → Prop} {first : m α} {second : n β} {next : α → m γ} {otherNext : β → n δ} :
    relates consumed bound values first second →
    (∀ value other, values value other →
      relates more (bound - consumed) results (next value) (otherNext other)) →
      relates (consumed + more) bound results (first >>= next) (second >>= otherNext)
  current? {bound : Nat} : relates 0 bound (Option.Rel tokens) current? current?
  peek? {bound : Nat} (distance : Nat) : relates 0 bound Eq (peek? distance) (peek? distance)
  skip {bound : Nat} : relates 0 bound Eq skip skip
  remaining {bound : Nat} : relates 0 bound Eq remaining remaining
  rules {bound : Nat} :
    relates 0 bound (fun rules other => rules = other ∧ tables rules) rules rules
  lexeme {bound : Nat} {token other : Token} : tokens token other →
    relates 0 bound (fun text otherText => text = otherText ∧ spells token text) (lexeme token)
      (lexeme other)
  failAt {α β : Type} {consumed bound : Nat} {values : α → β → Prop} {token other : Token}
    {cause : Cause} : tokens token other → cause.OneLine → cause.Quotes (spells token) →
      relates consumed bound values (failAt token cause) (failAt other cause)
  currentOr {bound : Nat} {expected : String} : '\n' ∉ expected.toList →
    relates 0 bound tokens (currentOr expected) (currentOr expected)
  advanceOr {bound : Nat} {expected : String} : '\n' ∉ expected.toList →
    relates 1 bound tokens (advanceOr expected) (advanceOr expected)

/-- Relations between trees that the constructors keep. The trees that a rule calls for are related
as the inner ones, and those that it builds as the outer ones. -/
structure TreeRelation (tokens : Token → Token → Prop) where
  inner : Expr → Expr → Prop
  outer : Expr → Expr → Prop
  fields : List (Token × Expr) → List (Token × Expr) → Prop
  innerStatement : Stmt → Stmt → Prop
  outerStatement : Stmt → Stmt → Prop
  body : List Stmt → List Stmt → Prop
  number {value : Int} {token other : Token} : tokens token other →
    outer (.number value token) (.number value other)
  binary {left otherLeft right otherRight : Expr} {operator : Kind} : outer left otherLeft →
    inner right otherRight →
      outer (.binary left operator right) (.binary otherLeft operator otherRight)
  structLiteral {dot otherDot : Token} {content otherContent : List (Token × Expr)} :
    tokens dot otherDot → fields content otherContent →
      outer (.structLiteral dot content) (.structLiteral otherDot otherContent)
  fields_nil : fields [] []
  fields_cons {name otherName : Token} {value otherValue : Expr}
    {rest otherRest : List (Token × Expr)} : tokens name otherName → inner value otherValue →
      fields rest otherRest → fields ((name, value) :: rest) ((otherName, otherValue) :: otherRest)
  declaration {name otherName : Token} {type otherType : Ascription}
    {value otherValue : Option Expr} : tokens name otherName →
      Ascription.Related tokens type otherType → Option.Rel inner value otherValue →
        outerStatement (.declaration name type value) (.declaration otherName otherType otherValue)
  fieldWrite {receiver otherReceiver field otherField : Token} {operator : Kind}
    {value otherValue : Expr} : tokens receiver otherReceiver → tokens field otherField →
      inner value otherValue → outerStatement (.fieldWrite receiver field operator value)
        (.fieldWrite otherReceiver otherField operator otherValue)
  structDefinition {name otherName : Token} {content otherContent : List Stmt} :
    tokens name otherName → body content otherContent →
      outerStatement (.structDefinition name content) (.structDefinition otherName otherContent)
  function {name otherName : Token} {receiver : Option Receiver}
    {result otherResult : Option Ascription} {content otherContent : List Stmt} :
    tokens name otherName → Option.Rel (Ascription.Related tokens) result otherResult →
      body content otherContent → outerStatement (.function name receiver result content)
        (.function otherName receiver otherResult otherContent)
  returns {value otherValue : Expr} : inner value otherValue →
    outerStatement (.returns value) (.returns otherValue)
  outer_of_inner {tree other : Stmt} : innerStatement tree other → outerStatement tree other
  body_nil : body [] []
  body_cons {tree other : Stmt} {rest otherRest : List Stmt} : innerStatement tree other →
    body rest otherRest → body (tree :: rest) (other :: otherRest)

theorem eq_of_rel {α : Type} {relation : α → α → Prop}
    (h : ∀ {value other : α}, relation value other → value = other) {first second : Option α}
    (hrel : Option.Rel relation first second) : first = second := by
  cases hrel with
  | some hvalue => rw [h hvalue]
  | none => rfl

/-- Trees that are the same, if related tokens are. -/
def TreeRelation.same {tokens : Token → Token → Prop}
    (h : ∀ {token other : Token}, tokens token other → token = other) : TreeRelation tokens where
  inner := Eq
  outer := Eq
  fields := Eq
  innerStatement := Eq
  outerStatement := Eq
  body := Eq
  number htoken := by rw [h htoken]
  binary hleft hright := by rw [hleft, hright]
  structLiteral hdot hcontent := by rw [h hdot, hcontent]
  fields_nil := rfl
  fields_cons hname hvalue hrest := by rw [h hname, hvalue, hrest]
  declaration hname htype hvalue := by rw [h hname, htype.eq h, eq_of_rel id hvalue]
  fieldWrite hreceiver hfield hvalue := by rw [h hreceiver, h hfield, hvalue]
  structDefinition hname hcontent := by rw [h hname, hcontent]
  function hname hresult hcontent := by
    rw [h hname, eq_of_rel (Ascription.Related.eq h) hresult, hcontent]
  returns hvalue := by rw [hvalue]
  outer_of_inner := id
  body_nil := rfl
  body_cons htree hrest := by rw [htree, hrest]

namespace Correspondence

variable {m n : Type → Type} [Reads m] [Reads n] (alike : Correspondence m n)
  {α β γ δ : Type} {consumed bound : Nat} {values : α → β → Prop} {results : γ → δ → Prop}

section Actions

variable {first : m α} {second : n β} {next : α → m γ} {otherNext : β → n δ} {alike}

theorem relates.forget (h : alike.relates consumed bound values first second) :
    alike.relates 0 bound values first second :=
  alike.weaken h (Nat.zero_le _) (Nat.le_refl _) fun _ _ => id

theorem relates.fewer {fewer : Nat} (h : alike.relates consumed bound values first second)
    (hfewer : fewer ≤ bound) : alike.relates consumed fewer values first second :=
  alike.weaken h (Nat.le_refl _) hfewer fun _ _ => id

theorem relates.bind (h : alike.relates 0 bound values first second)
    (hnext : ∀ value other, values value other →
      alike.relates consumed bound results (next value) (otherNext other)) :
    alike.relates consumed bound results (first >>= next) (second >>= otherNext) := by
  have hbind := alike.bind h hnext
  rwa [Nat.zero_add] at hbind

theorem relates.bind_eq {next : α → m γ} {otherNext : α → n δ} {second : n α}
    (h : alike.relates 0 bound Eq first second)
    (hnext : ∀ value, alike.relates consumed bound results (next value) (otherNext value)) :
    alike.relates consumed bound results (first >>= next) (second >>= otherNext) := by
  refine h.bind fun value other hvalue => ?_
  subst hvalue
  exact hnext value

/-- What comes after the first token need only be related on fewer tokens. -/
theorem relates.consume (h : alike.relates 1 (bound + 1) values first second)
    (hnext : ∀ value other, values value other →
      alike.relates 0 bound results (next value) (otherNext other)) :
    alike.relates 1 (bound + 1) results (first >>= next) (second >>= otherNext) :=
  alike.bind h hnext

end Actions

theorem kind? : alike.relates 0 bound Eq kind? kind? := by
  refine alike.current?.bind fun current other hcurrent => alike.pure ?_
  cases hcurrent with
  | none => rfl
  | some htoken => exact congrArg some (alike.kind_eq htoken)

theorem advance? : alike.relates 0 bound (Option.Rel alike.tokens) advance? advance? :=
  alike.current?.bind fun _ _ hcurrent => alike.skip.bind_eq fun _ => alike.pure hcurrent

section Failures

variable {token other : Token} (htoken : alike.tokens token other)

include htoken

theorem unexpected {message : String} (hmessage : '\n' ∉ message.toList) :
    alike.relates consumed bound values (unexpected token message) (unexpected other message) := by
  refine (alike.lexeme htoken).bind ?_
  rintro text _ ⟨rfl, htext⟩
  refine alike.failAt htoken ?_ htext
  rintro _ ⟨⟩
  exact hmessage

theorem unsupported {construct : String} (hconstruct : '\n' ∉ construct.toList) :
    alike.relates consumed bound values (unsupported token construct)
      (unsupported other construct) := by
  refine alike.failAt htoken ?_ trivial
  rintro _ ⟨⟩
  exact hconstruct

end Failures

theorem expect (kind : Kind) : alike.relates 1 bound alike.tokens (expect kind) (expect kind) := by
  have hexpected : '\n' ∉ ("`" ++ kind.name ++ "`").toList := by simp [kind.newline_not_mem_name]
  refine (alike.currentOr hexpected).bind fun token other htoken => ?_
  rw [← alike.kind_eq htoken]
  split
  · exact alike.advanceOr hexpected
  · refine (alike.lexeme htoken).bind ?_
    rintro text _ ⟨rfl, htext⟩
    exact alike.failAt htoken (by rintro _ ⟨⟩) htext

end Correspondence

variable {m n : Type → Type} [Reads m] [Reads n] (alike : Correspondence m n)
  (trees : TreeRelation alike.tokens) {bound : Nat}

namespace Expr

variable {value : m Expr} {otherValue : n Expr} {fields : m (List (Token × Expr))}
  {otherFields : n (List (Token × Expr))} {expression : Power → m Expr}
  {otherExpression : Power → n Expr}

theorem readNumber_relates : alike.relates 1 (bound + 1) trees.outer readNumber readNumber := by
  refine (alike.expect _).consume fun token other htoken => (alike.lexeme htoken).bind ?_
  rintro text _ ⟨rfl, htext⟩
  cases text.int32? with
  | none => exact alike.failAt htoken (by rintro _ ⟨⟩) htext
  | some value => exact alike.pure (trees.number htoken)

theorem fieldsRound_relates (hvalue : alike.relates 0 bound trees.inner value otherValue)
    (hmore : alike.relates 0 bound trees.fields fields otherFields) :
    alike.relates 0 (bound + 1) trees.fields (fieldsRound value fields)
      (fieldsRound otherValue otherFields) := by
  refine alike.kind?.bind_eq fun kind => ?_
  split
  · exact alike.pure trees.fields_nil
  refine ((alike.expect _).consume fun name otherName hname =>
    (alike.expect _).forget.bind fun _ _ _ => hvalue.bind fun content otherContent hcontent =>
      alike.kind?.bind_eq fun next => ?_).forget
  split
  · exact alike.skip.bind_eq fun _ => hmore.bind fun _ _ hrest =>
      alike.pure (trees.fields_cons hname hcontent hrest)
  · exact alike.pure (trees.fields_cons hname hcontent trees.fields_nil)

theorem readAllFields_relates (hvalue : alike.relates 0 bound trees.inner value otherValue) :
    alike.relates 0 bound trees.fields (readAllFields value) (readAllFields otherValue) := by
  refine alike.remaining.bind_eq fun count => ?_
  induction count with
  | zero => exact (alike.currentOr (by decide)).bind fun _ _ _ => alike.pure trees.fields_nil
  | succ count ih => exact (fieldsRound_relates alike trees hvalue ih).fewer (Nat.le_succ bound)

theorem readOperand_relates (hfields : alike.relates 0 bound trees.fields fields otherFields)
    (rule : OperandRule) :
    alike.relates 1 (bound + 1) trees.outer (readOperand fields rule)
      (readOperand otherFields rule) := by
  have hrefuse : ∀ construct : String, '\n' ∉ construct.toList →
      alike.relates 1 (bound + 1) trees.outer (refuse construct) (refuse construct) :=
    fun construct hconstruct => (alike.currentOr (by decide)).bind fun _ _ htoken =>
      alike.unsupported htoken hconstruct
  cases rule with
  | number => exact readNumber_relates alike trees
  | structLiteral =>
      exact (alike.expect _).consume fun _ _ hdot => (alike.expect _).forget.bind fun _ _ _ =>
        hfields.bind fun _ _ hcontent => (alike.expect _).forget.bind fun _ _ _ =>
          alike.pure (trees.structLiteral hdot hcontent)
  | name | grouping | sign => exact hrefuse _ (by decide)

theorem readBinary_relates {left otherLeft : Expr} (hleft : trees.outer left otherLeft)
    {power : Power}
    (hexpression : alike.relates 0 bound trees.inner (expression power) (otherExpression power)) :
    alike.relates 1 (bound + 1) trees.outer (readBinary expression left power)
      (readBinary otherExpression otherLeft power) := by
  refine (alike.advanceOr (by decide)).consume fun operator otherOperator hoperator =>
    hexpression.bind fun right otherRight hright => ?_
  rw [alike.kind_eq hoperator]
  exact alike.pure (trees.binary hleft hright)

theorem operatorAbove?_relates (power : Power) :
    alike.relates 0 bound Eq (operatorAbove? power) (operatorAbove? power) := by
  refine alike.kind?.bind_eq fun kind => ?_
  cases kind with
  | none => exact alike.pure rfl
  | some kind =>
      refine alike.rules.bind ?_
      rintro rules _ ⟨rfl, -⟩
      exact alike.pure rfl

theorem operatorsRound_relates {binary : Expr → Power → m Expr}
    {otherBinary : Expr → Power → n Expr}
    {more : Expr → m Expr} {otherMore : Expr → n Expr}
    (hbinary : ∀ left otherLeft power, trees.outer left otherLeft →
      alike.relates 1 (bound + 1) trees.outer (binary left power) (otherBinary otherLeft power))
    (hmore : ∀ left otherLeft, trees.outer left otherLeft →
      alike.relates 0 bound trees.outer (more left) (otherMore otherLeft))
    (power : Power) {left otherLeft : Expr} (hleft : trees.outer left otherLeft) :
    alike.relates 0 (bound + 1) trees.outer (operatorsRound binary power more left)
      (operatorsRound otherBinary power otherMore otherLeft) := by
  refine (operatorAbove?_relates alike power).bind_eq fun operator => ?_
  cases operator with
  | none => exact alike.pure hleft
  | some operator => exact ((hbinary left otherLeft operator hleft).consume hmore).forget

theorem readAllOperators_relates
    (hexpression : ∀ power,
      alike.relates 0 bound trees.inner (expression power) (otherExpression power))
    (power : Power) {left otherLeft : Expr} (hleft : trees.outer left otherLeft) :
    alike.relates 0 (bound + 1) trees.outer (readAllOperators expression power left)
      (readAllOperators otherExpression power otherLeft) := by
  refine alike.remaining.bind_eq fun count => ?_
  induction count generalizing left otherLeft with
  | zero => exact alike.pure hleft
  | succ count ih =>
      refine operatorsRound_relates alike trees ?_ (fun left otherLeft hleft => ?_) power hleft
      · exact fun left otherLeft power hleft =>
          readBinary_relates alike trees hleft (hexpression power)
      · exact (ih hleft).fewer (Nat.le_succ bound)

theorem readChain_relates {operand : OperandRule → m Expr} {otherOperand : OperandRule → n Expr}
    {operators : Expr → m Expr} {otherOperators : Expr → n Expr}
    (hoperand : ∀ rule, alike.relates 1 (bound + 1) trees.outer (operand rule) (otherOperand rule))
    (hoperators : ∀ left otherLeft, trees.outer left otherLeft →
      alike.relates 0 bound trees.outer (operators left) (otherOperators otherLeft)) :
    alike.relates 1 (bound + 1) trees.outer (readChain operand operators)
      (readChain otherOperand otherOperators) := by
  refine (alike.currentOr (by decide)).bind fun token other htoken => alike.rules.bind ?_
  rintro rules _ ⟨rfl, -⟩
  rw [← alike.kind_eq htoken]
  cases rules.operand token.kind with
  | none => exact alike.unexpected htoken (by decide)
  | some rule => exact (hoperand rule).consume hoperators

theorem readInside_relates
    (hexpression : ∀ power,
      alike.relates 0 bound trees.inner (expression power) (otherExpression power))
    (power : Power) :
    alike.relates 1 (bound + 1) trees.outer (readInside expression power)
      (readInside otherExpression power) := by
  have hfields := readAllFields_relates alike trees (hexpression .lowest)
  refine readChain_relates alike trees (readOperand_relates alike trees hfields)
    fun left otherLeft hleft => ?_
  exact (readAllOperators_relates alike trees hexpression power hleft).fewer (Nat.le_succ bound)

end Expr

namespace Ascription

theorem read_relates : alike.relates 0 bound (Ascription.Related alike.tokens) read read := by
  refine (alike.currentOr (by decide)).bind fun token other htoken => ?_
  rw [← alike.kind_eq htoken]
  generalize token.kind = kind
  cases kind with
  | identifier =>
      refine alike.skip.bind_eq fun _ => (alike.lexeme htoken).bind ?_
      rintro name _ ⟨rfl, -⟩
      cases Primitive.ofName? name with
      | none => exact alike.pure (.named htoken)
      | some type => exact alike.pure .primitive
  | structKeyword => exact alike.unsupported htoken (by decide)
  | _ => exact alike.unexpected htoken (by decide)

theorem readDeclared_relates :
    alike.relates 0 bound (Ascription.Related alike.tokens) readDeclared readDeclared := by
  refine alike.kind?.bind_eq fun kind => ?_
  split
  · exact alike.pure .inferred
  · exact alike.pure .inferred
  · exact read_relates alike

end Ascription

namespace Stmt

variable {statement : m Stmt} {otherStatement : n Stmt} {statements : m (List Stmt)}
  {otherStatements : n (List Stmt)} {expression : m Expr} {otherExpression : n Expr}

section Loops

variable {consumed : Nat}
  (hstatement : alike.relates consumed bound trees.innerStatement statement otherStatement)

include hstatement

theorem cons_relates
    (hmore : alike.relates 0 (bound - consumed) trees.body statements otherStatements) :
    alike.relates 0 bound trees.body (do return (← statement) :: (← statements))
      (do return (← otherStatement) :: (← otherStatements)) :=
  (alike.bind hstatement fun _ _ htree => hmore.bind fun _ _ hrest =>
    alike.pure (trees.body_cons htree hrest)).forget

theorem blockRound_relates
    (hmore : alike.relates 0 (bound - consumed) trees.body statements otherStatements) :
    alike.relates 0 bound trees.body (blockRound statement statements)
      (blockRound otherStatement otherStatements) := by
  refine (alike.currentOr (by decide)).bind fun token other htoken => ?_
  rw [← alike.kind_eq htoken]
  split
  · exact alike.pure trees.body_nil
  · exact cons_relates alike trees hstatement hmore

theorem programRound_relates
    (hmore : alike.relates 0 (bound - consumed) trees.body statements otherStatements) :
    alike.relates 0 bound trees.body (programRound statement statements)
      (programRound otherStatement otherStatements) := by
  refine alike.kind?.bind_eq fun kind => ?_
  cases kind with
  | none => exact alike.pure trees.body_nil
  | some kind => exact cons_relates alike trees hstatement hmore

end Loops

theorem readAllBlockStatements_relates
    (hstatement : alike.relates 0 bound trees.innerStatement statement otherStatement) :
    alike.relates 0 bound trees.body (readAllBlockStatements statement)
      (readAllBlockStatements otherStatement) := by
  refine alike.remaining.bind_eq fun count => ?_
  induction count with
  | zero => exact (alike.currentOr (by decide)).bind fun _ _ _ => alike.pure trees.body_nil
  | succ count ih => exact blockRound_relates alike trees hstatement ih

theorem readAllStatements_relates
    (hstatement : alike.relates 0 bound trees.innerStatement statement otherStatement) :
    alike.relates 0 bound trees.body (readAllStatements statement)
      (readAllStatements otherStatement) := by
  refine alike.remaining.bind_eq fun count => ?_
  induction count with
  | zero => exact alike.pure trees.body_nil
  | succ count ih => exact programRound_relates alike trees hstatement ih

theorem readBlock_relates
    (hstatements : alike.relates 0 bound trees.body statements otherStatements) :
    alike.relates 1 bound trees.body (readBlock statements) (readBlock otherStatements) :=
  hstatements.bind fun _ _ hbody => alike.bind (alike.expect _) fun _ _ _ => alike.pure hbody

section Values

variable (hexpression : alike.relates 0 bound trees.inner expression otherExpression)

include hexpression

theorem readReturn_relates :
    alike.relates 1 (bound + 1) trees.outerStatement (readReturn expression)
      (readReturn otherExpression) :=
  (alike.expect _).consume fun _ _ _ => hexpression.bind fun _ _ hvalue =>
    (alike.expect _).forget.bind fun _ _ _ => alike.pure (trees.returns hvalue)

theorem readInitial_relates :
    alike.relates 0 bound (Option.Rel trees.inner) (readInitial expression)
      (readInitial otherExpression) := by
  refine (alike.currentOr (by decide)).bind fun token other htoken => ?_
  rw [← alike.kind_eq htoken]
  generalize token.kind = kind
  cases kind with
  | assignment =>
      exact alike.skip.bind_eq fun _ => hexpression.bind fun _ _ hvalue =>
        (alike.expect _).forget.bind fun _ _ _ => alike.pure (.some hvalue)
  | semicolon => exact alike.skip.bind_eq fun _ => alike.pure .none
  | _ => exact alike.unexpected htoken (by decide)

theorem readDeclaration_relates :
    alike.relates 1 (bound + 1) trees.outerStatement (readDeclaration expression)
      (readDeclaration otherExpression) :=
  (alike.advanceOr (by decide)).consume fun _ _ hname => (alike.expect _).forget.bind fun _ _ _ =>
    (Ascription.readDeclared_relates alike).bind fun _ _ htype =>
      (readInitial_relates alike trees hexpression).bind fun _ _ hvalue =>
        alike.pure (trees.declaration hname htype hvalue)

theorem readFieldWrite_relates :
    alike.relates 1 (bound + 1) trees.outerStatement (readFieldWrite expression)
      (readFieldWrite otherExpression) := by
  refine (alike.advanceOr (by decide)).consume fun receiver otherReceiver hreceiver =>
    (alike.expect _).forget.bind fun _ _ _ =>
      (alike.expect _).forget.bind fun field otherField hfield =>
        (alike.currentOr (by decide)).bind fun token other htoken => ?_
  rw [← alike.kind_eq htoken]
  split
  · exact alike.unsupported htoken (by decide)
  split
  · exact alike.unsupported htoken (by decide)
  split
  · exact alike.skip.bind_eq fun _ => hexpression.bind fun _ _ hvalue =>
      (alike.expect _).forget.bind fun _ _ _ =>
        alike.pure (trees.fieldWrite hreceiver hfield hvalue)
  · exact alike.unexpected htoken (by decide)

end Values

theorem readReceiver_relates : alike.relates 0 bound Eq readReceiver readReceiver := by
  refine alike.kind?.bind_eq fun kind => ?_
  split
  · exact alike.skip.bind_eq fun _ => alike.pure rfl
  · exact alike.skip.bind_eq fun _ => (alike.expect _).forget.bind fun _ _ _ => alike.pure rfl
  · exact alike.pure rfl

theorem closeParameters_relates : alike.relates 0 bound Eq closeParameters closeParameters := by
  have hclose : alike.relates 0 bound Eq (do let _ ← expect .closeParen)
      (do let _ ← expect .closeParen) :=
    (alike.expect .closeParen).forget.bind fun _ _ _ => alike.pure rfl
  refine alike.current?.bind fun current other hcurrent => ?_
  cases hcurrent with
  | none => exact hclose
  | @some token other htoken =>
      dsimp only
      rw [← alike.kind_eq htoken]
      split
      · exact alike.unsupported htoken (by decide)
      · exact hclose

theorem readResult_relates :
    alike.relates 0 bound (Option.Rel (Ascription.Related alike.tokens)) readResult readResult := by
  refine alike.kind?.bind_eq fun kind => ?_
  split
  · exact alike.skip.bind_eq fun _ => (Ascription.read_relates alike).bind fun _ _ hresult =>
      alike.pure (.some hresult)
  · exact alike.pure .none

section Statements

variable (hblock : alike.relates 0 bound trees.body statements otherStatements)

include hblock

theorem readDefinition_relates :
    alike.relates 1 (bound + 1) trees.outerStatement (readDefinition statements)
      (readDefinition otherStatements) := by
  refine (alike.advanceOr (by decide)).consume fun name otherName hname =>
    (alike.expect _).forget.bind fun _ _ _ =>
      (alike.currentOr (by decide)).bind fun token other htoken => ?_
  rw [← alike.kind_eq htoken]
  generalize token.kind = kind
  cases kind with
  | structKeyword =>
      exact alike.skip.bind_eq fun _ => (alike.expect _).forget.bind fun _ _ _ =>
        hblock.bind fun _ _ hbody => alike.pure (trees.structDefinition hname hbody)
  | openParen =>
      exact alike.skip.bind_eq fun _ => (readReceiver_relates alike).bind_eq fun _ =>
        (closeParameters_relates alike).bind_eq fun _ =>
          (readResult_relates alike).bind fun _ _ hresult =>
            (alike.expect _).forget.bind fun _ _ _ => hblock.bind fun _ _ hbody =>
              alike.pure (trees.function hname hresult hbody)
  | _ => exact alike.unexpected htoken (by decide)

variable (hexpression : alike.relates 0 bound trees.inner expression otherExpression)

include hexpression

theorem readNamed_relates :
    alike.relates 1 (bound + 1) trees.outerStatement (readNamed statements expression)
      (readNamed otherStatements otherExpression) := by
  refine (alike.peek? 1).bind_eq fun second => ?_
  split
  · exact readDeclaration_relates alike trees hexpression
  · exact readDefinition_relates alike trees hblock
  · exact readFieldWrite_relates alike trees hexpression
  · exact alike.skip.bind_eq fun _ => (alike.currentOr (by decide)).bind fun _ _ htoken =>
      alike.unexpected htoken (by decide)

/-- The rule that only asks the table again is the one that consumes nothing before its call. -/
theorem readBy_relates {rule : StatementRule}
    (hstatement : rule = .byTable →
      alike.relates 1 (bound + 1) trees.innerStatement statement otherStatement) :
    alike.relates 1 (bound + 1) trees.outerStatement (readBy statement statements expression rule)
      (readBy otherStatement otherStatements otherExpression rule) := by
  cases rule with
  | byTable =>
      exact alike.weaken (hstatement rfl) (Nat.le_refl _) (Nat.le_refl _)
        fun _ _ => trees.outer_of_inner
  | returns => exact readReturn_relates alike trees hexpression
  | named => exact readNamed_relates alike trees hblock hexpression
  | declaration => exact readDeclaration_relates alike trees hexpression
  | definition => exact readDefinition_relates alike trees hblock
  | fieldWrite => exact readFieldWrite_relates alike trees hexpression

end Statements

theorem readByTable_relates {statementBy : StatementRule → m Stmt}
    {otherBy : StatementRule → n Stmt}
    (hby : ∀ rules kind rule, alike.tables rules → rules.statement kind = some rule →
      alike.relates 1 (bound + 1) trees.outerStatement (statementBy rule) (otherBy rule)) :
    alike.relates 1 (bound + 1) trees.outerStatement (readByTable statementBy)
      (readByTable otherBy) := by
  refine (alike.currentOr (by decide)).bind fun token other htoken => alike.rules.bind ?_
  rintro rules _ ⟨rfl, htables⟩
  rw [← alike.kind_eq htoken]
  cases hrule : rules.statement token.kind with
  | none => exact alike.unexpected htoken (by decide)
  | some rule => exact hby rules token.kind rule htables hrule

theorem readInside_relates
    (hstatement : alike.relates 0 bound trees.innerStatement statement otherStatement)
    (hexpression : alike.relates 0 bound trees.inner expression otherExpression)
    (htable : ∀ rules kind, alike.tables rules → rules.statement kind = some .byTable →
      alike.relates 1 (bound + 1) trees.innerStatement statement otherStatement) :
    alike.relates 1 (bound + 1) trees.outerStatement (readInside statement expression)
      (readInside otherStatement otherExpression) := by
  have hblock := readBlock_relates alike trees
    (readAllBlockStatements_relates alike trees hstatement)
  refine readByTable_relates alike trees fun rules kind rule htables hrule => ?_
  refine readBy_relates alike trees hblock.forget hexpression ?_
  rintro rfl
  exact htable rules kind htables hrule

end Stmt

end FrontEnd
