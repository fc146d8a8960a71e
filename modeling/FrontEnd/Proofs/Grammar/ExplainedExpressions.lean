import FrontEnd.Proofs.Grammar.Acceptance
import FrontEnd.Proofs.Grammar.Explanation

namespace FrontEnd

open Reads Reading Grammar

theorem atom_productive : Productive Atom [.number] := by
  intro source tokens hsamples
  obtain ⟨token, _, rfl, hkind, hlexeme, hrest⟩ := hsamples.exists_cons
  obtain rfl := hrest.eq_nil
  exact ⟨_, .number hkind hlexeme (Kind.spells_sample .number) (by decide)⟩

theorem expression_of_atom {source : Text} {tokens : List Token} {operand : Expr}
    (h : Atom source tokens operand) : Expression source tokens operand := by
  have hchain : Expression source (tokens ++ []) operand := .chain h .nil
  rwa [List.append_nil] at hchain

theorem writtenType_productive : Productive WrittenType [.identifier] := by
  intro source tokens hsamples
  obtain ⟨token, _, rfl, hkind, hlexeme, hrest⟩ := hsamples.exists_cons
  obtain rfl := hrest.eq_nil
  exact ⟨_, .named hkind hlexeme (by decide)⟩

namespace Ascription

variable {bound : Nat}

theorem exists_writtenType {source : Text} {token : Token} {lexeme : Text}
    (hkind : token.kind = .identifier) (hlexeme : token.lexeme? source = some lexeme) :
    ∃ ascription, ∀ other, SpelledAlike source other [token] →
      WrittenType other [token] ascription := by
  by_cases hi32 : lexeme = "i32".toList
  · refine ⟨.primitive .i32, fun other halike => .primitive hkind ?_⟩
    rw [halike token List.mem_cons_self, hlexeme, hi32]
  · refine ⟨.named token, fun other halike => .named hkind ?_ hi32⟩
    rw [halike token List.mem_cons_self, hlexeme]

theorem read_explained : Explained read WrittenType bound [.identifier] := by
  refine ⟨writtenType_productive, fun head => ?_⟩
  cases head with
  | none => exact .short _ writtenType_productive (by decide) fun _ _ => rfl
  | some token =>
      by_cases hname : token.kind = .identifier
      · intro setting tokens hreadable hhead
        obtain ⟨rest, rfl⟩ := List.head?_eq_some_iff.mp hhead
        obtain ⟨lexeme, hlexeme, -⟩ := hreadable.spelled token List.mem_cons_self
        obtain ⟨ascription, hwritten⟩ := exists_writtenType hname hlexeme
        have hread := read_of_written (hwritten setting.source (.refl _ _)) rest
        rw [List.singleton_append] at hread
        rw [hread]
        refine .accepted List.singleton_append.symm hwritten ?_
        intro other following _ halike _
        exact read_of_written (hwritten other.source halike) following
      by_cases hstruct : token.kind = .structKeyword
      · refine .unsupported "anonymous struct type" writtenType_productive (by decide) ?_
        intro setting rest _
        simp only [read, currentOr_bind_cons, hstruct]
      · refine .misplaced "expected a type" writtenType_productive (by decide) ?_
        intro setting rest _
        simp only [read, currentOr_bind_cons]

theorem readDeclared_explained : Explained readDeclared DeclaredType bound [] := by
  have hproductive : Productive DeclaredType [] := .of_nil fun _ => .elided
  refine ⟨hproductive, fun head => ?_⟩
  by_cases helided : ∃ token ∈ head, token.kind = .assignment ∨ token.kind = .semicolon
  · obtain ⟨token, rfl, hkind⟩ := helided
    refine .done (fun source => .elided) fun setting tokens _ hhead => ?_
    rcases hkind with hkind | hkind <;> simp [readDeclared, hhead, hkind]
  · refine ((read_explained.explained head).congr fun setting tokens _ hhead => ?_).mono
      fun source tokens value h => .written h
    subst hhead
    cases tokens with
    | nil => rfl
    | cons token tokens =>
        obtain ⟨hassignment, hsemicolon⟩ : token.kind ≠ .assignment ∧ token.kind ≠ .semicolon := by
          simpa using helided
        simp only [readDeclared, kind?_bind, List.head?_cons, Option.map_some]
        generalize token.kind = kind at hassignment hsemicolon
        cases kind with
        | assignment => exact absurd rfl hassignment
        | semicolon => exact absurd rfl hsemicolon
        | _ => rfl

end Ascription

namespace Expr

variable {value : Reading Expr} {bound room : Nat}

theorem readNumber_explained {token : Token} (hkind : token.kind = .number) :
    ExplainedAt readNumber Atom bound (some token) := by
  intro setting tokens hreadable hhead
  obtain ⟨rest, rfl⟩ := List.head?_eq_some_iff.mp hhead
  obtain ⟨lexeme, hlexeme, hspells⟩ := hreadable.spelled token List.mem_cons_self
  have hnumeral : Scan.IsNumeral lexeme := by rwa [hkind] at hspells
  have hlexemes : ∀ other, SpelledAlike setting.source other [token] →
      token.lexeme? other = some lexeme :=
    fun other halike => (halike token List.mem_cons_self).trans hlexeme
  by_cases hfits : decimal lexeme ≤ 2 ^ 31 - 1
  · rw [readNumber_of_numeral hkind hlexeme hnumeral hfits]
    refine .accepted List.singleton_append.symm ?_ ?_
    · exact fun other halike => .number hkind (hlexemes other halike) hnumeral hfits
    · exact fun other following _ halike _ =>
        readNumber_of_numeral hkind (hlexemes other.source halike) hnumeral hfits following
  · have hread : ∀ (other : Setting) following, token.lexeme? other.source = some lexeme →
        (readNumber : Reading Expr) other (token :: following) =
          .error ⟨.numberOutOfRange lexeme, token.line, some token.span⟩ following := by
      intro other following hother
      simp only [readNumber, expect_bind_cons hkind, lexeme_bind hother,
        int32?_of_isNumeral hnumeral, if_neg hfits, failAt_apply]
    rw [hread setting rest hlexeme]
    refine .refused (List.nil_append _).symm (by simp)
      (atom_productive.completes (by decide) setting.source) ?_
    exact fun other following _ halike => ⟨_, hread other following (hlexemes other.source halike)⟩

theorem fields_productive : Productive (fun source => Fields (Expression source)) [] :=
  .of_nil fun _ => .none

/-- What may stand after a field: nothing, or a comma and fields again. -/
inductive AfterField (name : Token) (content : Expr) (source : Text) :
    List Token → List (Token × Expr) → Prop
  | last : AfterField name content source [] [(name, content)]
  | more {comma : Token} {rest : List Token} {fields : List (Token × Expr)} :
      comma.kind = .comma → Fields (Expression source) rest fields →
        AfterField name content source (comma :: rest) ((name, content) :: fields)

theorem afterField_explained {more : Reading (List (Token × Expr))} (name : Token) (content : Expr)
    (hmore : Explained more (fun source => Fields (Expression source)) bound []) :
    Explained (afterField more name content) (AfterField name content) bound [] := by
  refine ⟨.of_nil fun _ => .last, fun head => ?_⟩
  by_cases hcomma : ∃ token ∈ head, token.kind = .comma
  · obtain ⟨token, rfl, hkind⟩ := hcomma
    have hrest := hmore.bind (fun fields => .pure ((name, content) :: fields)) rfl
    refine (ExplainedAt.consume hrest ?_ ?_).weaken (Nat.le_succ bound)
    · rintro source tokens fields ⟨first, _, others, rfl, hfields, rfl, rfl⟩
      rw [List.append_nil]
      exact .more hkind hfields
    · intro setting rest _
      simp only [afterField, kind?_bind, List.head?_cons, Option.map_some, hkind, if_true,
        skip_bind, List.tail_cons]
  · refine .done (fun source => .last) fun setting tokens _ hhead => ?_
    have hkind : tokens.head?.map Token.kind ≠ some .comma := by
      rw [hhead]
      simpa using hcomma
    simp only [afterField, kind?_bind, if_neg hkind, pure_apply]

theorem readAllFields_explained (hforward : Forward value)
    (hvalue : Explained value Expression room [.number]) (hbound : bound ≤ room) :
    Explained (readAllFields value) (fun source => Fields (Expression source)) bound [] := by
  -- By induction on the number of tokens: the name of a field is consumed, so what follows it,
  -- the fields after the comma included, is explained on fewer.
  induction bound with
  | zero => exact .of_productive fields_productive
  | succ bound ih =>
      refine ⟨fields_productive, fun head => ?_⟩
      rw [readAllFields_eq hforward]
      cases head with
      | none => exact .short _ fields_productive (by decide) fun _ _ => rfl
      | some token =>
          by_cases hclose : token.kind = .closeCurly
          · refine .done (fun source => .none) fun setting tokens _ hhead => ?_
            simp [fieldsRound, hhead, hclose]
          by_cases hname : token.kind = .identifier
          · have hbelow : bound ≤ room := Nat.le_of_succ_le hbound
            have hrest := (hvalue.weaken hbelow).bind
              (fun content => afterField_explained token content (ih hbelow)) rfl
            refine .consume (.expect_bind .assignment (fun _ _ => hrest) (by decide)) ?_ ?_
            · rintro source rest fields ⟨equals, _, rfl, hequals, tokens, others, content, rfl,
                hcontent, hafter⟩
              have hfield : Field (Expression source) (token :: equals :: tokens)
                (token, content) := .mk hname hequals hcontent
              cases hafter with
              | last => simpa using Fields.some hfield .nil .none
              | more hcomma hmore => exact .cons hfield hcomma hmore
            · intro setting rest _
              simp [fieldsRound, hname]
          · refine .refused (.unexpectedToken .identifier ·) fields_productive (by decide)
              (by simp) ?_
            intro setting rest lexeme _ hlexeme
            simp [fieldsRound, hclose, bind_of_error (expect_cons_of_ne hname hlexeme)]

theorem readStructLiteral_explained (hforward : Forward value)
    (hvalue : Explained value Expression room [.number]) {token : Token}
    (hkind : token.kind = .dot) :
    ExplainedAt (readStructLiteral (readAllFields value)) Atom (room + 1) (some token) := by
  have hfields := (readAllFields_explained hforward hvalue (Nat.le_refl room)).bind
    (fun fields => .expect_bind .closeCurly (fun _ _ => .pure (structLiteral token fields))
      (by decide)) rfl
  refine .consume (.expect_bind .openCurly (fun _ _ => hfields) (by decide)) ?_ ?_
  · rintro source _ tree ⟨opening, _, rfl, hopening, inside, _, fields, rfl, hinside, closing, _,
      rfl, hclosing, rfl, rfl⟩
    exact .structLiteral hkind hopening hinside hclosing
  · intro setting rest _
    rw [readStructLiteral, expect_bind_cons hkind]

/-- The phrases that are read at a power. -/
def phraseAt : Power → Phrase Expr
  | .lowest => Expression
  | .additive => Atom

theorem phraseAt_of_atom {power : Power} {source : Text} {tokens : List Token} {operand : Expr}
    (h : Atom source tokens operand) : phraseAt power source tokens operand := by
  cases power with
  | lowest => exact expression_of_atom h
  | additive => exact h

/-- What may stand after an operand, joined to it. -/
def operationsAt (power : Power) (left : Expr) : Phrase Expr :=
  fun source tokens tree =>
    match power with
    | .lowest => ∃ operations, Repeated (Operation (Atom source)) tokens operations ∧
        tree = joinLeft left operations
    | .additive => tokens = [] ∧ tree = left

theorem operationsAt_nil (power : Power) (left : Expr) (source : Text) :
    operationsAt power left source [] left := by
  cases power with
  | lowest => exact ⟨[], .nil, rfl⟩
  | additive => exact ⟨rfl, rfl⟩

theorem operationsAt_productive (power : Power) (left : Expr) :
    Productive (operationsAt power left) [] :=
  .of_nil (operationsAt_nil power left)

theorem readAllOperators_explained
    (hoperand : Explained (read room .additive) Atom room [.number]) (power : Power) (left : Expr)
    (hbound : bound ≤ room + 1) :
    Explained (readAllOperators (read room) power left) (operationsAt power left) bound [] := by
  induction bound generalizing left with
  | zero => exact .of_productive (operationsAt_productive power left)
  | succ bound ih =>
      refine ⟨operationsAt_productive power left, fun head => ?_⟩
      cases power with
      | additive =>
          refine .done (operationsAt_nil _ left) fun setting tokens hrules _ => ?_
          exact readAllOperators_additive hrules (read_forward room) left tokens
      | lowest =>
          by_cases hsign : ∃ sign ∈ head, sign.kind = .plus ∨ sign.kind = .dash
          · obtain ⟨sign, rfl, hkind⟩ := hsign
            have hrest := (hoperand.weaken (Nat.le_of_succ_le_succ hbound)).bind
              (fun right => ih (.binary left sign.kind right) (Nat.le_of_succ_le hbound)) rfl
            refine .consume hrest ?_ ?_
            · rintro source _ tree ⟨first, others, right, rfl, hright, operations, hoperations, rfl⟩
              exact ⟨_, .cons (.mk hkind hright) hoperations, rfl⟩
            · intro setting rest hrules
              exact readAllOperators_of_sign hrules (read_forward room) left hkind rest
          · refine .done (operationsAt_nil _ left) fun setting tokens hrules hhead => ?_
            refine readAllOperators_of_ends hrules (read_forward room) left .lowest ?_
            intro token htoken
            rw [hhead] at htoken
            exact not_or.mp fun hkind => hsign ⟨token, htoken, hkind⟩

theorem phraseAt_productive (power : Power) : Productive (phraseAt power) [.number] :=
  atom_productive.mono fun _ _ _ => phraseAt_of_atom

theorem phraseAt_of_operations {power : Power} (source : Text) (tokens : List Token) (tree : Expr)
    (h : Phrase.andThen Atom (operationsAt power) source tokens tree) :
    phraseAt power source tokens tree := by
  obtain ⟨first, rest, operand, rfl, hoperand, hoperations⟩ := h
  cases power with
  | lowest =>
      obtain ⟨operations, hrest, rfl⟩ := hoperations
      exact .chain hoperand hrest
  | additive =>
      obtain ⟨rfl, rfl⟩ := hoperations
      rwa [List.append_nil]

theorem standard_operand_cases {kind : Kind} {rule : OperandRule}
    (h : Rules.standard.operand kind = some rule) :
    rule = .number ∧ kind = .number ∨ rule = .structLiteral ∧ kind = .dot ∨
      ∃ construct, ∀ fields : Reading (List (Token × Expr)),
        readOperand fields rule = refuse construct := by
  cases rule with
  | number =>
      cases kind with
      | number => exact .inl ⟨rfl, rfl⟩
      | _ => cases h
  | structLiteral =>
      cases kind with
      | dot => exact .inr (.inl ⟨rfl, rfl⟩)
      | _ => cases h
  | name | grouping | sign => exact .inr (.inr ⟨_, fun _ => rfl⟩)

theorem readInside_explained (hvalue : Explained (read room .lowest) Expression room [.number])
    (hoperand : Explained (read room .additive) Atom room [.number]) (power : Power) :
    Explained (readInside (read room) power) (phraseAt power) (room + 1) [.number] := by
  have hproductive := phraseAt_productive power
  refine ⟨hproductive, fun head => ?_⟩
  cases head with
  | none => exact .short _ hproductive (by decide) fun _ _ => rfl
  | some token =>
      cases hrule : Rules.standard.operand token.kind with
      | none =>
          refine .misplaced "expected an expression" hproductive (by decide) ?_
          intro setting rest hrules
          simp only [readInside, readChain, currentOr_bind_cons, rules_bind, hrules, hrule]
      | some rule =>
          have hread : ∀ (setting : Setting) tokens, setting.rules = .standard →
              tokens.head? = some token → readInside (read room) power setting tokens =
                (readOperand (readAllFields (read room .lowest)) rule >>=
                  readAllOperators (read room) power) setting tokens := by
            intro setting tokens hrules hhead
            obtain ⟨rest, rfl⟩ := List.head?_eq_some_iff.mp hhead
            simp only [readInside, readChain, currentOr_bind_cons, rules_bind, hrules, hrule]
          have hoperators := fun left =>
            readAllOperators_explained hoperand power left (Nat.le_refl (room + 1))
          rcases standard_operand_cases hrule with
            ⟨rfl, hkind⟩ | ⟨rfl, hkind⟩ | ⟨construct, hrefuse⟩
          · exact (((readNumber_explained hkind).bind hoperators rfl).congr hread).mono
              phraseAt_of_operations
          · exact (((readStructLiteral_explained (read_forward room .lowest) hvalue hkind).bind
              hoperators rfl).congr hread).mono phraseAt_of_operations
          · refine .unsupported construct hproductive (by decide) ?_
            intro setting rest hrules
            rw [hread setting _ hrules rfl, hrefuse]
            rfl

theorem read_explained (room : Nat) (power : Power) :
    Explained (read room power) (phraseAt power) room [.number] := by
  induction room generalizing power with
  | zero => exact .of_productive (phraseAt_productive power)
  | succ room ih => exact (readInside_explained (ih .lowest) (ih .additive) power).inLevel

end Expr

end FrontEnd
