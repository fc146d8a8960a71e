import FrontEnd.Proofs.Grammar.ExplainedExpressions

namespace FrontEnd

open Reads Reading Grammar

namespace Stmt

variable {statement : Reading Stmt} {expression : Reading Expr} {bound room : Nat}

/-- A phrase of which the first tokens are known. -/
def phraseAfter (before : List Token) : Phrase Stmt :=
  fun source tokens tree => Statement source (before ++ tokens) tree

theorem statement_productive : Productive Statement [.identifier, .colon, .semicolon] := by
  intro source tokens hsamples
  obtain ⟨name, _, rfl, hname, -, hrest⟩ := hsamples.exists_cons
  obtain ⟨colon, _, rfl, hcolon, -, hrest⟩ := hrest.exists_cons
  obtain ⟨stop, _, rfl, hstop, -, hrest⟩ := hrest.exists_cons
  obtain rfl := hrest.eq_nil
  exact ⟨_, .declaration (.inl hname) hcolon .elided .none hstop⟩

theorem repeated_productive {α : Type} (phrase : Phrase α) :
    Productive (fun source => Repeated (phrase source)) [] :=
  .of_nil fun _ => .nil

theorem readAllBlockStatements_explained (hprogressive : Progressive statement)
    (hstatement : Explained statement Statement room [.identifier, .colon, .semicolon])
    (hbound : bound ≤ room) :
    Explained (readAllBlockStatements statement) (fun source => Repeated (Statement source)) bound
      [] := by
  have hproductive := repeated_productive Statement
  induction bound with
  | zero => exact .of_productive hproductive
  | succ bound ih =>
      refine ⟨hproductive, fun head => ?_⟩
      rw [readAllBlockStatements_eq hprogressive]
      cases head with
      | none => exact .short _ hproductive (by decide) fun _ _ => rfl
      | some token =>
          by_cases hclose : token.kind = .closeCurly
          · refine .done (fun _ => .nil) fun setting tokens _ hhead => ?_
            obtain ⟨rest, rfl⟩ := List.head?_eq_some_iff.mp hhead
            exact blockRound_of_close _ hclose
          · have hmore := fun first => (ih (Nat.le_of_succ_le hbound)).bind
              (fun body => .pure (first :: body)) rfl
            have hround := ((hstatement.weaken hbound).explained (some token)).bind_of_progressive
              hprogressive hmore rfl
            refine (hround.congr ?_).mono ?_
            · intro setting tokens _ hhead
              obtain ⟨rest, rfl⟩ := List.head?_eq_some_iff.mp hhead
              exact blockRound_of_ne _ hclose
            · rintro source _ _ ⟨first, _, tree, rfl, htree, others, _, body, rfl, hbody, rfl, rfl⟩
              rw [List.append_nil]
              exact .cons htree hbody

def blockPhrase : Phrase (List Stmt) :=
  Phrase.andThen (fun source => Repeated (Statement source)) fun body =>
    .expected .closeCurly fun _ => .nothing body

theorem readBlock_explained (hprogressive : Progressive statement)
    (hstatement : Explained statement Statement room [.identifier, .colon, .semicolon]) :
    Explained (readBlock (readAllBlockStatements statement)) blockPhrase room [.closeCurly] := by
  exact (readAllBlockStatements_explained hprogressive hstatement (Nat.le_refl room)).bind
    (fun body => .expect_bind .closeCurly (fun _ _ => .pure body) (by decide)) rfl

def initialPhrase : Phrase (Option Expr) :=
  Phrase.andThen Initial fun value => .expected .semicolon fun _ => .nothing value

theorem initialPhrase_productive : Productive initialPhrase [.semicolon] := by
  have hnone : Productive Initial [] := .of_nil fun _ => .none
  exact hnone.andThen fun value => .expected fun _ _ => .nothing value

theorem readInitial_explained (hexpression : Explained expression Expression room [.number]) :
    Explained (readInitial expression) initialPhrase room [.semicolon] := by
  refine ⟨initialPhrase_productive, fun head => ?_⟩
  cases head with
  | none => exact .short _ initialPhrase_productive (by decide) fun _ _ => rfl
  | some token =>
      by_cases hequals : token.kind = .assignment
      · have hvalue := hexpression.bind (fun value => .expect_bind .semicolon
          (fun _ _ => .pure (some value)) (by decide)) rfl
        refine (ExplainedAt.consume hvalue ?_ ?_).weaken (Nat.le_succ room)
        · rintro source _ _ ⟨first, _, value, rfl, hvalue, stop, _, rfl, hstop, rfl, rfl⟩
          exact ⟨token :: first, [stop], some value, rfl, .some hequals hvalue, stop, [], rfl,
            hstop, rfl, rfl⟩
        · intro setting rest _
          simp only [readInitial, currentOr_bind_cons, hequals, skip_bind, List.tail_cons]
      by_cases hstop : token.kind = .semicolon
      · refine (ExplainedAt.consume (.pure none) ?_ ?_).weaken (Nat.le_succ room)
        · rintro source _ _ ⟨rfl, rfl⟩
          exact ⟨[], [token], none, rfl, .none, token, [], rfl, hstop, rfl, rfl⟩
        · intro setting rest _
          simp only [readInitial, currentOr_bind_cons, hstop, skip_bind, List.tail_cons]
      · refine .misplaced "expected `=` or `;` after the type" initialPhrase_productive
          (by decide) ?_
        intro setting rest _
        simp only [readInitial, currentOr_bind_cons]

theorem readDeclaration_explained (hexpression : Explained expression Expression room [.number])
    {name colon : Token} (hname : IsName name) (hcolon : colon.kind = .colon) :
    Explained (fun setting tokens => readDeclaration expression setting (name :: colon :: tokens))
      (phraseAfter [name, colon]) room [.semicolon] := by
  have hread := Ascription.readDeclared_explained.bind (fun ascription =>
    (readInitial_explained hexpression).bind
      (fun value => .pure (declaration name ascription value)) rfl) rfl
  have heq : (fun setting tokens => readDeclaration expression setting (name :: colon :: tokens)) =
      Ascription.readDeclared >>= fun ascription => readInitial expression >>= fun value =>
        Pure.pure (declaration name ascription value) := by
    funext setting tokens
    rw [readDeclaration, advanceOr_bind_cons, expect_bind_cons hcolon]
  rw [heq]
  refine hread.mono ?_
  rintro source _ _ ⟨type, _, ascription, rfl, htype, _, _, value, rfl, ⟨initial, _, _, rfl,
    hinitial, stop, _, rfl, hstop, rfl, rfl⟩, rfl, rfl⟩
  simpa [phraseAfter] using Statement.declaration hname hcolon htype hinitial hstop

theorem readReceiver_explained : Explained readReceiver (fun _ => Receives) bound [] := by
  refine ⟨.of_nil fun _ => .none, fun head => ?_⟩
  by_cases hself : ∃ token ∈ head, token.kind = .selfKeyword
  · obtain ⟨token, rfl, hkind⟩ := hself
    refine (ExplainedAt.consume (.pure (some .value)) ?_ ?_).weaken (Nat.le_succ bound)
    · rintro source _ _ ⟨rfl, rfl⟩
      exact .value hkind
    · intro setting rest _
      simp only [readReceiver, kind?_bind, List.head?_cons, Option.map_some, hkind, skip_bind,
        List.tail_cons]
  by_cases hstar : ∃ token ∈ head, token.kind = .star
  · obtain ⟨token, rfl, hkind⟩ := hstar
    refine (ExplainedAt.consume (.expect_bind .selfKeyword
      (fun _ _ => .pure (some Receiver.pointer)) (by decide)) ?_ ?_).weaken (Nat.le_succ bound)
    · rintro source _ _ ⟨receiver, _, rfl, hreceiver, rfl, rfl⟩
      exact .pointer hkind hreceiver
    · intro setting rest _
      simp only [readReceiver, kind?_bind, List.head?_cons, Option.map_some, hkind, skip_bind,
        List.tail_cons]
  · refine .done (fun _ => .none) fun setting tokens _ hhead => ?_
    subst hhead
    cases tokens with
    | nil => rfl
    | cons token tokens =>
        have hnotSelf : token.kind ≠ .selfKeyword := by simpa using hself
        have hnotStar : token.kind ≠ .star := by simpa using hstar
        simp only [readReceiver, kind?_bind, List.head?_cons, Option.map_some]
        generalize token.kind = kind at hnotSelf hnotStar
        cases kind with
        | selfKeyword => exact absurd rfl hnotSelf
        | star => exact absurd rfl hnotStar
        | _ => rfl

theorem closeParameters_explained :
    Explained closeParameters (Phrase.expected .closeParen fun _ => .nothing ()) bound
      [.closeParen] := by
  have hexpect : Explained (expect .closeParen >>= fun _ => Pure.pure ())
      (Phrase.expected .closeParen fun _ => .nothing ()) bound [.closeParen] :=
    .expect_bind .closeParen (fun _ _ => .pure ()) (by decide)
  refine ⟨hexpect.productive, fun head => ?_⟩
  by_cases hparameter : ∃ token ∈ head, token.kind = .identifier ∨ token.kind = .comma
  · obtain ⟨token, rfl, hkind⟩ := hparameter
    refine .unsupported "function parameters" hexpect.productive (by decide) ?_
    intro setting rest _
    simp only [closeParameters, current?_bind, List.head?_cons, if_pos hkind]
  · refine (hexpect.explained head).congr fun setting tokens _ hhead => ?_
    subst hhead
    cases tokens with
    | nil => rfl
    | cons token tokens =>
        have hkind : ¬(token.kind = .identifier ∨ token.kind = .comma) := by
          simpa using hparameter
        simp only [closeParameters, current?_bind, List.head?_cons, if_neg hkind]

theorem readResult_explained : Explained readResult Result bound [] := by
  refine ⟨.of_nil fun _ => .none, fun head => ?_⟩
  by_cases harrow : ∃ token ∈ head, token.kind = .arrow
  · obtain ⟨token, rfl, hkind⟩ := harrow
    refine (ExplainedAt.consume (Ascription.read_explained.bind
      (fun ascription => .pure (some ascription)) rfl) ?_ ?_).weaken (Nat.le_succ bound)
    · rintro source _ _ ⟨type, _, ascription, rfl, htype, rfl, rfl⟩
      rw [List.append_nil]
      exact .some hkind htype
    · intro setting rest _
      simp only [readResult, kind?_bind, List.head?_cons, Option.map_some, hkind, if_true,
        skip_bind, List.tail_cons]
  · refine .done (fun _ => .none) fun setting tokens _ hhead => ?_
    have hkind : tokens.head?.map Token.kind ≠ some .arrow := by
      rw [hhead]
      simpa using harrow
    simp only [readResult, kind?_bind, if_neg hkind, pure_apply]

section Definition

variable (hprogressive : Progressive statement)
  (hstatement : Explained statement Statement room [.identifier, .colon, .semicolon])
  {name colons : Token} (hname : IsName name) (hcolons : colons.kind = .colonColon)

include hprogressive hstatement hname hcolons

theorem readDefinition_explainedAt_struct {token : Token}
    (hstruct : token.kind = .structKeyword) :
    ExplainedAt (fun setting tokens => readDefinition
        (readBlock (readAllBlockStatements statement)) setting (name :: colons :: tokens))
      (phraseAfter [name, colons]) room (some token) := by
  have hbody := (readBlock_explained hprogressive hstatement).bind
    (fun body => .pure (structDefinition name body)) rfl
  refine (ExplainedAt.consume (.expect_bind .openCurly (fun _ _ => hbody) (by decide))
    ?_ ?_).weaken (Nat.le_succ room)
  · rintro source _ _ ⟨opening, _, rfl, hopening, _, _, body, rfl, ⟨inside, _, _, rfl, hinside,
      closing, _, rfl, hclosing, rfl, rfl⟩, rfl, rfl⟩
    rw [List.append_nil]
    exact .structDefinition hname hcolons hstruct hopening hinside hclosing
  · intro setting tokens _
    simp only [readDefinition, advanceOr_bind_cons, expect_bind_cons hcolons, currentOr_bind_cons,
      hstruct, skip_bind, List.tail_cons]

theorem readDefinition_explainedAt_function {token : Token}
    (hfunction : token.kind = .openParen) :
    ExplainedAt (fun setting tokens => readDefinition
        (readBlock (readAllBlockStatements statement)) setting (name :: colons :: tokens))
      (phraseAfter [name, colons]) room (some token) := by
  have hbody := fun receiver result => (readBlock_explained hprogressive hstatement).bind
    (fun body => .pure (function name receiver result body)) rfl
  have hparts := readReceiver_explained.bind (fun receiver =>
    closeParameters_explained.bind (fun _ => readResult_explained.bind (fun result =>
      .expect_bind .openCurly (fun _ _ => hbody receiver result) (by decide)) rfl) rfl) rfl
  refine (ExplainedAt.consume hparts ?_ ?_).weaken (Nat.le_succ room)
  · rintro source _ _ ⟨parameters, _, receiver, rfl, hreceives, _, _, _, rfl,
      ⟨closeParen, _, rfl, hclose, rfl, -⟩, output, _, result, rfl, hresult, opening, _, rfl,
      hopening, _, _, body, rfl, ⟨inside, _, _, rfl, hinside, closing, _, rfl, hclosing, rfl, rfl⟩,
      rfl, rfl⟩
    rw [List.append_nil]
    exact .function hname hcolons hfunction hreceives hclose hresult hopening hinside hclosing
  · intro setting tokens _
    simp only [readDefinition, advanceOr_bind_cons, expect_bind_cons hcolons, currentOr_bind_cons,
      hfunction, skip_bind, List.tail_cons]

theorem readDefinition_explained :
    Explained (fun setting tokens => readDefinition
        (readBlock (readAllBlockStatements statement)) setting (name :: colons :: tokens))
      (phraseAfter [name, colons]) room [.structKeyword, .openCurly, .closeCurly] := by
  have hproductive : Productive (phraseAfter [name, colons])
      [.structKeyword, .openCurly, .closeCurly] := by
    intro source tokens hsamples
    obtain ⟨keyword, _, rfl, hkeyword, -, hrest⟩ := hsamples.exists_cons
    obtain ⟨opening, _, rfl, hopening, -, hrest⟩ := hrest.exists_cons
    obtain ⟨closing, _, rfl, hclosing, -, hrest⟩ := hrest.exists_cons
    obtain rfl := hrest.eq_nil
    exact ⟨_, .structDefinition hname hcolons hkeyword hopening .nil hclosing⟩
  refine ⟨hproductive, fun head => ?_⟩
  cases head with
  | none =>
      refine .short "`struct` or `(`" hproductive (by decide) fun setting _ => ?_
      rw [readDefinition, advanceOr_bind_cons, expect_bind_cons hcolons, currentOr_bind_nil]
  | some token =>
      by_cases hstruct : token.kind = .structKeyword
      · exact readDefinition_explainedAt_struct hprogressive hstatement hname hcolons hstruct
      by_cases hfunction : token.kind = .openParen
      · exact readDefinition_explainedAt_function hprogressive hstatement hname hcolons hfunction
      · refine .misplaced "expected `struct` or `(` after `::`" hproductive (by decide) ?_
        intro setting tokens _
        simp only [readDefinition, advanceOr_bind_cons, expect_bind_cons hcolons,
          currentOr_bind_cons]

end Definition

theorem isAssignment_iff (kind : Kind) :
    kind.isAssignment ↔ kind ∈ [.assignment, .plusEquals, .minusEquals] := by
  cases kind <;> decide

section FieldWrite

variable (hexpression : Explained expression Expression room [.number])
  {receiver dot : Token} (hreceiver : IsName receiver) (hdot : dot.kind = .dot)

include hexpression hreceiver hdot

theorem readFieldWrite_explained_field {field : Token} (hfield : field.kind = .identifier) :
    Explained
      (fun setting tokens =>
        readFieldWrite expression setting (receiver :: dot :: field :: tokens))
      (phraseAfter [receiver, dot, field]) room [.assignment, .number, .semicolon] := by
  have hproductive : Productive (phraseAfter [receiver, dot, field])
      [.assignment, .number, .semicolon] := by
    intro source tokens hsamples
    obtain ⟨operator, _, rfl, hoperator, -, hrest⟩ := hsamples.exists_cons
    obtain ⟨number, _, rfl, hnumber, hlexeme, hrest⟩ := hrest.exists_cons
    obtain ⟨stop, _, rfl, hstop, -, hrest⟩ := hrest.exists_cons
    obtain rfl := hrest.eq_nil
    have hvalue := expression_of_atom
      (.number hnumber hlexeme (Kind.spells_sample .number) (by decide))
    exact ⟨_, .fieldWrite hreceiver hdot hfield (by simp [hoperator]) hvalue hstop⟩
  refine ⟨hproductive, fun head => ?_⟩
  cases head with
  | none =>
      refine .short "an assignment operator" hproductive (by decide) fun setting _ => ?_
      rw [readFieldWrite, advanceOr_bind_cons, expect_bind_cons hdot, expect_bind_cons hfield,
        currentOr_bind_nil]
  | some token =>
      by_cases hreference : token.kind = .colonColon
      · refine .unsupported "method reference" hproductive (by decide) ?_
        intro setting tokens _
        simp only [readFieldWrite, advanceOr_bind_cons, expect_bind_cons hdot,
          expect_bind_cons hfield, currentOr_bind_cons, if_pos hreference]
      by_cases hcall : token.kind = .openParen
      · refine .unsupported "method call" hproductive (by decide) ?_
        intro setting tokens _
        simp only [readFieldWrite, advanceOr_bind_cons, expect_bind_cons hdot,
          expect_bind_cons hfield, currentOr_bind_cons, if_neg hreference, if_pos hcall]
      by_cases hassigns : token.kind.isAssignment
      · have hvalue := hexpression.bind (fun value => .expect_bind .semicolon
          (fun _ _ => .pure (fieldWrite receiver field token.kind value)) (by decide)) rfl
        refine (ExplainedAt.consume hvalue ?_ ?_).weaken (Nat.le_succ room)
        · rintro source _ _ ⟨tokens, _, value, rfl, hvalue, stop, _, rfl, hstop, rfl, rfl⟩
          exact .fieldWrite hreceiver hdot hfield ((isAssignment_iff token.kind).mp hassigns)
            hvalue hstop
        · intro setting tokens _
          simp only [readFieldWrite, advanceOr_bind_cons, expect_bind_cons hdot,
            expect_bind_cons hfield, currentOr_bind_cons, if_neg hreference, if_neg hcall,
            if_pos hassigns, skip_bind, List.tail_cons]
      · refine .misplaced "expected an assignment operator after the field" hproductive
          (by decide) ?_
        intro setting tokens _
        simp only [readFieldWrite, advanceOr_bind_cons, expect_bind_cons hdot,
          expect_bind_cons hfield, currentOr_bind_cons, if_neg hreference, if_neg hcall,
          if_neg hassigns]

theorem readFieldWrite_explained :
    Explained (fun setting tokens => readFieldWrite expression setting (receiver :: dot :: tokens))
      (phraseAfter [receiver, dot]) room [.identifier, .assignment, .number, .semicolon] := by
  have heq : (fun setting tokens => readFieldWrite expression setting (receiver :: dot :: tokens)) =
      (expect .identifier : Reading Token) >>= fun field setting tokens =>
        readFieldWrite expression setting (receiver :: dot :: field :: tokens) := by
    funext setting tokens
    rw [readFieldWrite, advanceOr_bind_cons, expect_bind_cons hdot]
    refine bind_congr fun field rest hfield => ?_
    rw [advanceOr_bind_cons, expect_bind_cons hdot, expect_bind_cons (expect_eq_ok_iff.mp hfield).1]
  rw [heq]
  refine (Explained.expect_bind .identifier (fun _ hfield =>
    readFieldWrite_explained_field hexpression hreceiver hdot hfield) (by decide)).mono ?_
  rintro source _ _ ⟨field, _, rfl, -, htree⟩
  exact htree

end FieldWrite

theorem readNamed_of_other {block : Reading (List Stmt)} {setting : Setting}
    {name second : Token} {tokens : List Token}
    (hcolon : second.kind ≠ .colon) (hcolons : second.kind ≠ .colonColon)
    (hdot : second.kind ≠ .dot) :
    readNamed block expression setting (name :: second :: tokens) =
      (unexpected second "expected `:`, `::` or `.` after identifier" : Reading Stmt) setting
        (second :: tokens) := by
  simp only [readNamed, peek?_bind, List.getElem?_cons_succ, List.getElem?_cons_zero,
    Option.map_some]
  generalize second.kind = kind at hcolon hcolons hdot
  cases kind with
  | colon => exact absurd rfl hcolon
  | colonColon => exact absurd rfl hcolons
  | dot => exact absurd rfl hdot
  | _ => rfl

theorem readNamed_explained (hprogressive : Progressive statement)
    (hstatement : Explained statement Statement room [.identifier, .colon, .semicolon])
    (hexpression : Explained expression Expression room [.number]) {name : Token}
    (hname : IsName name) :
    Explained (fun setting tokens =>
        readNamed (readBlock (readAllBlockStatements statement)) expression setting
          (name :: tokens))
      (phraseAfter [name]) room [.colon, .semicolon] := by
  have hproductive : Productive (phraseAfter [name]) [.colon, .semicolon] := by
    intro source tokens hsamples
    obtain ⟨colon, rest, rfl, hcolon, -, hrest⟩ := hsamples.exists_cons
    exact (readDeclaration_explained hexpression hname hcolon).productive source rest hrest
  refine ⟨hproductive, fun head => ?_⟩
  cases head with
  | none => exact .short _ hproductive (by decide) fun _ _ => rfl
  | some second =>
      by_cases hcolon : second.kind = .colon
      · refine (ExplainedAt.consume (readDeclaration_explained hexpression hname hcolon)
          (fun _ _ _ h => h) ?_).weaken (Nat.le_succ room)
        intro setting tokens _
        exact readNamed_of_colon hcolon
      by_cases hcolons : second.kind = .colonColon
      · refine (ExplainedAt.consume
          (readDefinition_explained hprogressive hstatement hname hcolons)
          (fun _ _ _ h => h) ?_).weaken (Nat.le_succ room)
        intro setting tokens _
        exact readNamed_of_colonColon hcolons
      by_cases hdot : second.kind = .dot
      · refine (ExplainedAt.consume (readFieldWrite_explained hexpression hname hdot)
          (fun _ _ _ h => h) ?_).weaken (Nat.le_succ room)
        intro setting tokens _
        exact readNamed_of_dot hdot
      · refine .misplaced "expected `:`, `::` or `.` after identifier" hproductive (by decide) ?_
        intro setting tokens _
        exact readNamed_of_other hcolon hcolons hdot

theorem readInside_explained (hprogressive : Progressive statement)
    (hstatement : Explained statement Statement room [.identifier, .colon, .semicolon])
    (hexpression : Explained expression Expression room [.number]) :
    Explained (readInside statement expression) Statement (room + 1)
      [.identifier, .colon, .semicolon] := by
  refine ⟨statement_productive, fun head => ?_⟩
  cases head with
  | none => exact .short _ statement_productive (by decide) fun _ _ => rfl
  | some token =>
      by_cases hkeyword : token.kind = .returnKeyword
      · have hvalue := hexpression.bind (fun value => .expect_bind .semicolon
          (fun _ _ => .pure (returns value)) (by decide)) rfl
        refine .consume hvalue ?_ ?_
        · rintro source _ _ ⟨tokens, _, value, rfl, hvalue, stop, _, rfl, hstop, rfl, rfl⟩
          exact .returns hkeyword hvalue hstop
        · intro setting rest hrules
          rw [readInside_of_returnKeyword hrules hkeyword, readReturn, expect_bind_cons hkeyword]
      by_cases hname : IsName token
      · exact .consume (readNamed_explained hprogressive hstatement hexpression hname)
          (fun _ _ _ h => h) fun setting rest hrules => readInside_of_name hrules hname rest
      · refine .misplaced "expected a statement" statement_productive (by decide) ?_
        intro setting rest hrules
        have hrule : setting.rules.statement token.kind = none := by
          rw [hrules]
          rw [IsName] at hname
          generalize token.kind = kind at hkeyword hname
          cases kind with
          | returnKeyword => exact absurd rfl hkeyword
          | identifier => exact absurd (.inl rfl) hname
          | selfKeyword => exact absurd (.inr rfl) hname
          | _ => rfl
        simp only [readInside, readByTable, currentOr_bind_cons, rules_bind, hrule]

theorem read_explained (room : Nat) :
    Explained (read room) Statement room [.identifier, .colon, .semicolon] := by
  induction room with
  | zero => exact .of_productive statement_productive
  | succ room ih =>
      exact (readInside_explained (read_progressive room) ih
        (Expr.read_explained room .lowest)).inLevel

theorem readAllStatements_explained (hprogressive : Progressive statement)
    (hstatement : Explained statement Statement room [.identifier, .colon, .semicolon])
    (hbound : bound ≤ room) :
    Explained (readAllStatements statement) Program bound [] := by
  have hproductive := repeated_productive Statement
  induction bound with
  | zero => exact .of_productive hproductive
  | succ bound ih =>
      refine ⟨hproductive, fun head => ?_⟩
      rw [readAllStatements_eq hprogressive]
      cases head with
      | none =>
          refine .done (fun _ => .nil) fun setting tokens _ hhead => ?_
          simp only [programRound, kind?_bind, hhead, Option.map_none, pure_apply]
      | some token =>
          have hmore := fun first => (ih (Nat.le_of_succ_le hbound)).bind
            (fun program => .pure (first :: program)) rfl
          have hround := ((hstatement.weaken hbound).explained (some token)).bind_of_progressive
            hprogressive hmore rfl
          refine (hround.congr ?_).mono ?_
          · intro setting tokens _ hhead
            simp only [programRound, kind?_bind, hhead, Option.map_some]
          · rintro source _ _ ⟨first, _, tree, rfl, htree, others, _, program, rfl, hprogram, rfl,
              rfl⟩
            rw [List.append_nil]
            exact .cons htree hprogram

end Stmt

end FrontEnd
