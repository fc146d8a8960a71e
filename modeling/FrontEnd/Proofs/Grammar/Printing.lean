import FrontEnd.Proofs.Grammar.Need
import FrontEnd.Proofs.Scan.Continuation
import FrontEnd.Proofs.Tree.Print

namespace FrontEnd

open Grammar

theorem lexeme?_of_kind {source : Text} {token : Token} {kind : Kind} (hkind : token.kind = kind)
    (hfixed : kind.spelling?.isSome)
    (h : ∃ lexeme, token.lexeme? source = some lexeme ∧ token.kind.Spells lexeme) :
    token.lexeme? source = kind.spelling? := by
  obtain ⟨lexeme, hlexeme, hspells⟩ := h
  rw [hkind] at hspells
  rw [hlexeme]
  cases kind
  case number => cases hfixed
  case identifier => cases hfixed
  all_goals exact hspells.symm

/-- Tokens that are spelled as their kinds allow, and by the given words. -/
structure Prints (source : Text) (tokens : List Token) (words : List (Option Text)) : Prop where
  spelled : Spelled source tokens
  lexemes : tokens.map (fun token => token.lexeme? source) = words

namespace Prints

variable {source : Text} {tokens others : List Token} {words more : List (Option Text)}
  {token : Token}

theorem nil : Prints source [] [] :=
  ⟨List.forall_mem_nil _, rfl⟩

theorem held
    (htoken : ∃ lexeme, token.lexeme? source = some lexeme ∧ token.kind.Spells lexeme)
    (h : Prints source tokens words) :
    Prints source (token :: tokens) (token.lexeme? source :: words) := by
  refine ⟨spelled_cons.mpr ⟨htoken, h.spelled⟩, ?_⟩
  rw [List.map_cons, h.lexemes]

theorem fixed {kind : Kind} (hkind : token.kind = kind) (hfixed : kind.spelling?.isSome)
    (htoken : ∃ lexeme, token.lexeme? source = some lexeme ∧ token.kind.Spells lexeme)
    (h : Prints source tokens words) :
    Prints source (token :: tokens) (kind.spelling? :: words) := by
  rw [← lexeme?_of_kind hkind hfixed htoken]
  exact h.held htoken

theorem append (hfirst : Prints source tokens words) (hsecond : Prints source others more) :
    Prints source (tokens ++ others) (words ++ more) := by
  refine ⟨spelled_append.mpr ⟨hfirst.spelled, hsecond.spelled⟩, ?_⟩
  rw [List.map_append, hfirst.lexemes, hsecond.lexemes]

theorem exists_texts (h : Prints source tokens words) :
    ∃ texts : List Text, words = texts.map some := by
  obtain ⟨hspelled, rfl⟩ := h
  induction tokens with
  | nil => exact ⟨[], rfl⟩
  | cons token tokens ih =>
      obtain ⟨⟨text, htext, -⟩, hrest⟩ := spelled_cons.mp hspelled
      obtain ⟨texts, htexts⟩ := ih hrest
      exact ⟨text :: texts, by rw [List.map_cons, List.map_cons, htext, htexts]⟩

end Prints

namespace Grammar

variable {source : Text} {tokens : List Token} {bound : Nat}

/-- Tokens that are spelled by the given words make a phrase for a value. -/
def Printed {α : Type} (source : Text) (phrase : List Token → α → Prop) (value : α)
    (words : List (Option Text)) : Prop :=
  ∃ tokens, phrase tokens value ∧ Prints source tokens words

theorem Repeated.printed {α : Type} {phrase : List Token → α → Prop}
    {words : α → List (Option Text)}
    (hphrase : ∀ tokens value, tokens.length ≤ bound → phrase tokens value →
      Spelled source tokens → Printed source phrase value (words value))
    {values : List α} (h : Repeated phrase tokens values) (hbound : tokens.length ≤ bound)
    (hspelled : Spelled source tokens) :
    Printed source (Repeated phrase) values (values.flatMap words) := by
  induction h with
  | nil => exact ⟨[], .nil, .nil⟩
  | @cons first rest value values hfirst hrest ih =>
      rw [List.length_append] at hbound
      obtain ⟨hfirstSpelled, hrestSpelled⟩ := spelled_append.mp hspelled
      obtain ⟨printed, hprinted, hwords⟩ := hphrase first value (by omega) hfirst hfirstSpelled
      obtain ⟨others, hothers, hotherWords⟩ := ih (by omega) hrestSpelled
      exact ⟨printed ++ others, .cons hprinted hothers, hwords.append hotherWords⟩

theorem words_joinLeft (first : Expr) (operations : List (Kind × Expr)) :
    (joinLeft first operations).words source =
      first.words source ++
        operations.flatMap fun operation => operation.1.spelling? :: operation.2.words source := by
  induction operations generalizing first with
  | nil => exact (List.append_nil _).symm
  | cons operation rest ih =>
      have hstep : joinLeft first (operation :: rest) =
          joinLeft (.binary first operation.1 operation.2) rest := rfl
      rw [hstep, ih, Expr.words, List.flatMap_cons, List.append_assoc]

section Bounded

variable (hexpression : ∀ tokens value, tokens.length ≤ bound → Expression source tokens value →
  Spelled source tokens → Printed source (Expression source) value (value.words source))

include hexpression

theorem Fields.printed {fields : List (Token × Expr)}
    (h : Fields (Expression source) tokens fields) (hbound : tokens.length ≤ bound)
    (hspelled : Spelled source tokens) :
    Printed source (Fields (Expression source)) fields (Expr.fieldWords source fields) := by
  induction fields generalizing tokens with
  | nil =>
      rw [Expr.fieldWords]
      exact ⟨[], .none, .nil⟩
  | cons field fields ih =>
      obtain ⟨first, rest, rfl, hfield, hrest⟩ := h.uncons
      rw [List.length_append] at hbound
      obtain ⟨hfirstSpelled, hrestSpelled⟩ := spelled_append.mp hspelled
      cases hfield with
      | @mk name equals tokens value hname hequals hvalue =>
          rw [List.length_cons, List.length_cons] at hbound
          simp only [spelled_cons] at hfirstSpelled
          obtain ⟨hnameSpelled, hequalsSpelled, hvalueSpelled⟩ := hfirstSpelled
          obtain ⟨printed, hprinted, hwords⟩ :=
            hexpression tokens value (by omega) hvalue hvalueSpelled
          have hfield : Field (Expression source) (name :: equals :: printed) (name, value) :=
            .mk hname hequals hprinted
          rw [Expr.fieldWords]
          cases fields with
          | nil =>
              refine ⟨name :: equals :: (printed ++ []), ?_,
                .held hnameSpelled (.fixed hequals rfl hequalsSpelled (hwords.append .nil))⟩
              simpa using Fields.some hfield .nil .none
          | cons second fields =>
              obtain ⟨-, hnil⟩ | ⟨comma, others, rfl, hcomma, hothers⟩ := hrest
              · cases hnil
              rw [List.length_cons] at hbound
              obtain ⟨hcommaSpelled, hothersSpelled⟩ := spelled_cons.mp hrestSpelled
              obtain ⟨more, hmore, hmoreWords⟩ := ih hothers (by omega) hothersSpelled
              exact ⟨name :: equals :: (printed ++ comma :: more), .cons hfield hcomma hmore,
                .held hnameSpelled (.fixed hequals rfl hequalsSpelled
                  (hwords.append (.fixed hcomma rfl hcommaSpelled hmoreWords)))⟩

theorem Atom.printed {value : Expr} (h : Atom source tokens value)
    (hbound : tokens.length ≤ bound + 1) (hspelled : Spelled source tokens) :
    Printed source (Atom source) value (value.words source) := by
  cases h with
  | @number token lexeme hkind hlexeme hnumeral hfits =>
      rw [Expr.words]
      exact ⟨[token], .number hkind hlexeme hnumeral hfits, hspelled, rfl⟩
  | @structLiteral dot opening closing inside fields hdot hopening hfields hclosing =>
      simp only [List.length_cons, List.length_append] at hbound
      simp only [spelled_append, spelled_cons] at hspelled
      obtain ⟨hdotSpelled, hopeningSpelled, hinsideSpelled, hclosingSpelled, -⟩ := hspelled
      obtain ⟨printed, hprinted, hwords⟩ := hfields.printed hexpression (by omega) hinsideSpelled
      rw [Expr.words]
      exact ⟨dot :: opening :: (printed ++ [closing]),
        .structLiteral hdot hopening hprinted hclosing,
        .held hdotSpelled (.fixed hopening rfl hopeningSpelled
          (hwords.append (.fixed hclosing rfl hclosingSpelled .nil)))⟩

theorem Operation.printed {operation : Kind × Expr}
    (h : Operation (Atom source) tokens operation) (hbound : tokens.length ≤ bound + 1)
    (hspelled : Spelled source tokens) :
    Printed source (Operation (Atom source)) operation
      (operation.1.spelling? :: operation.2.words source) := by
  cases h with
  | @mk sign tokens operand hsign hoperand =>
      rw [List.length_cons] at hbound
      obtain ⟨hsignSpelled, htokensSpelled⟩ := spelled_cons.mp hspelled
      obtain ⟨printed, hprinted, hwords⟩ :=
        hoperand.printed hexpression (by omega) htokensSpelled
      have hfixed : sign.kind.spelling?.isSome := by
        rcases hsign with hsign | hsign <;> rw [hsign] <;> rfl
      exact ⟨sign :: printed, .mk hsign hprinted, .fixed rfl hfixed hsignSpelled hwords⟩

end Bounded

theorem Expression.printed {value : Expr} (h : Expression source tokens value)
    (hspelled : Spelled source tokens) :
    Printed source (Expression source) value (value.words source) := by
  suffices hall : ∀ bound tokens value, tokens.length ≤ bound → Expression source tokens value →
      Spelled source tokens → Printed source (Expression source) value (value.words source) from
    hall tokens.length tokens value (Nat.le_refl _) h hspelled
  intro bound
  induction bound with
  | zero =>
      intro tokens value hbound h
      cases h with
      | @chain first rest _ _ hatom _ =>
          have hpositive := hatom.marks_pos
          have hlength := marks_le_length first
          rw [List.length_append] at hbound
          omega
  | succ bound ih =>
      intro tokens value hbound h hspelled
      cases h with
      | @chain first rest operand operations hatom hrest =>
          rw [List.length_append] at hbound
          obtain ⟨hfirstSpelled, hrestSpelled⟩ := spelled_append.mp hspelled
          obtain ⟨printed, hprinted, hwords⟩ := hatom.printed ih (by omega) hfirstSpelled
          obtain ⟨others, hothers, hotherWords⟩ :=
            hrest.printed (fun _ _ hlength hoperation => hoperation.printed ih hlength) (by omega)
              hrestSpelled
          rw [words_joinLeft]
          exact ⟨printed ++ others, .chain hprinted hothers, hwords.append hotherWords⟩

section Parts

theorem WrittenType.prints {ascription : Ascription} (h : WrittenType source tokens ascription)
    (hspelled : Spelled source tokens) : Prints source tokens (ascription.words source) := by
  refine ⟨hspelled, ?_⟩
  cases h with
  | primitive _ hlexeme => rw [List.map_singleton, hlexeme, Ascription.words, Primitive.word]
  | named => rfl

theorem DeclaredType.prints {ascription : Ascription}
    (h : DeclaredType source tokens ascription) (hspelled : Spelled source tokens) :
    Prints source tokens (ascription.words source) := by
  cases h with
  | elided => exact .nil
  | written h => exact h.prints hspelled

theorem Receives.prints {receiver : Option Receiver} (h : Receives tokens receiver)
    (hspelled : Spelled source tokens) : Prints source tokens (Receiver.words receiver) := by
  cases h with
  | none => exact .nil
  | value hkind => exact .fixed hkind rfl (spelled_cons.mp hspelled).1 .nil
  | pointer hstar hkind =>
      simp only [spelled_cons] at hspelled
      obtain ⟨hstarSpelled, hselfSpelled, -⟩ := hspelled
      exact .fixed hstar rfl hstarSpelled (.fixed hkind rfl hselfSpelled .nil)

theorem Result.prints {result : Option Ascription} (h : Result source tokens result)
    (hspelled : Spelled source tokens) :
    Prints source tokens (Ascription.resultWords source result) := by
  cases h with
  | none => exact .nil
  | some harrow hwritten =>
      obtain ⟨harrowSpelled, hwrittenSpelled⟩ := spelled_cons.mp hspelled
      exact .fixed harrow rfl harrowSpelled (hwritten.prints hwrittenSpelled)

theorem Initial.printed {value : Option Expr} (h : Initial source tokens value)
    (hspelled : Spelled source tokens) :
    Printed source (Initial source) value (Expr.initialWords source value) := by
  cases h with
  | none => exact ⟨[], .none, .nil⟩
  | @some equals tokens value hequals hvalue =>
      obtain ⟨hequalsSpelled, hvalueSpelled⟩ := spelled_cons.mp hspelled
      obtain ⟨printed, hprinted, hwords⟩ := hvalue.printed hvalueSpelled
      exact ⟨equals :: printed, .some hequals hprinted, .fixed hequals rfl hequalsSpelled hwords⟩

end Parts

theorem allWords_eq_flatMap (statements : List Stmt) :
    Stmt.allWords source statements = statements.flatMap (Stmt.words source) := by
  induction statements with
  | nil => rw [Stmt.allWords, List.flatMap_nil]
  | cons statement rest ih => rw [Stmt.allWords, List.flatMap_cons, ih]

theorem Statement.printed {statement : Stmt} (h : Statement source tokens statement)
    (hspelled : Spelled source tokens) :
    Printed source (Statement source) statement (statement.words source) := by
  suffices hall : ∀ bound tokens statement, tokens.length ≤ bound →
      Statement source tokens statement → Spelled source tokens →
        Printed source (Statement source) statement (statement.words source) from
    hall tokens.length tokens statement (Nat.le_refl _) h hspelled
  intro bound
  induction bound with
  | zero =>
      intro tokens statement hbound h
      cases h <;> simp at hbound
  | succ bound ih =>
      intro tokens statement hbound h hspelled
      cases h with
      | returns hkeyword hvalue hstop =>
          simp only [spelled_append, spelled_cons] at hspelled
          obtain ⟨hkeywordSpelled, hvalueSpelled, hstopSpelled, -⟩ := hspelled
          obtain ⟨printed, hprinted, hwords⟩ := hvalue.printed hvalueSpelled
          rw [Stmt.words]
          exact ⟨_, .returns hkeyword hprinted hstop,
            .fixed hkeyword rfl hkeywordSpelled
              (hwords.append (.fixed hstop rfl hstopSpelled .nil))⟩
      | @fieldWrite _ _ _ operator _ _ _ hname hdot hfield hoperator hvalue hstop =>
          simp only [spelled_append, spelled_cons] at hspelled
          obtain ⟨hreceiverSpelled, hdotSpelled, hfieldSpelled, hoperatorSpelled, hvalueSpelled,
            hstopSpelled, -⟩ := hspelled
          obtain ⟨printed, hprinted, hwords⟩ := hvalue.printed hvalueSpelled
          have hfixed : operator.kind.spelling?.isSome := by
            simp only [List.mem_cons, List.not_mem_nil, or_false] at hoperator
            rcases hoperator with hkind | hkind | hkind <;> rw [hkind] <;> rfl
          rw [Stmt.words]
          exact ⟨_, .fieldWrite hname hdot hfield hoperator hprinted hstop,
            .held hreceiverSpelled (.fixed hdot rfl hdotSpelled (.held hfieldSpelled
              (.fixed rfl hfixed hoperatorSpelled
                (hwords.append (.fixed hstop rfl hstopSpelled .nil)))))⟩
      | declaration hname hcolon htype hinitial hstop =>
          simp only [spelled_append, spelled_cons] at hspelled
          obtain ⟨hnameSpelled, hcolonSpelled, htypeSpelled, hinitialSpelled, hstopSpelled, -⟩ :=
            hspelled
          obtain ⟨printed, hprinted, hwords⟩ := hinitial.printed hinitialSpelled
          rw [Stmt.words]
          exact ⟨_, .declaration hname hcolon htype hprinted hstop,
            .held hnameSpelled (.fixed hcolon rfl hcolonSpelled ((htype.prints htypeSpelled).append
              (hwords.append (.fixed hstop rfl hstopSpelled .nil))))⟩
      | structDefinition hname hcolons hkeyword hopening hbody hclosing =>
          simp only [List.length_cons, List.length_append] at hbound
          simp only [spelled_append, spelled_cons] at hspelled
          obtain ⟨hnameSpelled, hcolonsSpelled, hkeywordSpelled, hopeningSpelled, hbodySpelled,
            hclosingSpelled, -⟩ := hspelled
          obtain ⟨printed, hprinted, hwords⟩ := hbody.printed ih (by omega) hbodySpelled
          rw [Stmt.words, allWords_eq_flatMap]
          exact ⟨_, .structDefinition hname hcolons hkeyword hopening hprinted hclosing,
            .held hnameSpelled (.fixed hcolons rfl hcolonsSpelled
              (.fixed hkeyword rfl hkeywordSpelled (.fixed hopening rfl hopeningSpelled
                (hwords.append (.fixed hclosing rfl hclosingSpelled .nil)))))⟩
      | function hname hcolons hopen hreceives hclose hresult hopening hbody hclosing =>
          simp only [List.length_cons, List.length_append] at hbound
          simp only [spelled_append, spelled_cons] at hspelled
          obtain ⟨hnameSpelled, hcolonsSpelled, hopenSpelled, hparametersSpelled, hcloseSpelled,
            houtputSpelled, hopeningSpelled, hbodySpelled, hclosingSpelled, -⟩ := hspelled
          obtain ⟨printed, hprinted, hwords⟩ := hbody.printed ih (by omega) hbodySpelled
          rw [Stmt.words, allWords_eq_flatMap]
          exact ⟨_,
            .function hname hcolons hopen hreceives hclose hresult hopening hprinted hclosing,
            .held hnameSpelled (.fixed hcolons rfl hcolonsSpelled (.fixed hopen rfl hopenSpelled
              ((hreceives.prints hparametersSpelled).append (.fixed hclose rfl hcloseSpelled
                ((hresult.prints houtputSpelled).append (.fixed hopening rfl hopeningSpelled
                  (hwords.append (.fixed hclosing rfl hclosingSpelled .nil))))))))⟩

theorem Program.printed {program : List Stmt} (h : Program source tokens program)
    (hspelled : Spelled source tokens) :
    Printed source (Program source) program (Stmt.allWords source program) := by
  rw [allWords_eq_flatMap]
  exact Repeated.printed (fun _ _ _ hstatement => hstatement.printed) h (Nat.le_refl _) hspelled

end Grammar

end FrontEnd
