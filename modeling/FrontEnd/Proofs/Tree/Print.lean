import FrontEnd.Proofs.Scan.Spelling
import FrontEnd.Proofs.Tree.Related

namespace FrontEnd

section Words

variable (source : Text)

def Primitive.word : Primitive → Text
  | .i32 => "i32".toList

def Ascription.words : Ascription → List (Option Text)
  | .primitive type => [some type.word]
  | .named name => [name.lexeme? source]
  | .inferred => []

mutual

def Expr.words : Expr → List (Option Text)
  | .number _ token => [token.lexeme? source]
  | .binary left operator right => left.words ++ operator.spelling? :: right.words
  | .structLiteral dot fields =>
      dot.lexeme? source :: Kind.openCurly.spelling? ::
        (fieldWords fields ++ [Kind.closeCurly.spelling?])

def Expr.fieldWords : List (Token × Expr) → List (Option Text)
  | [] => []
  | (name, value) :: fields =>
      name.lexeme? source :: Kind.assignment.spelling? ::
        (value.words ++ if fields.isEmpty then [] else Kind.comma.spelling? :: fieldWords fields)

end

def Expr.initialWords : Option Expr → List (Option Text)
  | none => []
  | some value => Kind.assignment.spelling? :: value.words source

def Receiver.words : Option Receiver → List (Option Text)
  | none => []
  | some .value => [Kind.selfKeyword.spelling?]
  | some .pointer => [Kind.star.spelling?, Kind.selfKeyword.spelling?]

def Ascription.resultWords : Option Ascription → List (Option Text)
  | none => []
  | some result => Kind.arrow.spelling? :: result.words source

mutual

def Stmt.words : Stmt → List (Option Text)
  | .declaration name ascription value =>
      name.lexeme? source :: Kind.colon.spelling? ::
        (ascription.words source ++ (Expr.initialWords source value ++ [Kind.semicolon.spelling?]))
  | .fieldWrite receiver field operator value =>
      receiver.lexeme? source :: Kind.dot.spelling? :: field.lexeme? source ::
        operator.spelling? :: (value.words source ++ [Kind.semicolon.spelling?])
  | .structDefinition name body =>
      name.lexeme? source :: Kind.colonColon.spelling? :: Kind.structKeyword.spelling? ::
        Kind.openCurly.spelling? :: (allWords body ++ [Kind.closeCurly.spelling?])
  | .function name receiver result body =>
      name.lexeme? source :: Kind.colonColon.spelling? :: Kind.openParen.spelling? ::
        (Receiver.words receiver ++ Kind.closeParen.spelling? ::
          (Ascription.resultWords source result ++ Kind.openCurly.spelling? ::
            (allWords body ++ [Kind.closeCurly.spelling?])))
  | .returns value =>
      Kind.returnKeyword.spelling? :: (value.words source ++ [Kind.semicolon.spelling?])

def Stmt.allWords : List Stmt → List (Option Text)
  | [] => []
  | statement :: rest => statement.words ++ allWords rest

end

/-- The text of a program; nothing if the source does not spell one of its tokens. -/
def Stmt.print (program : List Stmt) : Option Text :=
  ((Stmt.allWords source program).mapM id).map (List.intercalate [' '])

end Words

theorem Stmt.print_of_allWords {source : Text} {program : List Stmt} {texts : List Text}
    (h : Stmt.allWords source program = texts.map some) :
    Stmt.print source program = some ([' '].intercalate texts) := by
  have htexts : (texts.map some).mapM id = some texts := by
    calc
      (texts.map some).mapM id = texts.mapM fun text => some (id text) := List.mapM_map
      _ = some (texts.map id) := List.mapM_pure
      _ = some texts := by rw [List.map_id]
  rw [print, h, htexts, Option.map_some]

/-- Tokens of one kind that are spelled alike, each in its own text. -/
def SameSpelling (source other : Text) (token image : Token) : Prop :=
  token.kind = image.kind ∧
    ∃ lexeme, token.lexeme? source = some lexeme ∧ image.lexeme? other = some lexeme

section Related

variable {source other : Text}

theorem SameSpelling.lexeme?_eq {token image : Token} (h : SameSpelling source other token image) :
    token.lexeme? source = image.lexeme? other := by
  obtain ⟨-, lexeme, htoken, himage⟩ := h
  rw [htoken, himage]

theorem Ascription.Related.words_eq {ascription image : Ascription}
    (h : ascription.Related (SameSpelling source other) image) :
    ascription.words source = image.words other := by
  cases h with
  | primitive => rfl
  | named hname => rw [words, words, hname.lexeme?_eq]
  | inferred => rfl

mutual

theorem Expr.Related.words_eq {tree image : Expr}
    (h : tree.Related (SameSpelling source other) image) :
    tree.words source = image.words other := by
  cases h with
  | number htoken => rw [words, words, htoken.lexeme?_eq]
  | binary hleft hright => rw [words, words, hleft.words_eq, hright.words_eq]
  | structLiteral hdot hfields => rw [words, words, hdot.lexeme?_eq, hfields.fieldWords_eq]

theorem Expr.RelatedFields.fieldWords_eq {fields images : List (Token × Expr)}
    (h : Expr.RelatedFields (SameSpelling source other) fields images) :
    Expr.fieldWords source fields = Expr.fieldWords other images := by
  cases h with
  | nil => rw [fieldWords, fieldWords]
  | cons hname hvalue hfields =>
      rw [fieldWords, fieldWords, hname.lexeme?_eq, hvalue.words_eq, hfields.fieldWords_eq]
      cases hfields <;> rfl

end

mutual

theorem Stmt.Related.words_eq {tree image : Stmt}
    (h : tree.Related (SameSpelling source other) image) :
    tree.words source = image.words other := by
  cases h with
  | declaration hname hascription hvalue =>
      rw [words, words, hname.lexeme?_eq, hascription.words_eq]
      cases hvalue with
      | some hvalue => rw [Expr.initialWords, Expr.initialWords, hvalue.words_eq]
      | none => rfl
  | fieldWrite hreceiver hfield hvalue =>
      rw [words, words, hreceiver.lexeme?_eq, hfield.lexeme?_eq, hvalue.words_eq]
  | structDefinition hname hbody => rw [words, words, hname.lexeme?_eq, hbody.allWords_eq]
  | function hname hresult hbody =>
      rw [words, words, hname.lexeme?_eq, hbody.allWords_eq]
      cases hresult with
      | some hresult => rw [Ascription.resultWords, Ascription.resultWords, hresult.words_eq]
      | none => rfl
  | returns hvalue => rw [words, words, hvalue.words_eq]

theorem Stmt.RelatedAll.allWords_eq {trees images : List Stmt}
    (h : Stmt.RelatedAll (SameSpelling source other) trees images) :
    Stmt.allWords source trees = Stmt.allWords other images := by
  cases h with
  | nil => rw [allWords, allWords]
  | cons hfirst hrest => rw [allWords, allWords, hfirst.words_eq, hrest.allWords_eq]

end

end Related

end FrontEnd
