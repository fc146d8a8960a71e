import FrontEnd.Proofs.Grammar.Location
import FrontEnd.Proofs.Grammar.RoundTrip
import FrontEnd.Proofs.SymbolTable.Alike

namespace FrontEnd

/-- What is left of a token when its place is forgotten. -/
def Token.spelling (source : Text) (token : Token) : Kind × Option Text :=
  (token.kind, token.lexeme? source)

/-- Tokens with the same index in two lists. -/
def Paired (tokens others : List Token) (token image : Token) : Prop :=
  ∃ index : Nat, tokens[index]? = some token ∧ others[index]? = some image

/-- The token of the second list with the index that a token has in the first. -/
def counterpart (tokens others : List Token) (token : Token) : Token :=
  others[tokens.idxOf token]?.getD token

/-- Diagnostics for one cause at tokens with the same index, or on the lines of the last tokens. -/
inductive SameSite (tokens others : List Token) : Diagnostic → Diagnostic → Prop
  | token {cause : Cause} {token image : Token} : Paired tokens others token image →
      SameSite tokens others ⟨cause, token.line, some token.span⟩
        ⟨cause, image.line, some image.span⟩
  | ending {cause : Cause} {last otherLast : Token} : tokens.getLast? = some last →
      others.getLast? = some otherLast →
        SameSite tokens others ⟨cause, last.line, none⟩ ⟨cause, otherLast.line, none⟩

/-- Verdicts that differ in the layout of the tokens alone. -/
inductive SameVerdict (tokens others : List Token) :
    Verdict CompilationUnit → Verdict CompilationUnit → Prop
  | ok {program : List Stmt} :
      SameVerdict tokens others (.ok ⟨tokens, program⟩)
        (.ok ⟨others, Stmt.mapAll (counterpart tokens others) program⟩)
  | error {problem image : Diagnostic} : SameSite tokens others problem image →
      SameVerdict tokens others (.error problem) (.error image)

section Layout

variable {source other : Text} {tokens others : List Token}

theorem nodup_of_tokenize (htokens : tokenize source = .ok tokens) : tokens.Nodup := by
  have hdecomposition := decomposition_of_tokenize htokens
  refine hdecomposition.ordered.imp_of_mem ?_
  rintro token _ htoken _ hordered rfl
  have hnonempty := (hdecomposition.fits token htoken).nonempty
  exact absurd hordered (Nat.not_le_of_lt hnonempty)

theorem Paired.eq_counterpart {token image : Token} (hnodup : tokens.Nodup)
    (h : Paired tokens others token image) : image = counterpart tokens others token := by
  obtain ⟨index, htoken, himage⟩ := h
  obtain ⟨hindex, rfl⟩ := List.getElem?_eq_some_iff.mp htoken
  rw [counterpart, hnodup.idxOf_getElem, himage, Option.getD_some]

theorem forall₂_paired (htokens : tokenize source = .ok tokens)
    (hspelling : tokens.map (Token.spelling source) = others.map (Token.spelling other)) :
    List.Forall₂ (fun token image => SameSpelling source other token image ∧
      Paired tokens others token image) tokens others := by
  rw [List.forall₂_iff_get]
  refine ⟨by simpa using congrArg List.length hspelling, fun index htoken himage => ?_⟩
  have hindex := List.getElem?_eq_getElem htoken
  have hother := List.getElem?_eq_getElem himage
  have hsame : (tokens[index]).spelling source = (others[index]).spelling other := by
    simpa [hindex, hother] using congrArg (·[index]?) hspelling
  obtain ⟨hkind, hlexeme⟩ := Prod.mk.inj hsame
  obtain ⟨lexeme, hspelled, -⟩ := spelled_of_tokenize htokens _ (List.getElem_mem htoken)
  exact ⟨⟨hkind, lexeme, hspelled, hlexeme.symm.trans hspelled⟩, index, hindex, hother⟩

theorem readProgram_of_spelling (htokens : tokenize source = .ok tokens)
    (hspelling : tokens.map (Token.spelling source) = others.map (Token.spelling other))
    (limit : Nat) :
    (∃ program images rest left, readProgram tokens source limit = .ok program rest ∧
      readProgram others other limit = .ok images left ∧
      Stmt.RelatedAll (fun token image => SameSpelling source other token image ∧
        Paired tokens others token image) program images) ∨
    ∃ problem image rest left, readProgram tokens source limit = .error problem rest ∧
      readProgram others other limit = .error image left ∧
      SameSite tokens others problem image := by
  have hfollows := readProgram_follows limit And.left (forall₂_paired htokens hspelling)
  generalize hfirst : readProgram tokens source limit = outcome at hfollows ⊢
  generalize hsecond : readProgram others other limit = otherOutcome at hfollows ⊢
  rcases hfollows with ⟨hprogram, _⟩ | ⟨hplace, _⟩ | _ | hstop
  · exact .inl ⟨_, _, _, _, rfl, rfl, hprogram⟩
  · refine .inr ⟨_, _, _, _, rfl, rfl, ?_⟩
    rcases hplace with hrelated | _
    · exact .token hrelated.2
    · obtain ⟨last, hlast⟩ := exists_getLast?_of_readProgram hfirst
      obtain ⟨otherLast, hotherLast⟩ := exists_getLast?_of_readProgram hsecond
      show SameSite tokens others ⟨_, (Setting.ofTokens ..).lastLine, none⟩
        ⟨_, (Setting.ofTokens ..).lastLine, none⟩
      rw [lastLine_ofTokens hlast, lastLine_ofTokens hotherLast]
      exact .ending hlast hotherLast
  · exact absurd hfirst (readProgram_ne_fault htokens _)
  · exact hstop.elim

end Layout

/-- Sources with the same kinds and texts of tokens are analyzed alike, and the names they declare
fill two tables alike. -/
theorem analyze_sameVerdict_of_spelling {source other : Text} {tokens others : List Token}
    (htokens : tokenize source = .ok tokens) (hothers : tokenize other = .ok others)
    (hspelling : tokens.map (Token.spelling source) = others.map (Token.spelling other))
    (limit capacity : Nat) :
    SameVerdict tokens others (analyze source limit) (analyze other limit) ∧
    ∀ unit image, analyze source limit = .ok unit → analyze other limit = .ok image →
      ∃ table otherTable count,
        (SymbolTable.empty source capacity).declare unit.statements = .ok (table, count) ∧
        (SymbolTable.empty other capacity).declare image.statements = .ok (otherTable, count) ∧
        table.capacity = otherTable.capacity ∧ table.entries = otherTable.entries := by
  rcases readProgram_of_spelling htokens hspelling limit with
    ⟨program, images, _, _, hprogram, himages, hrelated⟩ |
    ⟨problem, image, _, _, hproblem, himage, hsite⟩
  · have hverdict := analyze_of_ok htokens hprogram
    have hother := analyze_of_ok hothers himages
    have hmap : images = Stmt.mapAll (counterpart tokens others) program :=
      (hrelated.mono fun hpair => hpair.2.eq_counterpart (nodup_of_tokenize htokens)).eq_mapAll
    have hnames := (hrelated.mono And.left).declaredNames
    refine ⟨?_, fun unit image hunit himage => ?_⟩
    · rw [hverdict, hother, hmap]
      exact .ok
    · obtain rfl := Verdict.ok.inj (hverdict.symm.trans hunit)
      obtain rfl := Verdict.ok.inj (hother.symm.trans himage)
      obtain ⟨table, otherTable, htable, hotherTable, halike⟩ :=
        (SymbolTable.Alike.empty source other capacity).insertAll rfl rfl hnames
      have hcount := SymbolTable.declare_of_insertAll hotherTable
      rw [← hnames.length_eq] at hcount
      exact ⟨table, otherTable, _, SymbolTable.declare_of_insertAll htable, hcount,
        halike.capacity_eq, halike.entries_eq⟩
  · have hverdict := analyze_of_error htokens hproblem
    refine ⟨?_, fun unit _ hunit _ => ?_⟩
    · rw [hverdict, analyze_of_error hothers himage]
      exact .error hsite
    · cases hverdict.symm.trans hunit

/-- A name that is declared twice, on one line or on three. -/
theorem analyze_sameVerdict_of_spelling_lines :
    let source : Text := "a:b;a:i32;".toList
    let other : Text := "a :\n b ;\na: i32;".toList
    let token := fun (kind : Kind) (start line : Nat) => (⟨kind, ⟨start, start + 1⟩, line⟩ : Token)
    let tokens := [token .identifier 0 1, token .colon 1 1, token .identifier 2 1,
      token .semicolon 3 1, token .identifier 4 1, token .colon 5 1, ⟨.identifier, ⟨6, 9⟩, 1⟩,
      token .semicolon 9 1]
    let others := [token .identifier 0 1, token .colon 2 1, token .identifier 5 2,
      token .semicolon 7 2, token .identifier 9 3, token .colon 10 3, ⟨.identifier, ⟨12, 15⟩, 3⟩,
      token .semicolon 15 3]
    let unit : CompilationUnit := ⟨tokens, [
      .declaration (token .identifier 0 1) (.named (token .identifier 2 1)) none,
      .declaration (token .identifier 4 1) (.primitive .i32) none]⟩
    let image : CompilationUnit := ⟨others, [
      .declaration (token .identifier 0 1) (.named (token .identifier 5 2)) none,
      .declaration (token .identifier 9 3) (.primitive .i32) none]⟩
    analyze source 1 = .ok unit ∧ analyze other 1 = .ok image ∧
      image.statements = Stmt.mapAll (counterpart tokens others) unit.statements ∧
      ∃ table otherTable count,
        (SymbolTable.empty source 1).declare unit.statements = .ok (table, count) ∧
        (SymbolTable.empty other 1).declare image.statements = .ok (otherTable, count) ∧
        table.capacity = otherTable.capacity ∧ table.entries = otherTable.entries := by
  intro source other token tokens others unit image
  have hunit : analyze source 1 = .ok unit := by decide +kernel
  have himage : analyze other 1 = .ok image := by decide +kernel
  obtain ⟨hverdict, htables⟩ :=
    @analyze_sameVerdict_of_spelling source other tokens others (exists_of_analyze_ok hunit).1
      (exists_of_analyze_ok himage).1 (by decide +kernel) 1 1
  refine ⟨hunit, himage, ?_, htables unit image hunit himage⟩
  rw [hunit, himage] at hverdict
  clear_value unit image
  cases hverdict
  rfl

end FrontEnd
