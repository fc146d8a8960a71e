import FrontEnd.Proofs.Grammar.Location
import FrontEnd.Proofs.Grammar.RoundTrip
import FrontEnd.Proofs.Scan.Cursor
import FrontEnd.Proofs.SymbolTable.Alike
import FrontEnd.Proofs.SymbolTable.Strict

namespace FrontEnd

variable {source : Text} {tokens rest : List Token} {limit : Nat}

theorem analyze_ne_fault (source : Text) (limit : Nat) : analyze source limit ≠ .fault := by
  intro hfault
  cases htokens : tokenize source with
  | error problem => cases (analyze_of_stray htokens limit).symm.trans hfault
  | ok tokens =>
      rw [analyze_of_tokenize htokens] at hfault
      cases hread : readProgram tokens source limit with
      | ok program rest =>
          rw [hread] at hfault
          cases hfault
      | error problem rest =>
          rw [hread] at hfault
          cases hfault
      | fault rest opened => exact readProgram_ne_fault htokens opened hread

theorem exists_slice?_of_mem_declaredNames {program : List Stmt}
    (htokens : tokenize source = .ok tokens)
    (hread : readProgram tokens source limit = .ok program rest) :
    ∀ record ∈ declaredNames program, ∃ name, record.1.slice? source = some name := by
  have hself : List.Forall₂ (SameSpelling source source) tokens tokens := by
    rw [List.forall₂_same]
    intro token htoken
    obtain ⟨lexeme, hlexeme, -⟩ := spelled_of_tokenize htokens token htoken
    exact ⟨rfl, lexeme, hlexeme, hlexeme⟩
  obtain ⟨images, _, -, hrelated⟩ := readProgram_of_sameSpelling hself hread
  have hnames : List.Forall₂ (fun record image =>
      (∃ name, record.1.slice? source = some name) ∧
        SymbolTable.SameName source source record image)
      (declaredNames program) (declaredNames images) := by
    refine hrelated.declaredNames.imp fun record image hsame => ⟨?_, hsame⟩
    obtain ⟨-, name, hname, -⟩ := hsame
    exact ⟨name, hname⟩
  exact ((List.forall₂_and_left _ _).mp hnames).1

/-- The cursor of a scan never faults, nor does a reading; the names of a unit can all be recorded
in a new table of any size; and in that table all of its tokens can be looked up. -/
theorem scan_read_declare_never_fault (source : Text)
    (hlines : source.count '\n' + 1 < UInt32.size) (limit capacity : Nat) :
    (ByteCursor.start source).scan? 1 = some (tokenize source) ∧
    analyze source limit ≠ .fault ∧
    ∀ unit, analyze source limit = .ok unit → ∃ table count,
      (SymbolTable.empty source capacity).declare unit.statements = .ok (table, count) ∧
      (declaredNames unit.statements).foldlM (SymbolTable.strictInsert? 1)
        (SymbolTable.empty source capacity) = some table ∧
      ∀ token ∈ unit.tokens, ∃ found, table.lookup? token.span = some found ∧
        table.strictLookup? token.span = some found := by
  refine ⟨?_, analyze_ne_fault source limit, fun unit hunit => ?_⟩
  · exact ByteCursor.scan?_between [] source (by omega)
  · obtain ⟨htokens, rest, hread⟩ := exists_of_analyze_ok hunit
    obtain ⟨table, hdeclare, hstrict, hbalanced⟩ :=
      (SymbolTable.Balanced.empty source capacity).foldlM_strictInsert?_one
        (exists_slice?_of_mem_declaredNames htokens hread)
    refine ⟨table, _, SymbolTable.declare_of_insertAll hdeclare, hstrict, fun token htoken => ?_⟩
    obtain ⟨lexeme, hlexeme, -⟩ := spelled_of_tokenize htokens token htoken
    have hfound : table.lookup? token.span = some (table.find? lexeme) := by
      rw [SymbolTable.lookup?, hbalanced.source_eq]
      exact congrArg (Option.map table.find?) hlexeme
    exact ⟨_, hfound, (hbalanced.strictLookup?_eq token.span).trans hfound⟩

/-- The second name finds the table half full; the first is found again after the expansion. -/
theorem scan_read_declare_never_fault_expansion :
    let source : Text := "a:b;\nb:i32;".toList
    let token := fun (kind : Kind) (start line : Nat) => (⟨kind, ⟨start, start + 1⟩, line⟩ : Token)
    let unit : CompilationUnit :=
      ⟨[token .identifier 0 1, token .colon 1 1, token .identifier 2 1, token .semicolon 3 1,
          token .identifier 5 2, token .colon 6 2, ⟨.identifier, ⟨7, 10⟩, 2⟩,
          token .semicolon 10 2],
        [.declaration (token .identifier 0 1) (.named (token .identifier 2 1)) none,
          .declaration (token .identifier 5 2) (.primitive .i32) none]⟩
    source.count '\n' + 1 < UInt32.size ∧ analyze source 1 = .ok unit ∧
      (ByteCursor.start source).scan? 1 = some (.ok unit.tokens) ∧ ∃ table count,
        (SymbolTable.empty source 0).declare unit.statements = .ok (table, count) ∧
        (declaredNames unit.statements).foldlM (SymbolTable.strictInsert? 1)
          (SymbolTable.empty source 0) = some table ∧
        ∀ token ∈ unit.tokens, ∃ found, table.lookup? token.span = some found ∧
          table.strictLookup? token.span = some found := by
  intro source token unit
  have hlines : source.count '\n' + 1 < UInt32.size := by decide +kernel
  have hunit : analyze source 1 = .ok unit := by decide +kernel
  obtain ⟨hscan, -, hunits⟩ := scan_read_declare_never_fault source hlines 1 0
  rw [(exists_of_analyze_ok hunit).1] at hscan
  exact ⟨hlines, hunit, hscan, hunits unit hunit⟩

end FrontEnd
