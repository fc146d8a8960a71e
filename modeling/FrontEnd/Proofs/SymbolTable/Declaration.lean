import FrontEnd.Proofs.Safety
import FrontEnd.Proofs.SymbolTable.Refusal

namespace FrontEnd

namespace Stmt

/-- A statement declares a name, and of which kind its type is: a struct by its definition, and a
variable by the type that is written for it. -/
inductive Declares : Stmt → Token → SymbolKind → Prop
  | struct {name : Token} {body : List Stmt} : Declares (.structDefinition name body) name .struct
  | named {name type : Token} {value : Option Expr} :
      Declares (.declaration name (.named type) value) name .struct
  | i32 {name : Token} {value : Option Expr} :
      Declares (.declaration name (.primitive .i32) value) name .i32

def Eligible (statement : Stmt) : Prop :=
  ∃ name kind, statement.Declares name kind

def DeclaresText (source : Text) (statement : Stmt) (text : Text) : Prop :=
  ∃ name kind, statement.Declares name kind ∧ name.lexeme? source = some text

/-- Of the statements that declare a text, the last one declares it by this name and kind. -/
def LastDeclares (source : Text) (statements : List Stmt) (text : Text) (name : Token)
    (kind : SymbolKind) : Prop :=
  ∃ before statement later, statements = before ++ statement :: later ∧
    statement.Declares name kind ∧ name.lexeme? source = some text ∧
    ∀ other ∈ later, ¬other.DeclaresText source text

theorem declared?_eq_some_iff {statement : Stmt} {span : Span} {kind : SymbolKind} :
    statement.declared? = some (span, kind) ↔
      ∃ name, statement.Declares name kind ∧ name.span = span := by
  constructor
  · intro h
    cases statement with
    | declaration name ascription value =>
        cases ascription with
        | primitive type =>
            cases h
            exact ⟨name, .i32, rfl⟩
        | named type =>
            cases h
            exact ⟨name, .named, rfl⟩
        | inferred => cases h
    | structDefinition name body =>
        cases h
        exact ⟨name, .struct, rfl⟩
    | fieldWrite => cases h
    | function => cases h
    | returns => cases h
  · rintro ⟨name, hdeclares, rfl⟩
    cases hdeclares <;> rfl

theorem eligible_iff {statement : Stmt} : statement.Eligible ↔ statement.declared?.isSome := by
  rw [Option.isSome_iff_exists, Prod.exists]
  constructor
  · rintro ⟨name, kind, hdeclares⟩
    exact ⟨name.span, kind, declared?_eq_some_iff.mpr ⟨name, hdeclares, rfl⟩⟩
  · rintro ⟨span, kind, hdeclared⟩
    obtain ⟨name, hdeclares, -⟩ := declared?_eq_some_iff.mp hdeclared
    exact ⟨name, kind, hdeclares⟩

instance : DecidablePred Eligible :=
  fun _ => decidable_of_iff _ eligible_iff.symm

theorem exists_declaresText_iff {source text : Text} {statements : List Stmt} :
    (∃ statement ∈ statements, statement.DeclaresText source text) ↔
      ∃ record ∈ declaredNames statements, record.1.slice? source = some text := by
  simp only [declaredNames, List.mem_filterMap]
  constructor
  · rintro ⟨statement, hmem, name, kind, hdeclares, htext⟩
    exact ⟨(name.span, kind),
      ⟨statement, hmem, declared?_eq_some_iff.mpr ⟨name, hdeclares, rfl⟩⟩, htext⟩
  · rintro ⟨⟨span, kind⟩, ⟨statement, hmem, hdeclared⟩, htext⟩
    obtain ⟨name, hdeclares, rfl⟩ := declared?_eq_some_iff.mp hdeclared
    exact ⟨statement, hmem, name, kind, hdeclares, htext⟩

theorem slice?_ne_of_forall_not {source text : Text} {statements : List Stmt}
    (h : ∀ statement ∈ statements, ¬statement.DeclaresText source text) :
    ∀ record ∈ declaredNames statements, record.1.slice? source ≠ some text := by
  intro record hrecord htext
  obtain ⟨statement, hstatement, hdeclares⟩ :=
    exists_declaresText_iff.mpr ⟨record, hrecord, htext⟩
  exact h statement hstatement hdeclares

theorem LastDeclares.exists_split {source text : Text} {statements : List Stmt} {name : Token}
    {kind : SymbolKind} (h : LastDeclares source statements text name kind) :
    name.span.slice? source = some text ∧
      ∃ before later, declaredNames statements = before ++ (name.span, kind) :: later ∧
        ∀ record ∈ later, record.1.slice? source ≠ some text := by
  obtain ⟨before, statement, later, rfl, hdeclares, htext, hlater⟩ := h
  have hrecord := declared?_eq_some_iff.mpr ⟨name, hdeclares, rfl⟩
  refine ⟨htext, declaredNames before, declaredNames later, ?_, slice?_ne_of_forall_not hlater⟩
  rw [declaredNames, List.filterMap_append, List.filterMap_cons_some hrecord]
  rfl

theorem length_declaredNames (statements : List Stmt) :
    (declaredNames statements).length =
      statements.countP (fun statement => statement.Eligible) := by
  rw [declaredNames, List.length_filterMap_eq_countP]
  refine List.countP_congr fun statement _ => ?_
  rw [decide_eq_true_iff, eligible_iff]

/-- Two statements that declare the same, whatever else they say. -/
def DeclaresLike (statement other : Stmt) : Prop :=
  ∀ name kind, statement.Declares name kind ↔ other.Declares name kind

theorem DeclaresLike.declared?_eq {statement other : Stmt} (h : statement.DeclaresLike other) :
    statement.declared? = other.declared? := by
  apply Option.ext
  rintro ⟨span, kind⟩
  rw [declared?_eq_some_iff, declared?_eq_some_iff]
  exact exists_congr fun name => and_congr_left' (h name kind)

theorem declaredNames_filter_eligible (statements : List Stmt) :
    declaredNames (statements.filter fun statement => statement.Eligible) =
      declaredNames statements := by
  rw [declaredNames, List.filterMap_filter]
  refine List.filterMap_congr fun statement _ => ?_
  split
  case isTrue => rfl
  case isFalse hnot =>
    rw [decide_eq_true_iff, eligible_iff, Option.not_isSome_iff_eq_none] at hnot
    exact hnot.symm

/-- Of a program only the eligible statements count, and of these only what they declare. -/
theorem declaredNames_congr {statements others : List Stmt}
    (h : List.Forall₂ DeclaresLike (statements.filter fun statement => statement.Eligible)
      (others.filter fun other => other.Eligible)) :
    declaredNames statements = declaredNames others := by
  rw [← declaredNames_filter_eligible statements, ← declaredNames_filter_eligible others]
  generalize (statements.filter fun statement => statement.Eligible) = eligible at h ⊢
  generalize (others.filter fun other => other.Eligible) = counterparts at h ⊢
  induction h with
  | nil => rfl
  | cons hfirst _ ih =>
      rw [declaredNames, declaredNames, List.filterMap_cons, List.filterMap_cons,
        hfirst.declared?_eq]
      split
      · exact ih
      · exact congrArg (List.cons _) ih

end Stmt

namespace SymbolTable

variable {source text : Text} {map : Finmap fun _ : Text => Symbol}
  {names : List (Span × SymbolKind)}

/-- The insertion of names one after another. -/
def inserts (names : List (Span × SymbolKind)) : List Operation :=
  names.map fun (span, kind) => .insert span kind

theorem run_inserts (table : SymbolTable) (names : List (Span × SymbolKind)) :
    table.run (inserts names) = table.insertAll names := by
  induction names generalizing table with
  | nil => rfl
  | cons record names ih =>
      obtain ⟨span, kind⟩ := record
      have hnames : inserts ((span, kind) :: names) = .insert span kind :: inserts names := rfl
      rw [hnames, run, apply, insertAll]
      cases table.insert span kind with
      | ok next => exact ih next
      | error left => rfl

theorem lookup_record_of_ne {span : Span} (h : span.slice? source ≠ some text)
    (kind : SymbolKind) :
    (record source map (.insert span kind)).lookup text = map.lookup text := by
  rw [record]
  cases hname : span.slice? source with
  | none => rfl
  | some name =>
      have hne : text ≠ name := by
        rintro rfl
        exact h hname
      exact Finmap.lookup_insert_of_ne map hne

theorem lookup_inserts_of_forall_ne (h : ∀ name ∈ names, name.1.slice? source ≠ some text) :
    ((inserts names).foldl (record source) map).lookup text = map.lookup text := by
  induction names generalizing map with
  | nil => rfl
  | cons name names ih =>
      obtain ⟨hname, hnames⟩ := List.forall_mem_cons.mp h
      exact (ih hnames).trans (lookup_record_of_ne hname name.2)

theorem lookup_inserts_of_last {before later : List (Span × SymbolKind)} {span : Span}
    {kind : SymbolKind} (htext : span.slice? source = some text)
    (hlater : ∀ name ∈ later, name.1.slice? source ≠ some text) :
    ((inserts (before ++ (span, kind) :: later)).foldl (record source) map).lookup text =
      some ⟨text, span, kind⟩ := by
  rw [inserts, List.map_append, List.map_cons, List.foldl_append, List.foldl_cons]
  refine (lookup_inserts_of_forall_ne hlater).trans ?_
  rw [record, htext]
  exact Finmap.lookup_insert _

theorem mem_inserts_iff :
    text ∈ (inserts names).foldl (record source) map ↔
      text ∈ map ∨ ∃ name ∈ names, name.1.slice? source = some text := by
  induction names generalizing map with
  | nil => simp [inserts]
  | cons name names ih =>
      have hrecord : text ∈ record source map (.insert name.1 name.2) ↔
          text ∈ map ∨ name.1.slice? source = some text := by
        rw [record]
        cases name.1.slice? source with
        | none => simp
        | some found => simp [Finmap.mem_insert, eq_comm, or_comm]
      rw [List.exists_mem_cons_iff, ← or_assoc, ← hrecord]
      exact ih

namespace Refines

variable {table : SymbolTable}

theorem exists_foldl_after (h : Refines source table map) (calls : List Call) :
    ∃ last, Refines source (calls.foldl SymbolTable.after table) last :=
  ⟨_, h.foldl_after calls⟩

theorem insertAll (h : Refines source table map)
    (hnames : ∀ name ∈ names, ∃ text, name.1.slice? source = some text) :
    ∃ last, table.insertAll names = .ok last ∧
      Refines source last ((inserts names).foldl (record source) map) := by
  rw [← run_inserts]
  refine h.run fun operation hoperation => ?_
  obtain ⟨name, hname, rfl⟩ := List.mem_map.mp hoperation
  exact hnames name hname

theorem lookup?_eq (h : Refines source table map) {span : Span}
    (htext : span.slice? source = some text) : table.lookup? span = some (map.lookup text) := by
  rw [h.lookup?_eq_map, htext, Option.map_some]

/-- The number of symbols grows by the texts that were inserted and had not been there. -/
theorem exists_fresh {last : SymbolTable} (h : Refines source table map)
    (hlast : Refines source last ((inserts names).foldl (record source) map)) :
    ∃ fresh : Finset Text, last.occupied = table.occupied + fresh.card ∧
      ∀ text, text ∈ fresh ↔
        (∃ name ∈ names, name.1.slice? source = some text) ∧ table.find? text = none := by
  have hkeys : map.keys ⊆ ((inserts names).foldl (record source) map).keys := by
    intro text htext
    exact mem_inserts_iff.mpr (.inl htext)
  refine ⟨((inserts names).foldl (record source) map).keys \ map.keys, ?_, fun text => ?_⟩
  · rw [hlast.occupied_eq, h.occupied_eq, Nat.add_comm, Finset.card_sdiff_add_card_eq_card hkeys]
  · rw [Finset.mem_sdiff, Finmap.mem_keys, Finmap.mem_keys, mem_inserts_iff, h.find?_eq,
      Finmap.lookup_eq_none]
    tauto

end Refines

/-- Declaring a unit in a table, whatever was asked of the table before, counts the eligible
statements and records what they declare. A text is then found as the last of them declares it, and
as before if none does; the table grows by the texts that it did not hold; and a program with the
same declarations, whatever stands between them and inside them, leaves the same table. -/
theorem declare_records_last (source : Text) (capacity : Nat) (calls : List Call) {limit : Nat}
    {unit : CompilationUnit} (hunit : analyze source limit = .ok unit) :
    let table := calls.foldl after (SymbolTable.empty source capacity)
    ∃ declared, table.declare unit.statements =
        .ok (declared, unit.statements.countP fun statement => statement.Eligible) ∧
      (∀ span text, span.slice? source = some text →
        (∀ name kind, Stmt.LastDeclares source unit.statements text name kind →
          declared.lookup? span = some (some ⟨text, name.span, kind⟩)) ∧
        ((∀ statement ∈ unit.statements, ¬statement.DeclaresText source text) →
          declared.lookup? span = table.lookup? span)) ∧
      (∃ fresh : Finset Text, declared.occupied = table.occupied + fresh.card ∧
        ∀ text, text ∈ fresh ↔
          (∃ statement ∈ unit.statements, statement.DeclaresText source text) ∧
            table.find? text = none) ∧
      ∀ others : List Stmt, List.Forall₂ Stmt.DeclaresLike
          (unit.statements.filter fun statement => statement.Eligible)
          (others.filter fun other => other.Eligible) →
        table.declare others = table.declare unit.statements := by
  intro table
  obtain ⟨htokens, rest, hread⟩ := exists_of_analyze_ok hunit
  obtain ⟨map, htable⟩ := (Refines.empty source capacity).exists_foldl_after calls
  obtain ⟨declared, hdeclared, hrefines⟩ :=
    htable.insertAll (exists_slice?_of_mem_declaredNames htokens hread)
  refine ⟨declared, ?_, ?_, ?_, ?_⟩
  · rw [declare_of_insertAll hdeclared, Stmt.length_declaredNames]
  · intro span text htext
    rw [hrefines.lookup?_eq htext, htable.lookup?_eq htext]
    constructor
    · intro name kind hlast
      obtain ⟨hname, before, later, hsplit, hlater⟩ := hlast.exists_split
      rw [hsplit, lookup_inserts_of_last hname hlater]
    · intro hnone
      rw [lookup_inserts_of_forall_ne (Stmt.slice?_ne_of_forall_not hnone)]
  · simp only [Stmt.exists_declaresText_iff]
    exact htable.exists_fresh hrefines
  · intro others hothers
    rw [declare, declare, Stmt.declaredNames_congr hothers]

/-- A struct takes over the name of a variable, in a table that expands for it; the name of its
field is found as it was recorded before. -/
theorem declare_records_last_shadowed :
    let source : Text := "a:i32;a::struct\x7bb:i32;\x7d".toList
    let token := fun (kind : Kind) (start stop : Nat) => (⟨kind, ⟨start, stop⟩, 1⟩ : Token)
    let field := Stmt.declaration (token .identifier 16 17) (.primitive .i32) none
    let unit : CompilationUnit :=
      ⟨[token .identifier 0 1, token .colon 1 2, token .identifier 2 5, token .semicolon 5 6,
          token .identifier 6 7, token .colonColon 7 9, token .structKeyword 9 15,
          token .openCurly 15 16, token .identifier 16 17, token .colon 17 18,
          token .identifier 18 21, token .semicolon 21 22, token .closeCurly 22 23],
        [.declaration (token .identifier 0 1) (.primitive .i32) none,
          .structDefinition (token .identifier 6 7) [field]]⟩
    let table := [Call.insert ⟨16, 17⟩ .struct].foldl after (SymbolTable.empty source 0)
    analyze source 2 = .ok unit ∧ table.capacity = 2 ∧
      ∃ declared, table.declare unit.statements = .ok (declared, 2) ∧
        declared.lookup? ⟨0, 1⟩ = some (some ⟨"a".toList, ⟨6, 7⟩, .struct⟩) ∧
        declared.lookup? ⟨16, 17⟩ = table.lookup? ⟨16, 17⟩ ∧
        table.declare (.returns (.number 0 (token .number 0 1)) :: unit.statements) =
          .ok (declared, 2) := by
  intro source token field unit table
  have hunit : analyze source 2 = .ok unit := by decide +kernel
  obtain ⟨declared, hdeclare, hlookup, -, hothers⟩ :=
    declare_records_last source 0 [.insert ⟨16, 17⟩ .struct] hunit
  refine ⟨hunit, by decide +kernel, declared, hdeclare, ?_, ?_, ?_⟩
  · refine (hlookup ⟨0, 1⟩ "a".toList (by decide)).1 (token .identifier 6 7) .struct ?_
    exact ⟨_, .structDefinition (token .identifier 6 7) [field], [],
      (List.singleton_append).symm, .struct, by decide, List.forall_mem_nil _⟩
  · refine (hlookup ⟨16, 17⟩ "b".toList (by decide)).2 ?_
    rintro statement hstatement ⟨name, kind, hdeclares, htext⟩
    rcases List.mem_pair.mp hstatement with rfl | rfl
    · cases hdeclares
      exact absurd htext (by decide)
    · cases hdeclares
      exact absurd htext (by decide)
  · refine (hothers _ ?_).trans hdeclare
    exact List.forall₂_same.mpr fun _ _ _ _ => Iff.rfl

end SymbolTable

end FrontEnd
