import FrontEnd.CommandLine.Run
import FrontEnd.Proofs.Safety
import Mathlib.Data.List.Forall2

namespace FrontEnd

namespace Output

theorem failure_ne_success : failure ≠ success := by decide

theorem crash_ne_success : crash ≠ success := by decide

@[simp]
theorem stdout_followedBy (first second : Output) :
    (first.followedBy second).stdout = first.stdout ++ second.stdout := rfl

@[simp]
theorem status_followedBy (first second : Output) :
    (first.followedBy second).status = second.status := rfl

end Output

namespace Token

/-- The line that shows a token: its kind, its spelling between backquotes, its line and its
span. -/
def Shows (source : Text) (token : Token) (line : String) : Prop :=
  ∃ lexeme : String, token.lexeme? source = some lexeme.toList ∧
    line = s!"{token.kind.name} `{lexeme}` line: {token.line}" ++
      s!" | from: {token.span.start} - to: {token.span.stop}\n"

variable {source : Text} {tokens : List Token} {lines : List String}

theorem Shows.describe? {token : Token} {line : String} (h : Shows source token line) :
    ∃ description, token.describe? source = some description ∧ description ++ "\n" = line := by
  obtain ⟨lexeme, hlexeme, rfl⟩ := h
  simp only [Token.describe?, hlexeme, Option.map_some, String.ofList_toList]
  refine ⟨_, rfl, ?_⟩
  simp only [String.append_assoc]
  rfl

theorem printAll_of_shows (h : List.Forall₂ (Shows source) tokens lines) (printed : String) :
    printAll source printed tokens = .ok (printed ++ String.join lines) := by
  induction h generalizing printed with
  | nil => rw [printAll, String.join_nil, String.append_empty]
  | cons hfirst _ ih =>
      obtain ⟨description, hdescription, rfl⟩ := hfirst.describe?
      rw [printAll, hdescription, String.join_cons, ← String.append_assoc, ← String.append_assoc]
      exact ih _

theorem exists_shows (htokens : tokenize source = .ok tokens) :
    ∃ lines, List.Forall₂ (Shows source) tokens lines := by
  have hlexemes : ∀ token ∈ tokens, ∃ lexeme, token.lexeme? source = some lexeme :=
    fun token htoken => (spelled_of_tokenize htokens token htoken).imp fun _ h => h.1
  clear htokens
  induction tokens with
  | nil => exact ⟨[], .nil⟩
  | cons token tokens ih =>
      obtain ⟨⟨lexeme, hlexeme⟩, hrest⟩ := List.forall_mem_cons.mp hlexemes
      obtain ⟨lines, hlines⟩ := ih hrest
      refine ⟨_, .cons ⟨String.ofList lexeme, ?_, rfl⟩ hlines⟩
      rw [hlexeme, String.toList_ofList]

end Token

namespace Options

variable {options : Options} {threshold : Level} {read : String → Except ReadFailure Text}

/-- A file can be read, and its text can be analyzed. -/
def Compiles (options : Options) (read : String → Except ReadFailure Text) (file : String) :
    Prop :=
  ∃ source unit, read file = .ok source ∧
    analyze source (options.nestingLimit.getD 256) = .ok unit

/-- A file compiles, and the text is its tokens, a line for each, and then its statements, both as
far as they are asked for. -/
def Dumps (options : Options) (read : String → Except ReadFailure Text) (file text : String) :
    Prop :=
  ∃ source unit lines, read file = .ok source ∧
    analyze source (options.nestingLimit.getD 256) = .ok unit ∧
    List.Forall₂ (Token.Shows source) unit.tokens lines ∧
    text =
      (if options.tokens then String.join lines else "") ++
      if options.statements then
        String.join (unit.statements.map fun statement => statement.dump ++ "\n") else ""

theorem nestingLimit_config (options : Options) :
    options.config.nestingLimit = options.nestingLimit.getD 256 := by
  rw [config]
  cases options.nestingLimit <;> rfl

theorem exists_dumps_iff {file : String} :
    (∃ text, options.Dumps read file text) ↔ options.Compiles read file := by
  constructor
  · rintro ⟨text, source, unit, lines, hread, hunit, -⟩
    exact ⟨source, unit, hread, hunit⟩
  · rintro ⟨source, unit, hread, hunit⟩
    obtain ⟨lines, hlines⟩ := Token.exists_shows (exists_of_analyze_ok hunit).1
    exact ⟨_, source, unit, lines, hread, hunit, hlines, rfl⟩

section Compile

variable {source : Text} {file : String} {unit : CompilationUnit} {lines : List String}

theorem dump_of_shows (h : List.Forall₂ (Token.Shows source) unit.tokens lines) :
    options.dump source unit =
      .ok ((if options.tokens then String.join lines else "") ++
        if options.statements then
          String.join (unit.statements.map fun statement => statement.dump ++ "\n") else "") := by
  have htokens : options.dumpTokens source unit =
      .ok (if options.tokens then String.join lines else "") := by
    rw [dumpTokens, Token.printAll_of_shows h, String.empty_append]
    split <;> rfl
  rw [dump, htokens]
  rfl

/-- A unit is dumped; recording its names does not fail. -/
theorem compile_of_ok (hunit : analyze source (options.nestingLimit.getD 256) = .ok unit)
    {text : String} (hdump : options.dump source unit = .ok text) :
    (options.compile threshold file source).stdout = text ∧
      (options.compile threshold file source).status = Output.success := by
  obtain ⟨htokens, rest, hread⟩ := exists_of_analyze_ok hunit
  obtain ⟨table, hinsert, -⟩ :=
    (SymbolTable.Balanced.empty source options.config.tableCapacity).foldlM_strictInsert?_one
      (exists_slice?_of_mem_declaredNames htokens hread)
  have hdeclare := SymbolTable.declare_of_insertAll hinsert
  rw [analyze, ← nestingLimit_config] at hunit
  simp only [compile, hunit, hdeclare, hdump, and_self]

theorem compile_of_ne_ok
    (h : ∀ unit, analyze source (options.nestingLimit.getD 256) ≠ .ok unit) :
    (options.compile threshold file source).stdout = "" ∧
      (options.compile threshold file source).status ≠ Output.success := by
  simp only [analyze, ← nestingLimit_config] at h
  simp only [compile]
  split
  · exact ⟨rfl, Output.crash_ne_success⟩
  · split
    · exact ⟨rfl, Output.crash_ne_success⟩
    · exact ⟨rfl, Output.failure_ne_success⟩
  · rename_i unit hunit
    exact absurd hunit (h unit)

end Compile

section File

variable {file text : String}

theorem compileFile_of_dumps (threshold : Level) (h : options.Dumps read file text) :
    (options.compileFile threshold read file).stdout = text ∧
      (options.compileFile threshold read file).status = Output.success := by
  obtain ⟨source, unit, lines, hread, hunit, hlines, rfl⟩ := h
  rw [compileFile, hread]
  exact compile_of_ok hunit (dump_of_shows hlines)

theorem compileFile_of_not_compiles (threshold : Level) (h : ¬options.Compiles read file) :
    (options.compileFile threshold read file).stdout = "" ∧
      (options.compileFile threshold read file).status ≠ Output.success := by
  cases hread : read file with
  | error reason =>
      rw [compileFile, hread]
      exact ⟨rfl, Output.failure_ne_success⟩
  | ok source =>
      rw [compileFile, hread]
      apply compile_of_ne_ok
      intro unit hunit
      exact h ⟨source, unit, hread, hunit⟩

end File

section Files

variable {file : String} {dumped rest : List String} {texts : List String}

theorem compileFiles_cons_of_success
    (h : (options.compileFile threshold read file).status = Output.success) :
    options.compileFiles threshold read (file :: rest) =
      (options.compileFile threshold read file).followedBy
        (options.compileFiles threshold read rest) := by
  rw [compileFiles]
  exact if_pos h

theorem compileFiles_cons_of_failure
    (h : (options.compileFile threshold read file).status ≠ Output.success) :
    options.compileFiles threshold read (file :: rest) =
      options.compileFile threshold read file := by
  rw [compileFiles]
  exact if_neg h

theorem compileFiles_singleton (file : String) :
    (options.compileFiles threshold read [file]).stdout =
      (options.compileFile threshold read file).stdout := by
  by_cases h : (options.compileFile threshold read file).status = Output.success
  · rw [compileFiles_cons_of_success h, Output.stdout_followedBy]
    exact String.append_empty
  · rw [compileFiles_cons_of_failure h]

theorem compileFiles_append_of_dumps (threshold : Level)
    (h : List.Forall₂ (options.Dumps read) dumped texts) (rest : List String) :
    (options.compileFiles threshold read (dumped ++ rest)).stdout =
        String.join texts ++ (options.compileFiles threshold read rest).stdout ∧
      (options.compileFiles threshold read (dumped ++ rest)).status =
        (options.compileFiles threshold read rest).status := by
  induction h with
  | nil => exact ⟨by simp, rfl⟩
  | cons hfirst _ ih =>
      obtain ⟨hstdout, hstatus⟩ := compileFile_of_dumps threshold hfirst
      rw [List.cons_append, compileFiles_cons_of_success hstatus]
      exact ⟨by simp [hstdout, ih.1, String.append_assoc], by simp [ih.2]⟩

/-- The files up to the first that fails decide what a run gives. -/
theorem compileFiles_eq_of_failure {otherRead : String → Except ReadFailure Text}
    (hsame : ∀ name ∈ dumped ++ [file], otherRead name = read name)
    (h : (options.compileFile threshold read file).status ≠ Output.success)
    (later others : List String) :
    options.compileFiles threshold otherRead (dumped ++ file :: others) =
      options.compileFiles threshold read (dumped ++ file :: later) := by
  have hfile : ∀ name ∈ dumped ++ [file],
      options.compileFile threshold otherRead name = options.compileFile threshold read name := by
    intro name hname
    rw [compileFile, compileFile, hsame name hname]
  clear hsame
  induction dumped with
  | nil =>
      have hother := hfile file (by simp)
      rw [List.nil_append, List.nil_append, compileFiles_cons_of_failure h,
        compileFiles_cons_of_failure (by rwa [hother]), hother]
  | cons first dumped ih =>
      have hfirst := hfile first (by simp)
      have hrest := ih fun name hname => hfile name (List.mem_cons_of_mem first hname)
      rw [List.cons_append, List.cons_append, compileFiles, compileFiles, hfirst, hrest]

/-- The first of some files that fails, if one does, with the dumps of those before it. -/
theorem exists_dumped (options : Options) (read : String → Except ReadFailure Text)
    (files : List String) :
    ∃ dumped texts, List.Forall₂ (options.Dumps read) dumped texts ∧
      (files = dumped ∨ ∃ file later, files = dumped ++ file :: later ∧
        ¬options.Compiles read file) := by
  induction files with
  | nil => exact ⟨[], [], .nil, .inl rfl⟩
  | cons file files ih =>
      by_cases h : options.Compiles read file
      · obtain ⟨text, htext⟩ := exists_dumps_iff.mpr h
        obtain ⟨dumped, texts, hdumped, hrest⟩ := ih
        refine ⟨file :: dumped, text :: texts, .cons htext hdumped, ?_⟩
        rcases hrest with rfl | ⟨failing, later, rfl, hfails⟩
        · exact .inl rfl
        · exact .inr ⟨failing, later, rfl, hfails⟩
      · exact ⟨[], [], .nil, .inr ⟨file, files, rfl, h⟩⟩

/-- Which files are named does not change how one of them is compiled. -/
theorem compileFiles_withFiles (options : Options) (named files : List String) :
    compileFiles { options with files := named } threshold read files =
      options.compileFiles threshold read files := by
  induction files with
  | nil => rfl
  | cons file files ih =>
      have hfile : compileFile { options with files := named } threshold read file =
          options.compileFile threshold read file := rfl
      rw [compileFiles, compileFiles, hfile, ih]

end Files

/-- A run ends with status 0 exactly if each of its files can be read and analyzed. It prints the
dumps of the files up to the first that fails, each of which is what the file alone would print; and
neither the files after that one nor their contents change the run. -/
theorem run_dumps_up_to_failure (options : Options) (given : Option Level)
    (read : String → Except ReadFailure Text) :
    ((options.run given read).status = 0 ↔
      ∀ file ∈ options.files, options.Compiles read file) ∧
    ∃ dumped texts, List.Forall₂ (options.Dumps read) dumped texts ∧
      (options.run given read).stdout = String.join texts ∧
      List.Forall₂ (fun file text =>
        (run { options with files := [file] } given read).stdout = text) dumped texts ∧
      (options.files = dumped ∨ ∃ file later, options.files = dumped ++ file :: later ∧
        ¬options.Compiles read file ∧
        (options.run given read).status ≠ 0 ∧
        ∀ others otherRead, (∀ name ∈ dumped ++ [file], otherRead name = read name) →
          run { options with files := dumped ++ file :: others } given otherRead =
            options.run given read) := by
  obtain ⟨dumped, texts, hdumped, hfiles⟩ := options.exists_dumped read options.files
  have hall : ∀ file ∈ dumped, options.Compiles read file := by
    have hboth := hdumped.imp fun file text htext =>
      And.intro (exists_dumps_iff.mp ⟨text, htext⟩) htext
    exact ((List.forall₂_and_left _ _).mp hboth).1
  have halone : List.Forall₂ (fun file text =>
      (run { options with files := [file] } given read).stdout = text) dumped texts := by
    refine hdumped.imp fun file text htext => ?_
    rw [run, compileFiles_withFiles, compileFiles_singleton]
    exact (compileFile_of_dumps _ htext).1
  rcases hfiles with hfiles | ⟨file, later, hfiles, hfails⟩
  · obtain ⟨hstdout, hstatus⟩ :=
      compileFiles_append_of_dumps (options.threshold given) hdumped []
    rw [List.append_nil, ← hfiles] at hstdout hstatus
    refine ⟨⟨fun _ => hfiles ▸ hall, fun _ => hstatus⟩, dumped, texts, hdumped, ?_, halone,
      .inl hfiles⟩
    exact hstdout.trans String.append_empty
  · obtain ⟨hstdout, hstatus⟩ :=
      compileFiles_append_of_dumps (options.threshold given) hdumped (file :: later)
    obtain ⟨hsilent, hfailure⟩ := compileFile_of_not_compiles (options.threshold given) hfails
    rw [← hfiles, compileFiles_cons_of_failure hfailure] at hstdout hstatus
    rw [hsilent] at hstdout
    have hnonzero : (options.run given read).status ≠ 0 := by
      rw [run, hstatus]
      exact hfailure
    refine ⟨⟨fun hsuccess => absurd hsuccess hnonzero, fun hevery => ?_⟩, dumped, texts, hdumped,
      hstdout.trans String.append_empty, halone,
      .inr ⟨file, later, hfiles, hfails, hnonzero, fun others otherRead hsame => ?_⟩⟩
    · exact absurd (hevery file (by simp [hfiles])) hfails
    · rw [run, compileFiles_withFiles, run, hfiles]
      exact compileFiles_eq_of_failure hsame hfailure later others

/-- The second file needs two levels, so that the dump of the first is all that is printed. -/
theorem run_dumps_up_to_failure_depth :
    let options : Options :=
      { tokens := true, statements := true, nestingLimit := some 1, files := ["first", "second"] }
    let read : String → Except ReadFailure Text := fun name =>
      .ok (if name = "first" then "x:;".toList else "return 1;".toList)
    ¬options.Compiles read "second" ∧ (options.run none read).status ≠ 0 ∧
      (options.run none read).stdout =
        "Identifier `x` line: 1 | from: 0 - to: 1\n" ++
        "Colon `:` line: 1 | from: 1 - to: 2\n" ++
        "Semicolon `;` line: 1 | from: 2 - to: 3\n" ++
        "Expression(\n" ++
        "    ExpressionStmt \x7b\n" ++
        "        expression: Variable(\n" ++
        "            VariableExpr \x7b\n" ++
        "                identifier: Token \x7b\n" ++
        "                    kind: Identifier,\n" ++
        "                    span: Span \x7b\n" ++
        "                        start: 0,\n" ++
        "                        end: 1,\n" ++
        "                    \x7d,\n" ++
        "                    line: 1,\n" ++
        "                \x7d,\n" ++
        "                var_type: Infer,\n" ++
        "                value: None,\n" ++
        "                target: Declaration,\n" ++
        "            \x7d,\n" ++
        "        ),\n" ++
        "    \x7d,\n" ++
        ")\n" ∧
      (options.run none read).stdout =
        (run { options with files := ["first"] } none read).stdout := by
  intro options read
  have hdeep : ¬options.Compiles read "second" := by
    rintro ⟨source, unit, hsource, hunit⟩
    cases hsource
    have hstopped : analyze "return 1;".toList 1 = .error ⟨.nestingTooDeep 1, 1, some ⟨7, 8⟩⟩ := by
      decide +kernel
    cases hstopped.symm.trans hunit
  have hfirst : options.Compiles read "first" := by
    have hunit : analyze "x:;".toList 1 =
        .ok ⟨[⟨.identifier, ⟨0, 1⟩, 1⟩, ⟨.colon, ⟨1, 2⟩, 1⟩, ⟨.semicolon, ⟨2, 3⟩, 1⟩],
          [.declaration ⟨.identifier, ⟨0, 1⟩, 1⟩ .inferred none]⟩ := by
      decide +kernel
    exact ⟨_, _, rfl, hunit⟩
  obtain ⟨hstatus, dumped, texts, hdumped, hstdout, halone, hfiles⟩ :=
    run_dumps_up_to_failure options none read
  refine ⟨hdeep, fun hsuccess => hdeep (hstatus.mp hsuccess "second" (by simp [options])),
    by decide +kernel, ?_⟩
  have hdumpedFiles : dumped = ["first"] := by
    rcases hfiles with hfiles | ⟨file, later, hfiles, hfails, -⟩
    · subst hfiles
      rcases hdumped with _ | ⟨-, _ | ⟨hsecond, -⟩⟩
      exact absurd (exists_dumps_iff.mp ⟨_, hsecond⟩) hdeep
    · rcases dumped with _ | ⟨name, _ | ⟨other, dumped⟩⟩
      · cases hfiles
        exact absurd hfirst hfails
      · cases hfiles
        rfl
      · simp [options] at hfiles
  subst hdumpedFiles
  rcases halone with _ | ⟨halone, ⟨⟩⟩
  rw [hstdout, halone, String.join_cons, String.join_nil]
  exact String.append_empty

end Options

end FrontEnd
