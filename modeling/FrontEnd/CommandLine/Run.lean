import FrontEnd.CommandLine.Arguments
import FrontEnd.CommandLine.Directory
import FrontEnd.CommandLine.Event
import FrontEnd.Diagnostic.Render
import FrontEnd.Tree.Dump

namespace FrontEnd

/-- What a run writes and the status that it ends with. -/
structure Output where
  stdout : String
  stderr : String
  status : Nat
  deriving DecidableEq, Repr

namespace Output

def success : Nat := 0

def failure : Nat := 1

def crash : Nat := 101

/-- One output after another; the status is that of the second. -/
def followedBy (first second : Output) : Output :=
  ⟨first.stdout ++ second.stdout, first.stderr ++ second.stderr, second.status⟩

end Output

namespace Token

/-- A token with its spelling and its place; nothing if its span does not fit the source. -/
def describe? (token : Token) (source : Text) : Option String :=
  (token.lexeme? source).map fun lexeme =>
    token.kind.name ++ " `" ++ String.ofList lexeme ++ "` line: " ++ toString token.line ++
      " | from: " ++ toString token.span.start ++ " - to: " ++ toString token.span.stop

/-- Prints tokens, a line for each, after what has been printed. A token that does not fit the
source is refused; the lines before it are printed by then, and the refusal carries them. -/
def printAll (source : Text) (printed : String) : List Token → Except String String
  | [] => .ok printed
  | token :: rest =>
      match token.describe? source with
      | some line => printAll source (printed ++ line ++ "\n") rest
      | none => .error printed

end Token

namespace Options

def config (options : Options) : Config :=
  match options.nestingLimit with
  | none => {}
  | some limit => { nestingLimit := limit }

/-- The threshold for events: the given one, or else by the options. -/
def threshold (options : Options) (given : Option Level) : Level :=
  given.getD (if options.verbose then .debug else .error)

/-- What is printed of the tokens of a unit. -/
def dumpTokens (options : Options) (source : Text) (unit : CompilationUnit) :
    Except String String :=
  if options.tokens then Token.printAll source "" unit.tokens else .ok ""

/-- What is printed of the statements of a unit. -/
def dumpStatements (options : Options) (unit : CompilationUnit) : String :=
  if options.statements then
    String.join (unit.statements.map fun statement => statement.dump ++ "\n")
  else
    ""

/-- What is printed of a unit. -/
def dump (options : Options) (source : Text) (unit : CompilationUnit) : Except String String :=
  (options.dumpTokens source unit).map (· ++ options.dumpStatements unit)

def compile (options : Options) (threshold : Level) (file : String) (source : Text) : Output :=
  let analysis := Analysis.ofSource source options.config.nestingLimit
  let events := .compiling file :: Event.ofAnalysis source analysis
  match analysis.verdict with
  | .fault => ⟨"", Event.log threshold events, Output.crash⟩
  | .error problem =>
      match problem.render? source file.toList with
      | none => ⟨"", Event.log threshold events, Output.crash⟩
      | some rendered =>
          ⟨"", Event.log threshold events ++ String.ofList rendered, Output.failure⟩
  | .ok unit =>
      let table := SymbolTable.empty source options.config.tableCapacity
      match table.declare unit.statements with
      | .error _ => ⟨"", Event.log threshold (events ++ [.finished]), Output.crash⟩
      | .ok (declared, count) =>
          let events :=
            events ++ .finished :: Event.ofDeclaring table unit.statements declared count
          match options.dump source unit with
          | .ok printed => ⟨printed, Event.log threshold events, Output.success⟩
          | .error printed => ⟨printed, Event.log threshold events, Output.crash⟩

def compileFile (options : Options) (threshold : Level)
    (read : String → Except ReadFailure Text) (file : String) : Output :=
  match read file with
  | .error reason =>
      ⟨"", "morl: error: failed to read " ++ file ++ ": " ++ reason.message ++ "\n",
        Output.failure⟩
  | .ok source => options.compile threshold file source

/-- Compiles files in order, up to the first that fails. -/
def compileFiles (options : Options) (threshold : Level)
    (read : String → Except ReadFailure Text) : List String → Output
  | [] => ⟨"", "", Output.success⟩
  | file :: rest =>
      let first := options.compileFile threshold read file
      if first.status = Output.success then
        first.followedBy (options.compileFiles threshold read rest)
      else
        first

def run (options : Options) (given : Option Level) (read : String → Except ReadFailure Text) :
    Output :=
  options.compileFiles (options.threshold given) read options.files

end Options

def versionText : String := "morl 0.1.0\n"

def helpText : String :=
  "Front end for the morl language: tokenizes and parses source files\n" ++
  "\n" ++
  "Usage: morl [OPTIONS] <FILES>...\n" ++
  "\n" ++
  "Arguments:\n" ++
  "  <FILES>...  Source files to compile\n" ++
  "\n" ++
  "Options:\n" ++
  "      --tokens                 Print the token stream of each file\n" ++
  "      --ast                    Print the parsed statements of each file\n" ++
  "      --max-depth <MAX_DEPTH>  Deepest allowed nesting of statements and expressions\n" ++
  "  -v, --verbose                Log at debug level unless RUST_LOG says otherwise\n" ++
  "  -h, --help                   Print help\n" ++
  "  -V, --version                Print version\n"

namespace Request

def run (given : Option Level) (read : String → Except ReadFailure Text) : Request → Output
  | compile options => options.run given read
  | version => ⟨versionText, "", Output.success⟩
  | help => ⟨helpText, "", Output.success⟩

end Request

end FrontEnd
