import FrontEnd.CompilationUnit

namespace FrontEnd

/-- How much an event matters. As a threshold, the last one lets nothing through. -/
inductive Level where
  | trace
  | debug
  | info
  | warn
  | error
  | off
  deriving DecidableEq, Repr

namespace Level

def rank : Level → Nat
  | trace => 0
  | debug => 1
  | info => 2
  | warn => 3
  | error => 4
  | off => 5

def ofName? : String → Option Level
  | "trace" => some trace
  | "debug" => some debug
  | "info" => some info
  | "warn" => some warn
  | "error" => some error
  | "off" => some off
  | _ => none

def label : Level → String
  | trace => "TRACE"
  | debug => "DEBUG"
  | info => "INFO"
  | warn => "WARN"
  | error => "ERROR"
  | off => "OFF"

end Level

/-- Something that a run reports. -/
inductive Event where
  | compiling (file : String)
  | scanned (size tokens lines : Nat)
  /-- A token was consumed, after which `position` of the `total` tokens have been. -/
  | consumed (total : Nat) (token : Token) (position : Nat)
  | parsed (total statements : Nat)
  | analyzed (tokens statements : Nat)
  | finished
  | expanded (capacity symbols : Nat)
  | declared (count capacity : Nat)

namespace Event

def level : Event → Level
  | compiling _ => .info
  | consumed _ _ _ => .trace
  | _ => .debug

/-- Names an activity and its extent, in front of what is reported of it. -/
private def within (activity extent : String) (size : Nat) (text : String) : String :=
  activity ++ "\x7b" ++ extent ++ "=" ++ toString size ++ "\x7d: " ++ text

/-- What happened. The time that a run took is left blank. -/
def text : Event → String
  | compiling file => "compiling file=" ++ file
  | scanned size tokens lines =>
      within "tokenize" "source_len" size
        ("tokenized source tokens=" ++ toString tokens ++ " lines=" ++ toString lines)
  | consumed total token position =>
      within "parse" "token_count" total
        ("consumed token kind=" ++ token.kind.name ++ " line=" ++ toString token.line ++ " pos=" ++
          toString position)
  | parsed total statements =>
      within "parse" "token_count" total ("parsed unit statements=" ++ toString statements)
  | analyzed tokens statements =>
      "analyzed unit tokens=" ++ toString tokens ++ " statements=" ++ toString statements
  | finished => "front end finished elapsed=_"
  | expanded capacity symbols =>
      "expanded type environment capacity=" ++ toString capacity ++ " symbols=" ++
        toString symbols
  | declared count capacity =>
      "declared top-level symbols declared=" ++ toString count ++ " capacity=" ++
        toString capacity

def line (event : Event) : String :=
  event.level.label ++ " " ++ event.text ++ "\n"

/-- The lines of the events that reach a threshold. -/
def log (threshold : Level) (events : List Event) : String :=
  String.join ((events.filter (threshold.rank ≤ ·.level.rank)).map line)

/-- The events of reading tokens: each that was consumed, and the end of the reading if it was
reached. -/
def ofReading (tokens : List Token) (outcome : Outcome (List Stmt)) : List Event :=
  let read := tokens.take (tokens.length - outcome.rest.length)
  read.mapIdx (fun index token => consumed tokens.length token (index + 1)) ++
    match outcome with
    | .ok statements _ =>
        [parsed tokens.length statements.length, analyzed tokens.length statements.length]
    | _ => []

def ofAnalysis (source : Text) : Analysis → List Event
  | .stray _ => []
  | .scanned tokens outcome =>
      scanned source.byteLength tokens.length (source.count '\n' + 1) ::
        ofReading tokens outcome

/-- The events of declaring statements in a table, which leaves another one and tells a count. -/
def ofDeclaring (table : SymbolTable) (statements : List Stmt) (left : SymbolTable) (count : Nat) :
    List Event :=
  (table.expansions (declaredNames statements)).map
      (fun (capacity, symbols) => expanded capacity symbols) ++
    [declared count left.capacity]

end Event

end FrontEnd
