import FrontEnd.Text.Integer

namespace FrontEnd

/-- What a command line asks of the files that it names. -/
structure Options where
  /-- Print the tokens of each file. -/
  tokens : Bool := false
  /-- Print the statements of each file. -/
  statements : Bool := false
  verbose : Bool := false
  nestingLimit : Option Nat := none
  files : List String := []
  deriving DecidableEq, Repr

inductive Request where
  | compile (options : Options)
  | version
  | help
  deriving DecidableEq, Repr

namespace Options

/-- The largest nesting limit that can be asked for. -/
def largestLimit : Nat := UInt64.size - 1

def setTokens (options : Options) : Option Options :=
  if options.tokens then none else some { options with tokens := true }

def setStatements (options : Options) : Option Options :=
  if options.statements then none else some { options with statements := true }

def setVerbose (options : Options) : Option Options :=
  if options.verbose then none else some { options with verbose := true }

def setLimit (options : Options) (value : Text) : Option Options :=
  if options.nestingLimit.isSome then
    none
  else
    (value.natural?.filter (· ≤ largestLimit)).map
      fun limit => { options with nestingLimit := some limit }

def addFile (options : Options) (name : String) : Option Options :=
  if name.isEmpty then none else some { options with files := options.files ++ [name] }

def addFiles (options : Options) : List String → Option Options
  | [] => some options
  | name :: names => (options.addFile name).bind (·.addFiles names)

/-- The request of a command line that has been read to its end. -/
def finish (options : Options) : Option Request :=
  if options.files.isEmpty then none else some (.compile options)

end Options

namespace Arguments

/-- What one argument leads to: on to the next one, or to a request at once. -/
inductive Effect where
  | next (options : Options)
  | request (request : Request)

/-- Flags of one letter, several of which may share a dash. -/
def readLetters (options : Options) : Text → Option Effect
  | [] => some (.next options)
  | 'v' :: letters => options.setVerbose.bind (readLetters · letters)
  | 'V' :: _ => some (.request .version)
  | 'h' :: _ => some (.request .help)
  | _ => none

/-- A flag with a long name, and what stands after its equals sign. -/
def readLong (options : Options) (name : Text) (value : Option Text) : Option Effect :=
  match String.ofList name, value with
  | "tokens", none => options.setTokens.map .next
  | "ast", none => options.setStatements.map .next
  | "verbose", none => options.setVerbose.map .next
  | "version", none => some (.request .version)
  | "help", none => some (.request .help)
  | "max-depth", some value => (options.setLimit value).map .next
  | _, _ => none

/-- Splits an argument at its first equals sign. -/
def splitValue (argument : Text) : Text × Option Text :=
  match argument.span (· != '=') with
  | (name, []) => (name, none)
  | (name, _ :: value) => (name, some value)

/-- An argument that is neither `--` nor a flag whose value is the next argument. -/
def readSingle (options : Options) (argument : String) : Option Effect :=
  match argument.toList with
  | '-' :: '-' :: long =>
      let (name, value) := splitValue long
      readLong options name value
  | '-' :: letter :: letters => readLetters options (letter :: letters)
  | _ => (options.addFile argument).map .next

/-- Whether an argument looks like a flag. -/
def isFlag (argument : String) : Bool :=
  argument.toList.head? == some '-'

/-- Reads arguments after those that gave the options so far; nothing if one is refused. -/
def readFrom (options : Options) : List String → Option Request
  | [] => options.finish
  | "--" :: names => (options.addFiles names).bind Options.finish
  | "--max-depth" :: arguments =>
      match arguments with
      | [] => none
      | value :: rest =>
          if isFlag value then none
          else (options.setLimit value.toList).bind (readFrom · rest)
  | argument :: rest =>
      match readSingle options argument with
      | none => none
      | some (.request request) => some request
      | some (.next options) => readFrom options rest

/-- The request of a command line; nothing if it is refused. -/
def read (arguments : List String) : Option Request :=
  readFrom {} arguments

end Arguments

end FrontEnd
