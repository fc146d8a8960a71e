import FrontEnd.Text.Quoted
import FrontEnd.Token.Basic

namespace FrontEnd

/-- Why a source is refused. -/
inductive Cause where
  | unrecognisedCharacter (character : Char)
  | unexpectedToken (expected : Kind) (found : Text)
  | misplacedToken (token : Text) (message : String)
  | endOfInput (expected : String)
  | numberOutOfRange (token : Text)
  | unsupported (construct : String)
  | nestingTooDeep (limit : Nat)
  deriving DecidableEq, Repr

namespace Cause

def name : Cause → String
  | unrecognisedCharacter _ => "UnrecognisedCharacter"
  | unexpectedToken _ _ => "UnexpectedToken"
  | misplacedToken _ _ => "UnexpectedTokenDetailed"
  | endOfInput _ => "UnexpectedEndOfInput"
  | numberOutOfRange _ => "NumberParseError"
  | unsupported _ => "Unsupported"
  | nestingTooDeep _ => "NestingTooDeep"

def isUnsupported : Cause → Bool
  | unsupported _ => true
  | _ => false

private def quoteCharacter (character : Char) : String :=
  String.ofList (Quoted.character character)

private def quoteText (text : Text) : String :=
  String.ofList (Quoted.string text)

def message : Cause → String
  | unrecognisedCharacter character => "unrecognised character: " ++ quoteCharacter character
  | unexpectedToken expected found =>
      "unexpected token: expected " ++ expected.name ++ ", found " ++ quoteText found
  | misplacedToken token message =>
      "unexpected token (" ++ quoteText message.toList ++ "): " ++ quoteText token
  | endOfInput expected => "unexpected end of input: expected " ++ expected
  | numberOutOfRange token => "error parsing number: " ++ quoteText token
  | unsupported construct => "unsupported construct: " ++ construct
  | nestingTooDeep limit => "nesting deeper than " ++ toString limit ++ " levels"

/-- What a reader of the message might do about it. -/
def tip? : Cause → Option String
  | unrecognisedCharacter _ => none
  | unexpectedToken expected found =>
      some ("expected `" ++ expected.name ++ "`, found `" ++ String.ofList found ++ "`")
  | misplacedToken token message =>
      some ("Unexpected token: `" ++ String.ofList token ++ "`, " ++ message)
  | endOfInput expected =>
      some ("Source ended while expecting " ++ expected ++ ", is a block left open?")
  | numberOutOfRange token =>
      some ("Invalid number: `" ++ String.ofList token ++ "`, is it above the integer limit?")
  | unsupported construct => some (construct ++ " is not supported yet")
  | nestingTooDeep limit => some ("Nesting is limited to " ++ toString limit ++ " levels")

/-- The labelled parts of a cause, as they are shown in its structural form. -/
def parts : Cause → List (String × String)
  | unrecognisedCharacter character => [("character", quoteCharacter character)]
  | unexpectedToken expected found => [("expected", expected.name), ("found", quoteText found)]
  | misplacedToken token message =>
      [("token", quoteText token), ("message", quoteText message.toList)]
  | endOfInput expected => [("expected", quoteText expected.toList)]
  | numberOutOfRange token => [("token", quoteText token)]
  | unsupported construct => [("construct", quoteText construct.toList)]
  | nestingTooDeep limit => [("limit", toString limit)]

/-- The structural form of a cause: its name and its labelled parts. -/
def structuralForm (cause : Cause) : String :=
  cause.name ++ " \x7b " ++
    ", ".intercalate (cause.parts.map fun (label, part) => label ++ ": " ++ part) ++ " \x7d"

end Cause

/-- A refusal: its cause, the line it is reported on and, if there is one, the span to blame. -/
structure Diagnostic where
  cause : Cause
  line : Nat
  span : Option Span
  deriving DecidableEq, Repr

namespace Diagnostic

/-- The message of the cause and the line. -/
def message (diagnostic : Diagnostic) : String :=
  diagnostic.cause.message ++ " on line " ++ toString diagnostic.line

end Diagnostic

end FrontEnd
