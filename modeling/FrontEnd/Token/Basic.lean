import FrontEnd.Text.Basic

namespace FrontEnd

/-- What a token is, whatever its spelling. -/
inductive Kind where
  | number
  | identifier
  | openBracket
  | closeBracket
  | openCurly
  | closeCurly
  | openParen
  | closeParen
  | assignment
  | dot
  | semicolon
  | colon
  | colonColon
  | colonEquals
  | comma
  | arrow
  | plusEquals
  | minusEquals
  | plus
  | dash
  | star
  | structKeyword
  | returnKeyword
  | selfKeyword
  deriving DecidableEq, Repr

namespace Kind

def all : List Kind :=
  [number, identifier, openBracket, closeBracket, openCurly, closeCurly, openParen, closeParen,
    assignment, dot, semicolon, colon, colonColon, colonEquals, comma, arrow, plusEquals,
    minusEquals, plus, dash, star, structKeyword, returnKeyword, selfKeyword]

def name : Kind → String
  | number => "Number"
  | identifier => "Identifier"
  | openBracket => "OpenBracket"
  | closeBracket => "CloseBracket"
  | openCurly => "OpenCurly"
  | closeCurly => "CloseCurly"
  | openParen => "OpenParen"
  | closeParen => "CloseParen"
  | assignment => "Assignment"
  | dot => "Dot"
  | semicolon => "Semicolon"
  | colon => "Colon"
  | colonColon => "ColonColon"
  | colonEquals => "ColonEquals"
  | comma => "Comma"
  | arrow => "Arrow"
  | plusEquals => "PlusEquals"
  | minusEquals => "MinusEquals"
  | plus => "Plus"
  | dash => "Dash"
  | star => "Star"
  | structKeyword => "Struct"
  | returnKeyword => "Return"
  | selfKeyword => "SelfKw"

def ofName? (name : String) : Option Kind :=
  all.find? (·.name == name)

/-- Whether a kind writes to a field. -/
def isAssignment : Kind → Bool
  | assignment | plusEquals | minusEquals => true
  | _ => false

def reserved? (word : Text) : Option Kind :=
  if word = "struct".toList then some structKeyword
  else if word = "return".toList then some returnKeyword
  else if word = "self".toList then some selfKeyword
  else none

/-- The kind of a word: its own if it is reserved, and else that of identifiers. -/
def ofWord (word : Text) : Kind :=
  (reserved? word).getD identifier

end Kind

/-- A lexeme of the source, named by its place. -/
structure Token where
  kind : Kind
  span : Span
  line : Nat
  deriving DecidableEq, Repr

namespace Token

/-- The spelling of a token in the text it was read from; nothing if its span does not fit the
text. -/
def lexeme? (token : Token) (source : Text) : Option Text :=
  token.span.slice? source

end Token

end FrontEnd
