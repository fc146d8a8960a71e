import FrontEnd.Text.Basic
import FrontEnd.Text.Unicode

namespace FrontEnd

namespace Quoted

/-- A code point in lower-case hexadecimal digits. -/
def codePoint (character : Char) : Text :=
  '\\' :: 'u' :: '{' :: Nat.toDigits 16 character.toNat ++ ['}']

/-- Whether a character would not be seen, or would be seen as a part of the one before it. -/
def isHidden (character : Char) : Bool :=
  isUnprintable character || isDefaultIgnorable character || isCombiningMark character

/-- How a character is written between two of the given quotes. -/
def escape (quote character : Char) : Text :=
  if character = '\x00' then ['\\', '0']
  else if character = '\t' then ['\\', 't']
  else if character = '\r' then ['\\', 'r']
  else if character = '\n' then ['\\', 'n']
  else if character = '\\' ∨ character = quote then ['\\', character]
  else if isHidden character then codePoint character
  else [character]

def character (value : Char) : Text :=
  '\'' :: escape '\'' value ++ ['\'']

def string (value : Text) : Text :=
  '"' :: value.flatMap (escape '"') ++ ['"']

end Quoted

end FrontEnd
