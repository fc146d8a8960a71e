import FrontEnd.Text.Basic

namespace FrontEnd

structure ByteCursor where
  source : Text
  position : Nat

namespace ByteCursor

def start (source : Text) : ByteCursor :=
  ⟨source, 0⟩

def byte? (cursor : ByteCursor) : Option UInt8 :=
  cursor.source.bytes[cursor.position]?

def next? (cursor : ByteCursor) : Option UInt8 :=
  cursor.source.bytes[cursor.position + 1]?

/-- The text from the cursor on; nothing inside a character or beyond the end. -/
def remainder? (cursor : ByteCursor) : Option Text :=
  cursor.source.dropBytes? cursor.position

def atEnd (cursor : ByteCursor) : Bool :=
  cursor.source.byteLength ≤ cursor.position

def advance (cursor : ByteCursor) (count : Nat) : ByteCursor :=
  { cursor with position := cursor.position + count }

end ByteCursor

end FrontEnd
