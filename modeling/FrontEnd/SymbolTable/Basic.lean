import FrontEnd.Text.Basic

/-!
Symbol tables over one source text. A symbol is named by a span and found by the text that the
span covers, so spans at different places with the same text name the same symbol. The table has
open addressing with linear probing; it doubles before an insertion that finds it half full, which
leaves an empty slot for every search to end in.
-/

namespace FrontEnd

/-- What kind of type a symbol has. -/
inductive SymbolKind where
  | i32
  | struct
  deriving DecidableEq, Repr

def SymbolKind.label : SymbolKind → String
  | .i32 => "I32"
  | .struct => "Struct"

/-- A recorded name, where it stands and what kind of type it has. -/
structure Symbol where
  name : Text
  span : Span
  kind : SymbolKind
  deriving DecidableEq, Repr

/-- Symbols of a source, in slots. The number of occupied slots is kept beside them. -/
structure SymbolTable where
  source : Text
  slots : Array (Option Symbol)
  occupied : Nat

namespace SymbolTable

/-- Multiplies by 33 and adds the next byte, modulo 2^32, from 5381. -/
def hash (bytes : List UInt8) : UInt32 :=
  bytes.foldl (fun value byte => value * 33 + byte.toUInt32) 5381

def defaultCapacity : Nat := 1500

/-- A table without symbols. It has at least two slots. -/
def empty (source : Text) (capacity : Nat) : SymbolTable :=
  ⟨source, Array.replicate (max capacity 2) none, 0⟩

def capacity (table : SymbolTable) : Nat :=
  table.slots.size

def isEmpty (table : SymbolTable) : Bool :=
  table.occupied == 0

/-- The symbols of a table in slot order. -/
def symbols (table : SymbolTable) : List Symbol :=
  table.slots.toList.filterMap id

/-- The slot where the search for a name begins. -/
def home (table : SymbolTable) (name : Text) : Nat :=
  (hash name.bytes).toNat % table.capacity

/-- Searches at most the given number of slots from an index on, for the slot that holds a name or
the first empty one. -/
def probeFrom (slots : Array (Option Symbol)) (name : Text) : Nat → Nat → Nat
  | 0, index => index
  | steps + 1, index =>
      match slots[index]? with
      | some (some symbol) =>
          if symbol.name = name then index
          else probeFrom slots name steps ((index + 1) % slots.size)
      | _ => index

/-- The slot that holds a name, or the empty one where it would be put. -/
def probe (table : SymbolTable) (name : Text) : Nat :=
  probeFrom table.slots name table.capacity (table.home name)

def find? (table : SymbolTable) (name : Text) : Option Symbol :=
  table.slots[table.probe name]?.join

/-- Puts a symbol in its slot, in the place of one with the same name. -/
def put (table : SymbolTable) (symbol : Symbol) : SymbolTable :=
  let index := table.probe symbol.name
  { table with
    slots := table.slots.setIfInBounds index (some symbol)
    occupied :=
      if table.slots[index]?.join.isNone then table.occupied + 1 else table.occupied }

/-- Twice as many slots, into which the symbols are put in the order of their old slots. -/
def expand (table : SymbolTable) : SymbolTable :=
  table.symbols.foldl put
    { table with slots := Array.replicate (table.capacity * 2) none, occupied := 0 }

def isHalfFull (table : SymbolTable) : Bool :=
  table.capacity ≤ 2 * table.occupied

/-- The table with room for one more symbol. -/
def withRoom (table : SymbolTable) : SymbolTable :=
  if table.isHalfFull then table.expand else table

/-- Records what a span names. A span that does not fit the source is refused; by then the table
has already made room, and the refusal carries it. -/
def insert (table : SymbolTable) (span : Span) (kind : SymbolKind) :
    Except SymbolTable SymbolTable :=
  match span.slice? table.source with
  | some name => .ok (table.withRoom.put ⟨name, span, kind⟩)
  | none => .error table.withRoom

/-- What is recorded for the text of a span; nothing when the span does not fit the source. -/
def lookup? (table : SymbolTable) (span : Span) : Option (Option Symbol) :=
  (span.slice? table.source).map table.find?

end SymbolTable

end FrontEnd
