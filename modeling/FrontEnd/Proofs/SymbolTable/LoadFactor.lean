import FrontEnd.Proofs.SymbolTable.Probing
import FrontEnd.SymbolTable.Declare
import Mathlib.Algebra.Group.Nat.Even
import Mathlib.Data.List.Nodup

namespace FrontEnd

namespace SymbolTable

variable {source : Text} {initial : Nat} {table : SymbolTable} {name : Text}

/-- What can be asked of a table. -/
inductive Call where
  | insert (span : Span) (kind : SymbolKind)
  | expand
  | lookup (span : Span)

/-- The table that a call leaves. A refused insertion leaves one too. -/
def after (table : SymbolTable) : Call → SymbolTable
  | .insert span kind =>
      match table.insert span kind with
      | .ok next => next
      | .error left => left
  | .expand => table.expand
  | .lookup _ => table

/-- What the symbols of a table are recorded from. -/
def records (table : SymbolTable) : List (Span × SymbolKind) :=
  table.symbols.map fun symbol => (symbol.span, symbol.kind)

/-- A search from a slot on, for as long as it takes: the slots that it inspects, in order, and the
one where it ends. -/
inductive Inspects (slots : Array (Option Symbol)) (name : Text) : Nat → List Nat → Nat → Prop
  | empty {index : Nat} : slots[index]? = some none → Inspects slots name index [index] index
  | found {index : Nat} {symbol : Symbol} : slots[index]? = some (some symbol) →
      symbol.name = name → Inspects slots name index [index] index
  | next {index stop : Nat} {symbol : Symbol} {visited : List Nat} :
      slots[index]? = some (some symbol) → symbol.name ≠ name →
      Inspects slots name ((index + 1) % slots.size) visited stop →
        Inspects slots name index (index :: visited) stop

theorem along_zero (table : SymbolTable) (name : Text) :
    table.along name 0 = table.home name :=
  Nat.mod_mod _ _

theorem along_succ (table : SymbolTable) (name : Text) (distance : Nat) :
    table.along name (distance + 1) = (table.along name distance + 1) % table.slots.size := by
  rw [along, along, ← Nat.add_assoc]
  exact (Nat.mod_add_mod _ _ _).symm

namespace Search

variable {distance : Nat}

theorem inspects_last (h : table.Search name distance) (hcapacity : 0 < table.capacity) :
    Inspects table.slots name (table.along name distance) [table.along name distance]
      (table.along name distance) := by
  obtain ⟨slot, hslot⟩ : ∃ slot, table.slots[table.along name distance]? = some slot :=
    ⟨_, Array.getElem?_eq_getElem (along_lt hcapacity name distance)⟩
  cases slot with
  | none => exact .empty hslot
  | some symbol => exact .found hslot (h.stops symbol hslot)

theorem inspects_from (h : table.Search name distance) (hcapacity : 0 < table.capacity)
    {step left : Nat} (hleft : step + left = distance) :
    Inspects table.slots name (table.along name step)
      ((List.range' step (left + 1)).map (table.along name)) (table.along name distance) := by
  induction left generalizing step with
  | zero =>
      obtain rfl : step = distance := hleft
      exact h.inspects_last hcapacity
  | succ left ih =>
      obtain ⟨other, hother, hname⟩ := h.passes step (by omega)
      have hrest := @ih (step + 1) (by omega)
      rw [along_succ] at hrest
      rw [List.range'_succ, List.map_cons]
      exact .next hother hname hrest

theorem nodup_along (hdistance : distance < table.capacity) :
    ((List.range' 0 (distance + 1)).map (table.along name)).Nodup := by
  refine (List.nodup_range' 1).map_on fun first hfirst second hsecond heq => ?_
  rw [List.mem_range'_1] at hfirst hsecond
  exact along_inj (by omega) (by omega) heq

end Search

/-- A search in a well-formed table ends, and inspects no slot twice. -/
theorem Wellformed.exists_inspects (h : table.Wellformed) (name : Text) :
    ∃ visited, Inspects table.slots name (table.home name) visited (table.probe name) ∧
      visited.Nodup := by
  obtain ⟨distance, hdistance, hsearch⟩ := h.exists_search name
  refine ⟨(List.range' 0 (distance + 1)).map (table.along name), ?_, Search.nodup_along hdistance⟩
  rw [hsearch.probe_eq hdistance, ← along_zero]
  exact hsearch.inspects_from (Nat.zero_lt_of_lt hdistance) (Nat.zero_add distance)

theorem Wellformed.occupied_eq_countP (h : table.Wellformed) :
    table.occupied = table.slots.toList.countP Option.isSome := by
  rw [h.occupied_eq, symbols, List.length_filterMap_eq_countP]
  rfl

/-- A table over a source that had so many slots at first. -/
structure Balanced (source : Text) (initial : Nat) (table : SymbolTable) : Prop where
  wellformed : table.Wellformed
  source_eq : table.source = source
  two_le_capacity : 2 ≤ table.capacity
  load_le : 2 * table.occupied ≤ table.capacity + 1
  even_capacity : Even initial → Even table.capacity
  named : ∀ symbol ∈ table.symbols, symbol.span.slice? source = some symbol.name

theorem occupied_expand (h : table.Wellformed) : table.expand.occupied = table.occupied := by
  have hperm : table.expand.symbols.Perm table.symbols :=
    (List.perm_ext_iff_of_nodup h.expand.nodup_names.of_map h.nodup_names.of_map).mpr
      fun _ => mem_symbols_expand h
  rw [h.expand.occupied_eq, h.occupied_eq, hperm.length_eq]

theorem occupied_withRoom (h : table.Wellformed) : table.withRoom.occupied = table.occupied := by
  rw [withRoom]
  split
  · exact occupied_expand h
  · rfl

namespace Balanced

theorem empty (source : Text) (capacity : Nat) :
    Balanced source (max capacity 2) (SymbolTable.empty source capacity) := by
  have hwellformed : (SymbolTable.empty source capacity).Wellformed :=
    wellformed_replicate source (by omega)
  have hcapacity : (SymbolTable.empty source capacity).capacity = max capacity 2 :=
    Array.size_replicate
  refine ⟨hwellformed, rfl, ?_, Nat.zero_le _, ?_, ?_⟩
  · rw [hcapacity]
    exact Nat.le_max_right capacity 2
  · rw [hcapacity]
    exact id
  · intro symbol hsymbol
    obtain ⟨index, hholds⟩ := mem_symbols.mp hsymbol
    exact absurd hholds (not_holds_replicate _ _ _)

theorem expand (h : Balanced source initial table) : Balanced source initial table.expand := by
  have htwo := h.two_le_capacity
  have hlt := h.wellformed.occupied_lt
  refine ⟨h.wellformed.expand, ?_, ?_, ?_, ?_, ?_⟩
  · rw [source_expand, h.source_eq]
  · rw [capacity_expand]
    omega
  · rw [occupied_expand h.wellformed, capacity_expand]
    omega
  · intro _
    rw [capacity_expand, Nat.even_iff]
    omega
  · intro symbol hsymbol
    exact h.named symbol ((mem_symbols_expand h.wellformed).mp hsymbol)

theorem withRoom (h : Balanced source initial table) :
    Balanced source initial table.withRoom := by
  rw [SymbolTable.withRoom]
  split
  · exact h.expand
  · exact h

theorem occupied_withRoom_add_one (h : Balanced source initial table) :
    2 * (table.withRoom.occupied + 1) ≤ table.withRoom.capacity + 1 := by
  have hlt := h.wellformed.occupied_lt
  rw [occupied_withRoom h.wellformed, capacity_withRoom]
  split
  · omega
  · omega

theorem insert (h : Balanced source initial table) {symbol : Symbol}
    (hname : symbol.span.slice? source = some symbol.name) :
    Balanced source initial (table.withRoom.put symbol) := by
  have hroom := occupied_withRoom_lt h.wellformed h.two_le_capacity
  have hload := h.occupied_withRoom_add_one
  have hput := occupied_put_le table.withRoom symbol
  refine ⟨h.withRoom.wellformed.put hroom symbol, h.withRoom.source_eq, ?_, ?_, ?_, ?_⟩
  · rw [capacity_put]
    exact h.withRoom.two_le_capacity
  · rw [capacity_put]
    omega
  · rw [capacity_put]
    exact h.withRoom.even_capacity
  · intro other hother
    rcases (mem_symbols_put h.withRoom.wellformed).mp hother with rfl | ⟨hold, -⟩
    · exact hname
    · exact h.withRoom.named other hold

theorem after (h : Balanced source initial table) (call : Call) :
    Balanced source initial (table.after call) := by
  cases call with
  | insert span kind =>
      rw [SymbolTable.after, SymbolTable.insert, h.source_eq]
      cases hname : span.slice? source with
      | some name => exact h.insert hname
      | none => exact h.withRoom
  | expand => exact h.expand
  | lookup span => exact h

theorem foldl_after (h : Balanced source initial table) (calls : List Call) :
    Balanced source initial (calls.foldl SymbolTable.after table) := by
  induction calls generalizing table with
  | nil => exact h
  | cons call calls ih => exact ih (h.after call)

theorem load_le_of_even (h : Balanced source initial table) (heven : Even initial) :
    2 * table.occupied ≤ table.capacity := by
  have hload := h.load_le
  have hcapacity := Nat.even_iff.mp (h.even_capacity heven)
  omega

end Balanced

section Reinsertion

variable {symbols : List Symbol}

theorem insert_of_named {symbol : Symbol}
    (hname : symbol.span.slice? table.source = some symbol.name)
    (hroom : 2 * table.occupied < table.capacity) :
    table.isHalfFull = false ∧ table.insert symbol.span symbol.kind = .ok (table.put symbol) := by
  have hfull : table.isHalfFull = false := by
    rw [isHalfFull, decide_eq_false_iff_not]
    omega
  refine ⟨hfull, ?_⟩
  rw [SymbolTable.insert, hname, withRoom, hfull]
  rfl

/-- Where there is room for all of some symbols, inserting them is no more than putting each in its
slot. -/
theorem insertAll_of_named (hnames : ∀ symbol ∈ symbols,
      symbol.span.slice? table.source = some symbol.name)
    (hroom : 2 * (table.occupied + symbols.length) ≤ table.capacity) :
    table.insertAll (symbols.map fun symbol => (symbol.span, symbol.kind)) =
        .ok (symbols.foldl put table) ∧
      table.expansions (symbols.map fun symbol => (symbol.span, symbol.kind)) = [] := by
  induction symbols generalizing table with
  | nil => exact ⟨rfl, rfl⟩
  | cons symbol symbols ih =>
      rw [List.length_cons] at hroom
      obtain ⟨hfull, hinsert⟩ := insert_of_named (hnames symbol List.mem_cons_self) (by omega)
      have hput := occupied_put_le table symbol
      have hrest := @ih (table.put symbol)
        (fun other hother => hnames other (List.mem_cons_of_mem symbol hother))
        (by rw [capacity_put]; omega)
      constructor
      · rw [List.map_cons, insertAll, hinsert]
        exact hrest.1
      · rw [List.map_cons, expansions, hinsert, hfull]
        exact hrest.2

/-- An expansion inserts the symbols anew, and meets no table that has to expand. -/
theorem Balanced.expand_eq_insertAll (h : Balanced source initial table) :
    table.doubled.insertAll table.records = .ok table.expand ∧
      table.doubled.expansions table.records = [] := by
  have hsource : table.doubled.source = source := h.source_eq
  have hlt := h.wellformed.occupied_lt
  refine insertAll_of_named ?_ ?_
  · rw [hsource]
    exact h.named
  · have hzero : table.doubled.occupied = 0 := rfl
    rw [hzero, ← h.wellformed.occupied_eq, capacity_doubled]
    omega

end Reinsertion

/-- Whatever is asked of a new table, its count of symbols is right and its load stays low; so every
search ends without inspecting a slot twice, and an expansion, which inserts the symbols anew, does
so without another expansion, with twice the slots and as many symbols. -/
theorem foldl_after_load (source : Text) (capacity : Nat) (calls : List Call) :
    let table := calls.foldl after (SymbolTable.empty source capacity)
    (table.occupied = table.slots.toList.countP Option.isSome ∧ 2 ≤ table.capacity ∧
      table.occupied < table.capacity ∧ 2 * table.occupied ≤ table.capacity + 1 ∧
      (Even (max capacity 2) → 2 * table.occupied ≤ table.capacity)) ∧
    (∀ (span : Span) name, span.slice? source = some name →
      ∃ visited, Inspects table.slots name (table.home name) visited (table.probe name) ∧
        visited.Nodup) ∧
    table.doubled.insertAll table.records = .ok table.expand ∧
    table.doubled.expansions table.records = [] ∧
    table.expand.capacity = 2 * table.capacity ∧ table.expand.occupied = table.occupied := by
  intro table
  have h : Balanced source (max capacity 2) table :=
    (Balanced.empty source capacity).foldl_after calls
  obtain ⟨hinsert, hnone⟩ := h.expand_eq_insertAll
  refine ⟨⟨h.wellformed.occupied_eq_countP, h.two_le_capacity, h.wellformed.occupied_lt, h.load_le,
    h.load_le_of_even⟩, fun _ name _ => h.wellformed.exists_inspects name, hinsert, hnone, ?_,
    occupied_expand h.wellformed⟩
  rw [capacity_expand, Nat.mul_comm]

/-- Two symbols take more than half of three slots, and then even a refused insertion expands. -/
example :
    let table := [Call.insert ⟨0, 1⟩ .i32, .insert ⟨2, 3⟩ .struct].foldl after
      (SymbolTable.empty "a b".toList 3)
    table.occupied = 2 ∧ table.capacity = 3 ∧
      (table.after (.insert ⟨1, 4⟩ .i32)).capacity = 6 := by decide +kernel

end SymbolTable

end FrontEnd
