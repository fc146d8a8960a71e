import FrontEnd.Proofs.SymbolTable.Probing
import Mathlib.Data.Finmap

namespace FrontEnd

namespace SymbolTable

variable {source : Text} {table : SymbolTable} {symbol : Symbol} {name : Text}

/-- What can be done to a table. -/
inductive Operation where
  | insert (span : Span) (kind : SymbolKind)
  | expand

/-- The span of an operation, if it has one, covers a part of the source. -/
def Operation.Fits (source : Text) : Operation → Prop
  | insert span _ => ∃ name, span.slice? source = some name
  | expand => True

def apply (table : SymbolTable) : Operation → Except SymbolTable SymbolTable
  | .insert span kind => table.insert span kind
  | .expand => .ok table.expand

def run (table : SymbolTable) : List Operation → Except SymbolTable SymbolTable
  | [] => .ok table
  | operation :: operations =>
      match table.apply operation with
      | .ok next => next.run operations
      | .error left => .error left

/-- The effect of an operation on the map from texts to symbols. -/
def record (source : Text) (map : Finmap fun _ : Text => Symbol) :
    Operation → Finmap fun _ : Text => Symbol
  | .insert span kind =>
      match span.slice? source with
      | some name => map.insert name ⟨name, span, kind⟩
      | none => map
  | .expand => map

/-- The map that operations make of the empty one. -/
def recorded (source : Text) (operations : List Operation) : Finmap fun _ : Text => Symbol :=
  operations.foldl (record source) ∅

/-- A table over a source that stands for a map. -/
structure Refines (source : Text) (table : SymbolTable)
    (map : Finmap fun _ : Text => Symbol) : Prop where
  wellformed : table.Wellformed
  source_eq : table.source = source
  two_le_capacity : 2 ≤ table.capacity
  find?_eq : ∀ name, table.find? name = map.lookup name

theorem find?_put (h : table.Wellformed) (hroom : table.occupied + 1 < table.capacity) :
    (table.put symbol).find? name =
      if name = symbol.name then some symbol else table.find? name := by
  apply Option.ext
  intro other
  rw [(h.put hroom symbol).find?_eq_some_iff, mem_symbols_put h]
  split
  · rename_i hname
    subst hname
    constructor
    · rintro ⟨rfl | ⟨-, hother⟩, hname⟩
      · rfl
      · exact absurd hname hother
    · rintro ⟨⟩
      exact ⟨.inl rfl, rfl⟩
  · rename_i hname
    rw [h.find?_eq_some_iff]
    constructor
    · rintro ⟨rfl | ⟨hmem, -⟩, rfl⟩
      · exact absurd rfl hname
      · exact ⟨hmem, rfl⟩
    · rintro ⟨hmem, rfl⟩
      exact ⟨.inr ⟨hmem, hname⟩, rfl⟩

theorem find?_of_mem_iff {other : SymbolTable} (h : table.Wellformed) (hother : other.Wellformed)
    (hmem : ∀ symbol, symbol ∈ other.symbols ↔ symbol ∈ table.symbols) (name : Text) :
    other.find? name = table.find? name := by
  apply Option.ext
  intro symbol
  rw [hother.find?_eq_some_iff, h.find?_eq_some_iff, hmem]

namespace Refines

variable {map : Finmap fun _ : Text => Symbol}

theorem empty (source : Text) (capacity : Nat) :
    Refines source (SymbolTable.empty source capacity) ∅ := by
  have hwellformed : (SymbolTable.empty source capacity).Wellformed :=
    wellformed_replicate source (by omega)
  constructor
  · exact hwellformed
  · rfl
  · rw [SymbolTable.empty, SymbolTable.capacity, Array.size_replicate]
    exact Nat.le_max_right capacity 2
  · intro name
    rw [Finmap.lookup_empty, Option.eq_none_iff_forall_ne_some]
    intro symbol hfind
    obtain ⟨hmem, -⟩ := hwellformed.find?_eq_some_iff.mp hfind
    obtain ⟨index, hholds⟩ := mem_symbols.mp hmem
    exact not_holds_replicate _ _ _ hholds

theorem expand (h : Refines source table map) : Refines source table.expand map := by
  constructor
  · exact h.wellformed.expand
  · rw [source_expand, h.source_eq]
  · have := h.two_le_capacity
    rw [capacity_expand]
    omega
  · intro name
    rw [← h.find?_eq]
    exact find?_of_mem_iff h.wellformed h.wellformed.expand
      (fun _ => mem_symbols_expand h.wellformed) name

theorem withRoom (h : Refines source table map) : Refines source table.withRoom map := by
  rw [SymbolTable.withRoom]
  split
  · exact h.expand
  · exact h

theorem put (h : Refines source table map) (hroom : table.occupied + 1 < table.capacity)
    (symbol : Symbol) : Refines source (table.put symbol) (map.insert symbol.name symbol) := by
  constructor
  · exact h.wellformed.put hroom symbol
  · exact h.source_eq
  · rw [capacity_put]
    exact h.two_le_capacity
  · intro name
    rw [find?_put h.wellformed hroom]
    split
    · rename_i hname
      rw [hname, Finmap.lookup_insert]
    · rename_i hname
      rw [Finmap.lookup_insert_of_ne map hname, h.find?_eq]

theorem apply (h : Refines source table map) {operation : Operation}
    (hfits : operation.Fits source) :
    ∃ next, table.apply operation = .ok next ∧
      Refines source next (record source map operation) := by
  cases operation with
  | insert span kind =>
      obtain ⟨name, hname⟩ := hfits
      have hroom := occupied_withRoom_lt h.wellformed h.two_le_capacity
      refine ⟨table.withRoom.put ⟨name, span, kind⟩, ?_, ?_⟩
      · rw [SymbolTable.apply, SymbolTable.insert, h.source_eq, hname]
      · rw [record, hname]
        exact h.withRoom.put hroom ⟨name, span, kind⟩
  | expand => exact ⟨table.expand, rfl, h.expand⟩

theorem run (h : Refines source table map) {operations : List Operation}
    (hfits : ∀ operation ∈ operations, operation.Fits source) :
    ∃ last, table.run operations = .ok last ∧
      Refines source last (operations.foldl (record source) map) := by
  induction operations generalizing table map with
  | nil => exact ⟨table, rfl, h⟩
  | cons operation operations ih =>
      obtain ⟨next, hnext, hrefines⟩ := h.apply (hfits operation List.mem_cons_self)
      obtain ⟨last, hlast, hrest⟩ := ih hrefines fun other hother =>
        hfits other (List.mem_cons_of_mem operation hother)
      refine ⟨last, ?_, hrest⟩
      rw [SymbolTable.run, hnext]
      exact hlast

theorem mem_symbols_iff (h : Refines source table map) (symbol : Symbol) :
    symbol ∈ table.symbols ↔ map.lookup symbol.name = some symbol := by
  rw [← h.find?_eq, h.wellformed.find?_eq_some_iff]
  exact (and_iff_left rfl).symm

theorem occupied_eq (h : Refines source table map) : table.occupied = map.keys.card := by
  have hkeys : (table.symbols.map Symbol.name).toFinset = map.keys := by
    ext name
    rw [List.mem_toFinset, Finmap.mem_keys, ← Finmap.lookup_isSome, Option.isSome_iff_exists,
      List.mem_map]
    simp only [← h.find?_eq, h.wellformed.find?_eq_some_iff]
  rw [h.wellformed.occupied_eq, ← hkeys, List.toFinset_card_of_nodup h.wellformed.nodup_names,
    List.length_map]

end Refines

/-- Whatever operations are carried out on a new table, it stands for the map that they make of the
empty one: by its lookups, by the number of its symbols and by the list of them. -/
theorem run_refines_recorded (source : Text) (capacity : Nat) {operations : List Operation}
    (hfits : ∀ operation ∈ operations, operation.Fits source) :
    ∃ table, (SymbolTable.empty source capacity).run operations = .ok table ∧
      (∀ span name, span.slice? source = some name →
        table.lookup? span = some ((recorded source operations).lookup name)) ∧
      table.occupied = (recorded source operations).keys.card ∧
      table.symbols.Nodup ∧
      ∀ symbol, symbol ∈ table.symbols ↔
        (recorded source operations).lookup symbol.name = some symbol := by
  obtain ⟨table, hrun, h⟩ := (Refines.empty source capacity).run hfits
  refine ⟨table, hrun, ?_, h.occupied_eq, h.wellformed.nodup_names.of_map, h.mem_symbols_iff⟩
  intro span name hname
  rw [lookup?, h.source_eq, hname, Option.map_some, h.find?_eq, recorded]

/-- The second insertion of a text wins, in a table that starts with the smallest capacity. -/
theorem run_refines_recorded_overwrite :
    let source : Text := "a bb a".toList
    let operations : List Operation :=
      [.insert ⟨0, 1⟩ .i32, .insert ⟨2, 4⟩ .i32, .expand, .insert ⟨5, 6⟩ .struct]
    (∀ operation ∈ operations, operation.Fits source) ∧
      ∃ table, (SymbolTable.empty source 0).run operations = .ok table ∧
        table.lookup? ⟨0, 1⟩ = some (some ⟨"a".toList, ⟨5, 6⟩, .struct⟩) ∧
        table.lookup? ⟨1, 2⟩ = some none ∧ table.occupied = 2 := by
  intro source operations
  have hfits : ∀ operation ∈ operations, operation.Fits source := by
    simp only [operations, List.forall_mem_cons, List.not_mem_nil, false_implies, implies_true]
    exact ⟨⟨"a".toList, by decide⟩, ⟨"bb".toList, by decide⟩, trivial, ⟨"a".toList, by decide⟩,
      trivial⟩
  obtain ⟨table, hrun, hlookup, hoccupied, -⟩ := run_refines_recorded source 0 hfits
  refine ⟨hfits, table, hrun, ?_, ?_, ?_⟩
  · exact hlookup ⟨0, 1⟩ "a".toList (by decide)
  · exact hlookup ⟨1, 2⟩ " ".toList (by decide)
  · rw [hoccupied]
    rfl

end SymbolTable

end FrontEnd
