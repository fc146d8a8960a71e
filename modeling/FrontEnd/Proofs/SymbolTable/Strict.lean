import FrontEnd.Proofs.SymbolTable.LoadFactor

namespace FrontEnd

namespace SymbolTable

/-- The search of `probeFrom`, by the spans in the slots. -/
def searchFrom? (source : Text) (slots : Array (Option Symbol)) (name : Text) :
    Nat → Nat → Option Nat
  | 0, _ => none
  | steps + 1, index =>
      match slots[index]? with
      | none => none
      | some none => some index
      | some (some symbol) =>
          (symbol.span.slice? source).bind fun text =>
            if text = name then some index
            else searchFrom? source slots name steps ((index + 1) % slots.size)

/-- The slot for the text of a span. -/
def slotOf? (table : SymbolTable) (span : Span) : Option Nat :=
  (span.slice? table.source).bind fun name =>
    searchFrom? table.source table.slots name table.capacity (table.home name)

def strictLookup? (table : SymbolTable) (span : Span) : Option (Option Symbol) :=
  (table.slotOf? span).bind (table.slots[·]?)

/-- Puts a symbol for the text of a span in its slot. -/
def strictPut? (table : SymbolTable) (span : Span) (kind : SymbolKind) : Option SymbolTable := do
  let index ← table.slotOf? span
  let slot ← table.slots[index]?
  let name ← span.slice? table.source
  return { table with
    slots := table.slots.setIfInBounds index (some ⟨name, span, kind⟩)
    occupied := if slot.isNone then table.occupied + 1 else table.occupied }

/-- Inserts what a span names, with at most the given number of expansions inside one another. -/
def strictInsert? : Nat → SymbolTable → Span × SymbolKind → Option SymbolTable
  | 0, table, (span, kind) => if table.isHalfFull then none else table.strictPut? span kind
  | depth + 1, table, (span, kind) => do
      let roomy ←
        if table.isHalfFull then table.records.foldlM (strictInsert? depth) table.doubled
        else some table
      roomy.strictPut? span kind

/-- The table in which an insertion looks for its slot, once the symbols are inserted anew. -/
def strictRoom? (table : SymbolTable) : Option SymbolTable :=
  if table.isHalfFull then table.records.foldlM (strictInsert? 0) table.doubled else some table

variable {source : Text} {initial : Nat} {table : SymbolTable} {name : Text} {span : Span}

/-- A search by the spans in the slots follows one by their names. -/
theorem Inspects.searchFrom?_eq {slots : Array (Option Symbol)} {index stop steps : Nat}
    {visited : List Nat} (h : Inspects slots name index visited stop)
    (hnamed : ∀ (index : Nat) symbol, slots[index]? = some (some symbol) →
      symbol.span.slice? source = some symbol.name)
    (hsteps : visited.length ≤ steps) :
    searchFrom? source slots name steps index = some stop := by
  induction h generalizing steps with
  | empty hslot =>
      obtain ⟨steps, rfl⟩ := Nat.exists_eq_add_one_of_ne_zero (Nat.ne_zero_of_lt hsteps)
      rw [searchFrom?, hslot]
  | @found index symbol hslot hname =>
      obtain ⟨steps, rfl⟩ := Nat.exists_eq_add_one_of_ne_zero (Nat.ne_zero_of_lt hsteps)
      simp only [searchFrom?, hslot, hnamed index symbol hslot, Option.bind_some, if_pos hname]
  | @next index _ symbol _ hslot hname _ ih =>
      obtain ⟨steps, rfl⟩ := Nat.exists_eq_add_one_of_ne_zero (Nat.ne_zero_of_lt hsteps)
      simp only [searchFrom?, hslot, hnamed index symbol hslot, Option.bind_some, if_neg hname]
      exact ih (Nat.le_of_succ_le_succ hsteps)

namespace Balanced

variable (h : Balanced source initial table)

include h

theorem slotOf?_eq (hname : span.slice? source = some name) :
    table.slotOf? span = some (table.probe name) := by
  obtain ⟨distance, hdistance, hsearch⟩ := h.wellformed.exists_search name
  have hinspects := hsearch.inspects_from (Nat.zero_lt_of_lt hdistance) (Nat.zero_add distance)
  rw [slotOf?, h.source_eq, hname, Option.bind_some, ← along_zero, hsearch.probe_eq hdistance]
  apply hinspects.searchFrom?_eq
  · intro index symbol hholds
    exact h.named symbol (mem_symbols.mpr ⟨index, hholds⟩)
  · rw [List.length_map, List.length_range']
    exact hdistance

theorem strictLookup?_eq (span : Span) : table.strictLookup? span = table.lookup? span := by
  rw [strictLookup?, lookup?, h.source_eq]
  cases hname : span.slice? source with
  | none => rw [slotOf?, h.source_eq, hname, Option.bind_none, Option.bind_none, Option.map_none]
  | some name =>
      rw [h.slotOf?_eq hname, Option.bind_some, Option.map_some, find?,
        Array.getElem?_eq_getElem (h.wellformed.probe_lt name), Option.join_some]

theorem strictPut?_eq (hname : span.slice? source = some name) (kind : SymbolKind) :
    table.strictPut? span kind = some (table.put ⟨name, span, kind⟩) := by
  have hslot := Array.getElem?_eq_getElem (h.wellformed.probe_lt name)
  simp only [strictPut?, h.slotOf?_eq hname, h.source_eq, hname, hslot, Option.bind_eq_bind,
    Option.bind_some, put, Option.join_some]
  rfl

theorem doubled : Balanced source initial table.doubled := by
  have htwo := h.two_le_capacity
  refine ⟨h.wellformed.doubled, h.source_eq, ?_, Nat.zero_le _, ?_, ?_⟩
  · rw [capacity_doubled]
    omega
  · intro _
    rw [capacity_doubled, Nat.even_iff]
    omega
  · intro symbol hsymbol
    exact absurd hsymbol (not_mem_symbols_doubled table symbol)

theorem foldlM_strictInsert?_zero {symbols : List Symbol}
    (hnames : ∀ symbol ∈ symbols, symbol.span.slice? source = some symbol.name)
    (hroom : 2 * (table.occupied + symbols.length) ≤ table.capacity) :
    (symbols.map fun symbol => (symbol.span, symbol.kind)).foldlM (strictInsert? 0) table =
      some (symbols.foldl put table) := by
  induction symbols generalizing table with
  | nil => rfl
  | cons symbol symbols ih =>
      rw [List.length_cons] at hroom
      have hname := hnames symbol List.mem_cons_self
      have hfull : table.isHalfFull = false := by
        rw [isHalfFull, decide_eq_false_iff_not]
        omega
      have hwithRoom : table.withRoom = table := by
        rw [SymbolTable.withRoom, hfull]
        rfl
      have hput := h.insert hname
      rw [hwithRoom] at hput
      have hoccupied := occupied_put_le table symbol
      have hfirst : strictInsert? 0 table (symbol.span, symbol.kind) = some (table.put symbol) := by
        rw [strictInsert?, hfull]
        exact h.strictPut?_eq hname symbol.kind
      rw [List.map_cons, List.foldlM_cons, hfirst]
      apply ih hput (fun other hother => hnames other (List.mem_cons_of_mem symbol hother))
      rw [capacity_put]
      omega

theorem strictRoom?_eq : table.strictRoom? = some table.withRoom := by
  have hroom : 2 * (table.doubled.occupied + table.symbols.length) ≤ table.doubled.capacity := by
    have hoccupied := h.wellformed.occupied_eq
    have hlt := h.wellformed.occupied_lt
    have hzero : table.doubled.occupied = 0 := rfl
    rw [hzero, capacity_doubled]
    omega
  have hexpand : table.records.foldlM (strictInsert? 0) table.doubled = some table.expand :=
    h.doubled.foldlM_strictInsert?_zero h.named hroom
  rw [strictRoom?, SymbolTable.withRoom, hexpand]
  split
  · rfl
  · rfl

omit h in
theorem strictInsert?_one_eq_bind (table : SymbolTable) (span : Span) (kind : SymbolKind) :
    strictInsert? 1 table (span, kind) = table.strictRoom?.bind (·.strictPut? span kind) := by
  rw [strictInsert?, strictRoom?]
  split
  · rfl
  · rfl

theorem strictInsert?_one (hname : span.slice? source = some name) (kind : SymbolKind) :
    strictInsert? 1 table (span, kind) = some (table.withRoom.put ⟨name, span, kind⟩) := by
  rw [strictInsert?_one_eq_bind, h.strictRoom?_eq, Option.bind_some]
  exact h.withRoom.strictPut?_eq hname kind

theorem strictInsert?_one_eq_none_iff (kind : SymbolKind) :
    strictInsert? 1 table (span, kind) = none ↔ span.slice? source = none := by
  cases hname : span.slice? source with
  | some name => simp [h.strictInsert?_one hname]
  | none =>
      have hslot : table.withRoom.slotOf? span = none := by
        rw [slotOf?, h.withRoom.source_eq, hname, Option.bind_none]
      rw [strictInsert?_one_eq_bind, h.strictRoom?_eq, Option.bind_some, strictPut?, hslot]
      simp

/-- Names that fit the source are all inserted, and no expansion leads to another. -/
theorem foldlM_strictInsert?_one {names : List (Span × SymbolKind)}
    (hnames : ∀ record ∈ names, ∃ name, record.1.slice? source = some name) :
    ∃ last, table.insertAll names = .ok last ∧ names.foldlM (strictInsert? 1) table = some last ∧
      Balanced source initial last := by
  induction names generalizing table with
  | nil => exact ⟨table, rfl, rfl, h⟩
  | cons record names ih =>
      obtain ⟨span, kind⟩ := record
      obtain ⟨name, hname⟩ := hnames _ List.mem_cons_self
      have hinsert : Balanced source initial (table.withRoom.put ⟨name, span, kind⟩) :=
        h.insert hname
      obtain ⟨last, hlast, hstrict, hbalanced⟩ := ih hinsert
        (fun other hother => hnames other (List.mem_cons_of_mem _ hother))
      refine ⟨last, ?_, ?_, hbalanced⟩
      · rw [insertAll, SymbolTable.insert, h.source_eq, hname]
        exact hlast
      · rw [List.foldlM_cons, h.strictInsert?_one hname]
        exact hstrict

end Balanced

end SymbolTable

end FrontEnd
