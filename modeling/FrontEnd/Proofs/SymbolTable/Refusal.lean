import FrontEnd.Proofs.SymbolTable.FiniteMap
import FrontEnd.Proofs.SymbolTable.Strict
import FrontEnd.Proofs.Text.Bytes

namespace FrontEnd

namespace SymbolTable

variable {source : Text} {table other : SymbolTable} {map : Finmap fun _ : Text => Symbol}

/-- The effect of a call on the map from texts to symbols. A refused insertion has none. -/
def recordCall (source : Text) (map : Finmap fun _ : Text => Symbol) :
    Call → Finmap fun _ : Text => Symbol
  | .insert span kind => record source map (.insert span kind)
  | .expand => map
  | .lookup _ => map

/-- What a call is answered with: nothing if it is refused, and else what it finds. Only a lookup
can find something. -/
def answer? (table : SymbolTable) : Call → Option (Option Symbol)
  | .insert span kind =>
      match table.insert span kind with
      | .ok _ => some none
      | .error _ => none
  | .expand => some none
  | .lookup span => table.lookup? span

/-- The answers to calls made one after another, each with the number of symbols there are then. -/
def answers (table : SymbolTable) : List Call → List (Option (Option Symbol) × Nat)
  | [] => []
  | call :: calls =>
      (table.answer? call, (table.after call).occupied) :: (table.after call).answers calls

/-- A table that can take the place of another: it holds the same symbols, and whatever is asked of
it is answered alike. -/
structure StandsFor (other table : SymbolTable) : Prop where
  occupied_eq : other.occupied = table.occupied
  lookup?_eq : ∀ span, other.lookup? span = table.lookup? span
  symbols_perm : other.symbols.Perm table.symbols
  answers_eq : ∀ calls, other.answers calls = table.answers calls

namespace Refines

theorem after (h : Refines source table map) (call : Call) :
    Refines source (table.after call) (recordCall source map call) := by
  cases call with
  | insert span kind =>
      have hroom := occupied_withRoom_lt h.wellformed h.two_le_capacity
      rw [SymbolTable.after, SymbolTable.insert, h.source_eq, recordCall, record]
      cases span.slice? source with
      | none => exact h.withRoom
      | some name => exact h.withRoom.put hroom ⟨name, span, kind⟩
  | expand => exact h.expand
  | lookup span => exact h

theorem foldl_after (h : Refines source table map) (calls : List Call) :
    Refines source (calls.foldl SymbolTable.after table)
      (calls.foldl (recordCall source) map) := by
  induction calls generalizing table map with
  | nil => exact h
  | cons call calls ih => exact ih (h.after call)

theorem lookup?_eq_map (h : Refines source table map) (span : Span) :
    table.lookup? span = (span.slice? source).map map.lookup := by
  rw [lookup?, h.source_eq, funext h.find?_eq]

section Same

variable (h : Refines source table map) (hother : Refines source other map)

include h hother

theorem answer?_eq (call : Call) : other.answer? call = table.answer? call := by
  cases call with
  | insert span kind =>
      rw [answer?, answer?, SymbolTable.insert, SymbolTable.insert, h.source_eq, hother.source_eq]
      cases span.slice? source <;> rfl
  | expand => rfl
  | lookup span => rw [answer?, answer?, h.lookup?_eq_map, hother.lookup?_eq_map]

/-- What is asked of tables that stand for the same map changes the map alike, so that the next
answers are alike too. -/
theorem answers_eq (calls : List Call) : other.answers calls = table.answers calls := by
  induction calls generalizing table other map with
  | nil => rfl
  | cons call calls ih =>
      have hnext := h.after call
      have hotherNext := hother.after call
      rw [answers, answers, h.answer?_eq hother, hnext.occupied_eq, hotherNext.occupied_eq,
        ih hnext hotherNext]

theorem standsFor : other.StandsFor table where
  occupied_eq := by rw [h.occupied_eq, hother.occupied_eq]
  lookup?_eq := by
    intro span
    rw [h.lookup?_eq_map, hother.lookup?_eq_map]
  symbols_perm := by
    apply (List.perm_ext_iff_of_nodup hother.wellformed.nodup_names.of_map
      h.wellformed.nodup_names.of_map).mpr
    intro symbol
    rw [h.mem_symbols_iff, hother.mem_symbols_iff]
  answers_eq := h.answers_eq hother

end Same

end Refines

theorem insert_eq_error_iff {span : Span} {kind : SymbolKind} {left : SymbolTable} :
    table.insert span kind = .error left ↔
      span.slice? table.source = none ∧ left = table.withRoom := by
  rw [insert]
  cases span.slice? table.source with
  | none => simp [eq_comm]
  | some name => simp

theorem lookup?_eq_none_iff {span : Span} :
    table.lookup? span = none ↔ span.slice? table.source = none :=
  Option.map_eq_none_iff

/-- Whatever was asked of a table, an insertion is refused if and only if its span covers no part of
the source. The table that it leaves has then made room as for any insertion, and can take the place
of the one before: it has the same symbols, and gives the same answers to all that is asked later. A
lookup is refused for the same spans, and leaves the table as it is. Neither faults for any other
reason, though both slice the spans in the slots that they visit. -/
theorem insert_refused_standsFor (source : Text) (capacity : Nat) (calls : List Call) (span : Span)
    (kind : SymbolKind) :
    let table := calls.foldl after (SymbolTable.empty source capacity)
    (((∃ left, table.insert span kind = .error left) ↔ span.Misfits source) ∧
      (strictInsert? 1 table (span, kind) = none ↔ span.Misfits source)) ∧
    (∀ left, table.insert span kind = .error left →
      table.strictRoom? = some left ∧ left.StandsFor table ∧
      (left.capacity = table.capacity ∨ left.capacity = 2 * table.capacity) ∧
      (left.capacity = 2 * table.capacity ↔ table.capacity ≤ 2 * table.occupied)) ∧
    (table.lookup? span = none ↔ span.Misfits source) ∧
    (table.strictLookup? span = none ↔ span.Misfits source) ∧
    table.after (.lookup span) = table := by
  intro table
  have hbalanced : Balanced source (max capacity 2) table :=
    (Balanced.empty source capacity).foldl_after calls
  have hrefines := (Refines.empty source capacity).foldl_after calls
  have hlookup : table.lookup? span = none ↔ span.Misfits source := by
    rw [lookup?_eq_none_iff, hbalanced.source_eq, Span.slice?_eq_none_iff]
  refine ⟨⟨?_, ?_⟩, ?_, hlookup, ?_, rfl⟩
  · simp only [insert_eq_error_iff, exists_and_left, exists_eq, and_true, hbalanced.source_eq,
      Span.slice?_eq_none_iff]
  · rw [hbalanced.strictInsert?_one_eq_none_iff, Span.slice?_eq_none_iff]
  · intro left hleft
    obtain ⟨-, rfl⟩ := insert_eq_error_iff.mp hleft
    have htwo := hbalanced.two_le_capacity
    refine ⟨hbalanced.strictRoom?_eq, hrefines.standsFor hrefines.withRoom, ?_, ?_⟩
    · rw [capacity_withRoom]
      split
      · exact .inr rfl
      · exact .inl rfl
    · rw [capacity_withRoom]
      split <;> omega
  · rw [hbalanced.strictLookup?_eq, hlookup]

/-- An insertion that begins inside of a character finds two slots half full. It leaves four, where
all is found as before. -/
theorem insert_refused_standsFor_inside :
    let source : Text := "é b".toList
    let table := [Call.insert ⟨0, 2⟩ .i32].foldl after (SymbolTable.empty source 0)
    let span : Span := ⟨1, 3⟩
    span.Misfits source ∧ table.capacity = 2 ∧
      ∃ left, table.insert span .struct = .error left ∧ left.capacity = 4 ∧
        left.symbols.Perm [⟨"é".toList, ⟨0, 2⟩, .i32⟩] ∧
        ∀ calls, left.answers calls = table.answers calls := by
  intro source table span
  have hspan : span.Misfits source := .inr (.inr (.inl ⟨[], 'é', " b".toList, rfl, by decide⟩))
  have hcapacity : table.capacity = 2 := by decide +kernel
  have hsymbols : table.symbols = [⟨"é".toList, ⟨0, 2⟩, .i32⟩] := by decide +kernel
  obtain ⟨⟨hrefused, -⟩, hleft, -⟩ :=
    insert_refused_standsFor source 0 [.insert ⟨0, 2⟩ .i32] span .struct
  obtain ⟨left, hinsert⟩ := hrefused.mpr hspan
  obtain ⟨-, hstands, -, hdoubled⟩ := hleft left hinsert
  refine ⟨hspan, hcapacity, left, hinsert, ?_, ?_, hstands.answers_eq⟩
  · exact (hdoubled.mpr (by decide +kernel)).trans (congrArg (2 * ·) hcapacity)
  · rw [← hsymbols]
    exact hstands.symbols_perm

end SymbolTable

end FrontEnd
