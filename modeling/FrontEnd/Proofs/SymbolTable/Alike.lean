import FrontEnd.Proofs.SymbolTable.Probing
import FrontEnd.Proofs.Tree.Print
import FrontEnd.SymbolTable.Declare
import Mathlib.Data.List.Forall2

namespace FrontEnd

/-- What a symbol tells, but for the place where its name stands. -/
def Symbol.entry (symbol : Symbol) : Text × SymbolKind :=
  (symbol.name, symbol.kind)

namespace SymbolTable

/-- The text and the kind in each slot. -/
def entries (table : SymbolTable) : List (Option (Text × SymbolKind)) :=
  table.slots.toList.map (Option.map Symbol.entry)

structure Alike (table other : SymbolTable) : Prop where
  entries_eq : table.entries = other.entries
  occupied_eq : table.occupied = other.occupied

/-- Spans with the same text, each in its own source, and the same kind. -/
def SameName (source other : Text) (first second : Span × SymbolKind) : Prop :=
  first.2 = second.2 ∧
    ∃ name, first.1.slice? source = some name ∧ second.1.slice? other = some name

/-- Slots with the same entry are both free or hold symbols with the same text and kind. -/
theorem slot_cases {slot other : Option (Option Symbol)}
    (h : slot.map (Option.map Symbol.entry) = other.map (Option.map Symbol.entry)) :
    slot.join = none ∧ other.join = none ∨
      ∃ symbol image, slot = some (some symbol) ∧ other = some (some image) ∧
        symbol.entry = image.entry := by
  rcases slot with _ | _ | symbol
  · exact .inl ⟨rfl, by simp [Option.map_eq_none_iff.mp h.symm]⟩
  · obtain ⟨content, rfl, hcontent⟩ := Option.map_eq_some_iff.mp h.symm
    exact .inl ⟨rfl, Option.map_eq_none_iff.mp hcontent⟩
  · obtain ⟨content, rfl, hcontent⟩ := Option.map_eq_some_iff.mp h.symm
    obtain ⟨image, rfl, himage⟩ := Option.map_eq_some_iff.mp hcontent
    exact .inr ⟨symbol, image, rfl, rfl, himage.symm⟩

theorem probeFrom_of_free {slots : Array (Option Symbol)} {index : Nat}
    (h : slots[index]?.join = none) (name : Text) (steps : Nat) :
    probeFrom slots name steps index = index := by
  cases steps with
  | zero => rfl
  | succ steps =>
      rw [probeFrom]
      split
      · rename_i symbol hsymbol
        rw [hsymbol] at h
        cases h
      · rfl

theorem probeFrom_congr {slots others : Array (Option Symbol)} (hsize : slots.size = others.size)
    (hentries : ∀ index : Nat,
      slots[index]?.map (Option.map Symbol.entry) = others[index]?.map (Option.map Symbol.entry))
    (name : Text) (steps index : Nat) :
    probeFrom slots name steps index = probeFrom others name steps index := by
  induction steps generalizing index with
  | zero => rfl
  | succ steps ih =>
      rcases slot_cases (hentries index) with
        ⟨hslot, hother⟩ | ⟨symbol, image, hslot, hother, hsame⟩
      · rw [probeFrom_of_free hslot, probeFrom_of_free hother]
      · have hname : symbol.name = image.name := congrArg Prod.fst hsame
        rw [probeFrom, probeFrom, hslot, hother]
        simp only [hname, hsize, ih]

theorem source_withRoom (table : SymbolTable) : table.withRoom.source = table.source := by
  rw [withRoom]
  split
  · exact source_expand table
  · rfl

namespace Alike

variable {table other : SymbolTable} {symbol image : Symbol}

theorem empty (source text : Text) (capacity : Nat) :
    (SymbolTable.empty source capacity).Alike (SymbolTable.empty text capacity) :=
  ⟨rfl, rfl⟩

theorem capacity_eq (h : table.Alike other) : table.capacity = other.capacity := by
  have hlength := congrArg List.length h.entries_eq
  simpa [entries, capacity] using hlength

theorem getElem?_eq (h : table.Alike other) (index : Nat) :
    table.slots[index]?.map (Option.map Symbol.entry) =
      other.slots[index]?.map (Option.map Symbol.entry) := by
  have hslot := congrArg (fun slots => slots[index]?) h.entries_eq
  simpa [entries] using hslot

theorem probe_eq (h : table.Alike other) (name : Text) : table.probe name = other.probe name := by
  rw [probe, probe, home, home, h.capacity_eq]
  exact probeFrom_congr h.capacity_eq h.getElem?_eq name _ _

theorem isNone_eq (h : table.Alike other) (index : Nat) :
    table.slots[index]?.join.isNone = other.slots[index]?.join.isNone := by
  rcases slot_cases (h.getElem?_eq index) with ⟨hslot, hother⟩ | ⟨symbol, image, hslot, hother, -⟩
  · rw [hslot, hother]
  · rw [hslot, hother]
    rfl

theorem entries_put (table : SymbolTable) (symbol : Symbol) :
    (table.put symbol).entries =
      table.entries.set (table.probe symbol.name) (some symbol.entry) := by
  rw [entries, put, Array.toList_setIfInBounds, List.map_set]
  rfl

theorem put (h : table.Alike other) (hsymbol : symbol.entry = image.entry) :
    (table.put symbol).Alike (other.put image) := by
  have hname : symbol.name = image.name := congrArg Prod.fst hsymbol
  constructor
  · rw [entries_put, entries_put, h.entries_eq, h.probe_eq, hname, hsymbol]
  · simp only [SymbolTable.put]
    rw [h.probe_eq, hname, h.isNone_eq, h.occupied_eq]

theorem foldl_put (h : table.Alike other) {symbols images : List Symbol}
    (hsymbols : symbols.map Symbol.entry = images.map Symbol.entry) :
    (symbols.foldl SymbolTable.put table).Alike (images.foldl SymbolTable.put other) := by
  induction symbols generalizing images table other with
  | nil =>
      obtain rfl := List.map_eq_nil_iff.mp hsymbols.symm
      exact h
  | cons symbol symbols ih =>
      obtain ⟨image, images, rfl, himage, hrest⟩ := List.map_eq_cons_iff.mp hsymbols.symm
      apply ih (h.put himage.symm)
      exact hrest.symm

theorem symbols_eq (h : table.Alike other) :
    table.symbols.map Symbol.entry = other.symbols.map Symbol.entry := by
  have hview : ∀ table : SymbolTable,
      table.symbols.map Symbol.entry = table.entries.filterMap id := by
    intro table
    rw [symbols, entries, List.map_filterMap, List.filterMap_map]
    rfl
  rw [hview, hview, h.entries_eq]

theorem expand (h : table.Alike other) : table.expand.Alike other.expand := by
  apply foldl_put _ h.symbols_eq
  rw [h.capacity_eq]
  exact ⟨rfl, rfl⟩

theorem withRoom (h : table.Alike other) : table.withRoom.Alike other.withRoom := by
  have hfull : table.isHalfFull = other.isHalfFull := by
    rw [isHalfFull, isHalfFull, h.capacity_eq, h.occupied_eq]
  rw [SymbolTable.withRoom, SymbolTable.withRoom, hfull]
  split
  · exact h.expand
  · exact h

theorem insertAll {source text : Text} (h : table.Alike other) (hsource : table.source = source)
    (htext : other.source = text) {names others : List (Span × SymbolKind)}
    (hnames : List.Forall₂ (SameName source text) names others) :
    ∃ last image, table.insertAll names = .ok last ∧ other.insertAll others = .ok image ∧
      last.Alike image := by
  induction hnames generalizing table other with
  | nil => exact ⟨table, other, rfl, rfl, h⟩
  | @cons first second names others hfirst _ ih =>
      obtain ⟨span, kind⟩ := first
      obtain ⟨place, otherKind⟩ := second
      obtain ⟨rfl, name, hname, hplace⟩ := hfirst
      obtain ⟨last, image, hlast, himage, hend⟩ :=
        ih (@Alike.put _ _ ⟨name, span, kind⟩ ⟨name, place, kind⟩ h.withRoom rfl)
          ((source_withRoom table).trans hsource) ((source_withRoom other).trans htext)
      refine ⟨last, image, ?_, ?_, hend⟩
      · rw [SymbolTable.insertAll, SymbolTable.insert, hsource, hname]
        exact hlast
      · rw [SymbolTable.insertAll, SymbolTable.insert, htext, hplace]
        exact himage

end Alike

end SymbolTable

section Declared

variable {source other : Text}

theorem SymbolTable.declare_of_insertAll {table last : SymbolTable} {program : List Stmt}
    (h : table.insertAll (declaredNames program) = .ok last) :
    table.declare program = .ok (last, (declaredNames program).length) := by
  simp only [declare, h, Except.map]

theorem SameSpelling.sameName {token image : Token} (h : SameSpelling source other token image)
    (kind : SymbolKind) :
    SymbolTable.SameName source other (token.span, kind) (image.span, kind) :=
  ⟨rfl, h.2⟩

theorem Stmt.Related.declared? {tree image : Stmt}
    (h : tree.Related (SameSpelling source other) image) :
    Option.Rel (SymbolTable.SameName source other) tree.declared? image.declared? := by
  cases h with
  | declaration hname hascription _ =>
      cases hascription with
      | @primitive type =>
          cases type
          exact .some (hname.sameName .i32)
      | named _ => exact .some (hname.sameName .struct)
      | inferred => exact .none
  | structDefinition hname _ => exact .some (hname.sameName .struct)
  | fieldWrite _ _ _ => exact .none
  | function _ _ _ => exact .none
  | returns _ => exact .none

theorem Stmt.RelatedAll.declaredNames {program images : List Stmt}
    (h : Stmt.RelatedAll (SameSpelling source other) program images) :
    List.Forall₂ (SymbolTable.SameName source other) (declaredNames program)
      (declaredNames images) := by
  induction program generalizing images with
  | nil =>
      cases h
      exact .nil
  | cons tree program ih =>
      cases h with
      | @cons _ image _ images hfirst hrest =>
          have hnames := hfirst.declared?
          rw [FrontEnd.declaredNames, FrontEnd.declaredNames, List.filterMap_cons,
            List.filterMap_cons]
          generalize tree.declared? = name at hnames
          generalize image.declared? = otherName at hnames
          cases hnames with
          | some hname => exact .cons hname (ih hrest)
          | none => exact ih hrest

end Declared

end FrontEnd
