import FrontEnd.SymbolTable.Basic
import Mathlib.Data.List.Perm.Basic
import Mathlib.Data.Nat.Find
import Mathlib.Data.Nat.ModEq

/-!
Searches in a symbol table. A search walks from the home slot of a name, around the end of the
table, to the slot that holds the name or to the first empty one. In a well-formed table no search
for a recorded name meets an empty slot before it, no name is recorded twice, and some slot is
empty; so a search finds exactly what is recorded.
-/

namespace FrontEnd

namespace SymbolTable

variable {table : SymbolTable} {symbol : Symbol} {name : Text} {index : Nat}

def Holds (table : SymbolTable) (index : Nat) (symbol : Symbol) : Prop :=
  table.slots[index]? = some (some symbol)

/-- The slot at a distance from the home of a name. -/
def along (table : SymbolTable) (name : Text) (distance : Nat) : Nat :=
  (table.home name + distance) % table.capacity

/-- A search for a name passes the slots up to a distance and stops there. -/
structure Search (table : SymbolTable) (name : Text) (distance : Nat) : Prop where
  passes : ∀ step < distance, ∃ other, table.Holds (table.along name step) other ∧
    other.name ≠ name
  stops : ∀ other, table.Holds (table.along name distance) other → other.name = name

structure Wellformed (table : SymbolTable) : Prop where
  occupied_eq : table.occupied = table.symbols.length
  occupied_lt : table.occupied < table.capacity
  unique : ∀ i j first second, table.Holds i first → table.Holds j second →
    first.name = second.name → i = j
  /-- No empty slot stands between the home of a recorded name and its slot. -/
  reachable : ∀ i symbol, table.Holds i symbol → ∃ distance < table.capacity,
    table.along symbol.name distance = i ∧
      ∀ step < distance, ∃ other, table.Holds (table.along symbol.name step) other

theorem mem_symbols : symbol ∈ table.symbols ↔ ∃ index, table.Holds index symbol := by
  simp only [symbols, List.mem_filterMap, id_eq, exists_eq_right, Holds]
  rw [List.mem_iff_getElem?]
  simp only [Array.getElem?_toList]

theorem Holds.unique_symbol {other : Symbol} (h : table.Holds index symbol)
    (hother : table.Holds index other) : other = symbol := by
  rw [Holds, h] at hother
  exact (Option.some.inj (Option.some.inj hother)).symm

theorem along_lt (hcapacity : 0 < table.capacity) (name : Text) (distance : Nat) :
    table.along name distance < table.capacity :=
  Nat.mod_lt _ hcapacity

theorem along_inj {first second : Nat} (hfirst : first < table.capacity)
    (hsecond : second < table.capacity)
    (h : table.along name first = table.along name second) : first = second := by
  have hmod : first ≡ second [MOD table.capacity] := Nat.ModEq.add_left_cancel' _ h
  exact Nat.ModEq.eq_of_lt_of_lt hmod hfirst hsecond

theorem exists_along (name : Text) (h : index < table.capacity) :
    ∃ distance < table.capacity, table.along name distance = index := by
  have hcapacity : 0 < table.capacity := Nat.zero_lt_of_lt h
  have hhome : table.home name < table.capacity := Nat.mod_lt _ hcapacity
  refine ⟨(index + table.capacity - table.home name) % table.capacity, Nat.mod_lt _ hcapacity, ?_⟩
  have hsum : table.home name + (index + table.capacity - table.home name) =
      index + table.capacity := by omega
  rw [along, Nat.add_mod_mod, hsum, Nat.add_mod_right, Nat.mod_eq_of_lt h]

theorem probeFrom_eq {slots : Array (Option Symbol)} {start distance steps : Nat}
    (hpasses : ∀ step < distance, ∃ other,
      slots[(start + step) % slots.size]? = some (some other) ∧ other.name ≠ name)
    (hstops : ∀ other, slots[(start + distance) % slots.size]? = some (some other) →
      other.name = name)
    (hsteps : distance ≤ steps) :
    probeFrom slots name steps (start % slots.size) = (start + distance) % slots.size := by
  induction distance generalizing start steps with
  | zero =>
      rw [Nat.add_zero] at hstops ⊢
      cases steps with
      | zero => rw [probeFrom]
      | succ steps =>
          rw [probeFrom]
          split
          · rename_i other hother
            rw [if_pos (hstops other hother)]
          · rfl
  | succ distance ih =>
      obtain ⟨steps, rfl⟩ := Nat.exists_eq_add_one_of_ne_zero (Nat.ne_zero_of_lt hsteps)
      obtain ⟨other, hother, hname⟩ := hpasses 0 (Nat.zero_lt_succ distance)
      rw [Nat.add_zero] at hother
      have hshift : ∀ step, start + 1 + step = start + (step + 1) := by
        intro step
        omega
      rw [probeFrom, hother]
      simp only [if_neg hname, Nat.mod_add_mod]
      rw [← hshift distance]
      apply ih
      · intro step hstep
        rw [hshift]
        exact hpasses (step + 1) (Nat.succ_lt_succ hstep)
      · rw [hshift]
        exact hstops
      · exact Nat.le_of_succ_le_succ hsteps

theorem Search.probe_eq {distance : Nat} (h : table.Search name distance)
    (hdistance : distance < table.capacity) :
    table.probe name = table.along name distance := by
  have hhome : table.home name % table.capacity = table.home name := Nat.mod_mod _ _
  rw [probe, ← hhome]
  exact probeFrom_eq h.passes h.stops (Nat.le_of_lt hdistance)

theorem exists_search (name : Text) (hindex : table.slots[index]? = some none) :
    ∃ distance < table.capacity, table.Search name distance := by
  classical
  have hlt : index < table.capacity := by
    by_contra hout
    rw [Array.getElem?_eq_none (Nat.le_of_not_lt hout)] at hindex
    cases hindex
  obtain ⟨last, hlast, halong⟩ := exists_along name hlt
  have hends : ∃ distance, ∀ other, table.Holds (table.along name distance) other →
      other.name = name := by
    refine ⟨last, fun other hother => ?_⟩
    rw [Holds, halong, hindex] at hother
    cases hother
  refine ⟨Nat.find hends, ?_, ?_, Nat.find_spec hends⟩
  · refine Nat.lt_of_le_of_lt (Nat.find_min' hends ?_) hlast
    intro other hother
    rw [Holds, halong, hindex] at hother
    cases hother
  · intro step hstep
    have hnot := Nat.find_min hends hstep
    push Not at hnot
    exact hnot

theorem exists_empty_of_length_lt (h : table.symbols.length < table.capacity) :
    ∃ index : Nat, table.slots[index]? = some none := by
  by_contra hfull
  push Not at hfull
  apply Nat.ne_of_lt h
  have hall : ∀ slot ∈ table.slots.toList, slot.isSome := by
    intro slot hslot
    obtain ⟨index, hindex⟩ := List.mem_iff_getElem?.mp hslot
    rw [Array.getElem?_toList] at hindex
    cases slot with
    | none => exact absurd hindex (hfull index)
    | some symbol => rfl
  calc
    table.symbols.length = table.slots.toList.countP Option.isSome := by
      rw [symbols, List.length_filterMap_eq_countP]
      rfl
    _ = table.slots.toList.length := List.countP_eq_length.mpr hall
    _ = table.capacity := Array.length_toList

namespace Wellformed

theorem exists_search (h : table.Wellformed) (name : Text) :
    ∃ distance < table.capacity, table.Search name distance := by
  have hlength : table.symbols.length < table.capacity := by
    rw [← h.occupied_eq]
    exact h.occupied_lt
  obtain ⟨index, hindex⟩ := exists_empty_of_length_lt hlength
  exact SymbolTable.exists_search name hindex

theorem probe_lt (h : table.Wellformed) (name : Text) : table.probe name < table.capacity := by
  obtain ⟨distance, hdistance, hsearch⟩ := h.exists_search name
  rw [hsearch.probe_eq hdistance]
  exact along_lt (Nat.zero_lt_of_lt hdistance) name distance

theorem name_eq_of_holds_probe (h : table.Wellformed)
    (hholds : table.Holds (table.probe name) symbol) : symbol.name = name := by
  obtain ⟨distance, hdistance, hsearch⟩ := h.exists_search name
  rw [hsearch.probe_eq hdistance] at hholds
  exact hsearch.stops symbol hholds

theorem probe_eq_of_holds (h : table.Wellformed) (hholds : table.Holds index symbol) :
    table.probe symbol.name = index := by
  obtain ⟨distance, hdistance, rfl, hbetween⟩ := h.reachable index symbol hholds
  have hsearch : table.Search symbol.name distance := by
    constructor
    · intro step hstep
      obtain ⟨other, hother⟩ := hbetween step hstep
      refine ⟨other, hother, fun hname => ?_⟩
      have halong := h.unique _ _ other symbol hother hholds hname
      exact Nat.ne_of_lt hstep (along_inj (Nat.lt_trans hstep hdistance) hdistance halong)
    · intro other hother
      rw [hholds.unique_symbol hother]
  exact hsearch.probe_eq hdistance

theorem find?_eq_some_iff (h : table.Wellformed) :
    table.find? name = some symbol ↔ symbol ∈ table.symbols ∧ symbol.name = name := by
  rw [find?, Option.join_eq_some_iff, mem_symbols]
  constructor
  · intro hholds
    exact ⟨⟨_, hholds⟩, h.name_eq_of_holds_probe hholds⟩
  · rintro ⟨⟨index, hholds⟩, rfl⟩
    rw [h.probe_eq_of_holds hholds]
    exact hholds

theorem nodup_names (h : table.Wellformed) : (table.symbols.map Symbol.name).Nodup := by
  rw [symbols, List.map_filterMap, List.Nodup, List.pairwise_filterMap,
    List.pairwise_iff_getElem]
  intro i j hi hj hlt first hfirst second hsecond hname
  rw [Array.length_toList] at hi hj
  simp only [id_eq, Option.map_eq_some_iff, Array.getElem_toList] at hfirst hsecond
  obtain ⟨one, hone, rfl⟩ := hfirst
  obtain ⟨two, htwo, rfl⟩ := hsecond
  have hiHolds : table.Holds i one := by
    rw [Holds, Array.getElem?_eq_getElem hi, hone]
  have hjHolds : table.Holds j two := by
    rw [Holds, Array.getElem?_eq_getElem hj, htwo]
  exact Nat.ne_of_lt hlt (h.unique i j one two hiHolds hjHolds hname)

end Wellformed

theorem holds_put {other : Symbol} (hprobe : table.probe symbol.name < table.slots.size) :
    (table.put symbol).Holds index other ↔
      index = table.probe symbol.name ∧ other = symbol ∨
        index ≠ table.probe symbol.name ∧ table.Holds index other := by
  rw [Holds, put, Array.getElem?_setIfInBounds]
  by_cases hindex : table.probe symbol.name = index
  · subst hindex
    rw [if_pos rfl, if_pos hprobe]
    simp [eq_comm]
  · rw [if_neg hindex]
    simp [Ne.symm hindex, Holds]

theorem capacity_put (table : SymbolTable) (symbol : Symbol) :
    (table.put symbol).capacity = table.capacity :=
  Array.size_setIfInBounds

theorem along_put (table : SymbolTable) (symbol : Symbol) (name : Text) (distance : Nat) :
    (table.put symbol).along name distance = table.along name distance := by
  rw [along, along, home, home, capacity_put]

theorem exists_symbols_put (hprobe : table.probe symbol.name < table.slots.size) :
    ∃ rest, (table.put symbol).symbols.Perm (symbol :: rest) ∧
      table.symbols.Perm ((table.find? symbol.name).toList ++ rest) := by
  have hlength : table.probe symbol.name < table.slots.toList.length := by
    rwa [Array.length_toList]
  refine ⟨(table.slots.toList.eraseIdx (table.probe symbol.name)).filterMap id, ?_, ?_⟩
  · rw [symbols, put, Array.toList_setIfInBounds]
    exact (List.set_perm_cons_eraseIdx hlength (some symbol)).filterMap id
  · have hslots := (List.getElem_cons_eraseIdx_perm hlength).symm.filterMap id
    rw [Array.getElem_toList] at hslots
    rw [find?, Array.getElem?_eq_getElem hprobe]
    generalize table.slots[table.probe symbol.name] = slot at hslots
    cases slot with
    | none => exact hslots
    | some old => exact hslots

theorem occupied_put (h : table.Wellformed) (symbol : Symbol) :
    (table.put symbol).occupied = (table.put symbol).symbols.length := by
  obtain ⟨rest, hput, htable⟩ := exists_symbols_put (h.probe_lt symbol.name)
  have hoccupied := h.occupied_eq
  rw [htable.length_eq] at hoccupied
  rw [hput.length_eq, put]
  change (if (table.find? symbol.name).isNone then _ else _) = _
  cases hfind : table.find? symbol.name with
  | none => simpa [hfind] using hoccupied
  | some old => simpa [hfind, Nat.add_comm] using hoccupied

theorem occupied_put_le (table : SymbolTable) (symbol : Symbol) :
    (table.put symbol).occupied ≤ table.occupied + 1 := by
  rw [put]
  split
  · exact Nat.le_refl _
  · exact Nat.le_succ _

theorem le_occupied_put (table : SymbolTable) (symbol : Symbol) :
    table.occupied ≤ (table.put symbol).occupied := by
  rw [put]
  split
  · exact Nat.le_succ _
  · exact Nat.le_refl _

theorem Wellformed.put (h : table.Wellformed) (hroom : table.occupied + 1 < table.capacity)
    (symbol : Symbol) : (table.put symbol).Wellformed := by
  have hprobe := h.probe_lt symbol.name
  have hkeeps : ∀ i other, table.Holds i other → ∃ held, (table.put symbol).Holds i held := by
    intro i other hother
    by_cases hi : i = table.probe symbol.name
    · exact ⟨symbol, (holds_put hprobe).mpr (.inl ⟨hi, rfl⟩)⟩
    · exact ⟨other, (holds_put hprobe).mpr (.inr ⟨hi, hother⟩)⟩
  constructor
  · exact occupied_put h symbol
  · rw [capacity_put]
    exact Nat.lt_of_le_of_lt (occupied_put_le table symbol) hroom
  · -- A symbol with the name of the new one would have stood where the new one is put.
    intro i j first second hfirst hsecond hname
    rcases (holds_put hprobe).mp hfirst with ⟨rfl, rfl⟩ | ⟨-, hi⟩
    · rcases (holds_put hprobe).mp hsecond with ⟨rfl, rfl⟩ | ⟨-, hj⟩
      · rfl
      · rw [hname]
        exact h.probe_eq_of_holds hj
    · rcases (holds_put hprobe).mp hsecond with ⟨rfl, rfl⟩ | ⟨-, hj⟩
      · rw [← hname]
        exact (h.probe_eq_of_holds hi).symm
      · exact h.unique i j first second hi hj hname
  · intro i held hheld
    rw [capacity_put]
    simp only [along_put]
    rcases (holds_put hprobe).mp hheld with ⟨rfl, rfl⟩ | ⟨-, hold⟩
    · obtain ⟨distance, hdistance, hsearch⟩ := h.exists_search held.name
      refine ⟨distance, hdistance, (hsearch.probe_eq hdistance).symm, fun step hstep => ?_⟩
      obtain ⟨other, hother, -⟩ := hsearch.passes step hstep
      exact hkeeps _ other hother
    · obtain ⟨distance, hdistance, halong, hbetween⟩ := h.reachable i held hold
      refine ⟨distance, hdistance, halong, fun step hstep => ?_⟩
      obtain ⟨other, hother⟩ := hbetween step hstep
      exact hkeeps _ other hother

theorem mem_symbols_put (h : table.Wellformed) {other : Symbol} :
    other ∈ (table.put symbol).symbols ↔
      other = symbol ∨ other ∈ table.symbols ∧ other.name ≠ symbol.name := by
  have hprobe := h.probe_lt symbol.name
  simp only [mem_symbols, holds_put hprobe]
  constructor
  · rintro ⟨index, ⟨-, rfl⟩ | ⟨hindex, hholds⟩⟩
    · exact .inl rfl
    · refine .inr ⟨⟨index, hholds⟩, fun hname => hindex ?_⟩
      rw [← hname]
      exact (h.probe_eq_of_holds hholds).symm
  · rintro (rfl | ⟨⟨index, hholds⟩, hname⟩)
    · exact ⟨_, .inl ⟨rfl, rfl⟩⟩
    · refine ⟨index, .inr ⟨?_, hholds⟩⟩
      rintro rfl
      exact hname (h.name_eq_of_holds_probe hholds)

theorem not_holds_replicate (source : Text) (capacity occupied : Nat) :
    ¬(⟨source, Array.replicate capacity none, occupied⟩ : SymbolTable).Holds index symbol := by
  intro h
  rw [Holds, Array.getElem?_replicate] at h
  split at h
  · cases h
  · cases h

theorem wellformed_replicate (source : Text) {capacity : Nat} (hcapacity : 0 < capacity) :
    (⟨source, Array.replicate capacity none, 0⟩ : SymbolTable).Wellformed where
  occupied_eq := by simp [symbols]
  occupied_lt := by simpa [SymbolTable.capacity] using hcapacity
  unique := fun _ _ _ _ hfirst => absurd hfirst (not_holds_replicate source capacity 0)
  reachable := fun _ _ hholds => absurd hholds (not_holds_replicate source capacity 0)

section Foldl

variable (symbols : List Symbol)

theorem capacity_foldl_put (table : SymbolTable) :
    (symbols.foldl put table).capacity = table.capacity := by
  induction symbols generalizing table with
  | nil => rfl
  | cons symbol symbols ih => rw [List.foldl_cons, ih, capacity_put]

theorem source_foldl_put (table : SymbolTable) :
    (symbols.foldl put table).source = table.source := by
  induction symbols generalizing table with
  | nil => rfl
  | cons symbol symbols ih => rw [List.foldl_cons, ih, put]

theorem occupied_foldl_put_le (table : SymbolTable) :
    (symbols.foldl put table).occupied ≤ table.occupied + symbols.length := by
  induction symbols generalizing table with
  | nil => exact Nat.le_refl _
  | cons symbol symbols ih =>
      have hrest := ih (table.put symbol)
      have hfirst := occupied_put_le table symbol
      rw [List.foldl_cons, List.length_cons]
      omega

theorem Wellformed.foldl_put (h : table.Wellformed)
    (hroom : table.occupied + symbols.length < table.capacity) :
    (symbols.foldl SymbolTable.put table).Wellformed := by
  induction symbols generalizing table with
  | nil => exact h
  | cons symbol symbols ih =>
      rw [List.length_cons] at hroom
      have hfirst := occupied_put_le table symbol
      apply ih (h.put (by omega) symbol)
      rw [capacity_put]
      omega

theorem mem_foldl_put (h : table.Wellformed)
    (hroom : table.occupied + symbols.length < table.capacity)
    (hnodup : (symbols.map Symbol.name).Nodup)
    (hfresh : ∀ other ∈ table.symbols, other.name ∉ symbols.map Symbol.name) {other : Symbol} :
    other ∈ (symbols.foldl put table).symbols ↔ other ∈ symbols ∨ other ∈ table.symbols := by
  induction symbols generalizing table with
  | nil => simp
  | cons symbol symbols ih =>
      rw [List.map_cons, List.nodup_cons] at hnodup
      rw [List.length_cons] at hroom
      have hfirst := occupied_put_le table symbol
      have hput := h.put (by omega) symbol
      have hrest : (table.put symbol).occupied + symbols.length < (table.put symbol).capacity := by
        rw [capacity_put]
        omega
      have hfreshPut : ∀ old ∈ (table.put symbol).symbols,
          old.name ∉ symbols.map Symbol.name := by
        intro old hold
        rcases (mem_symbols_put h).mp hold with rfl | ⟨hold, -⟩
        · exact hnodup.1
        · exact fun hmem => hfresh old hold (List.mem_cons_of_mem _ hmem)
      rw [List.foldl_cons, ih hput hrest hnodup.2 hfreshPut, mem_symbols_put h, List.mem_cons]
      constructor
      · rintro (hmem | rfl | ⟨hmem, -⟩)
        · exact .inl (.inr hmem)
        · exact .inl (.inl rfl)
        · exact .inr hmem
      · rintro ((rfl | hmem) | hmem)
        · exact .inr (.inl rfl)
        · exact .inl hmem
        · refine .inr (.inr ⟨hmem, fun hname => hfresh other hmem ?_⟩)
          rw [hname]
          exact List.mem_cons_self

end Foldl

def doubled (table : SymbolTable) : SymbolTable :=
  ⟨table.source, Array.replicate (table.capacity * 2) none, 0⟩

theorem expand_eq (table : SymbolTable) :
    table.expand = table.symbols.foldl put table.doubled := rfl

theorem capacity_doubled (table : SymbolTable) : table.doubled.capacity = table.capacity * 2 :=
  Array.size_replicate

theorem not_mem_symbols_doubled (table : SymbolTable) (symbol : Symbol) :
    symbol ∉ table.doubled.symbols := by
  intro hmem
  obtain ⟨index, hholds⟩ := mem_symbols.mp hmem
  exact not_holds_replicate _ _ _ hholds

theorem capacity_expand (table : SymbolTable) : table.expand.capacity = table.capacity * 2 := by
  rw [expand_eq, capacity_foldl_put, capacity_doubled]

theorem source_expand (table : SymbolTable) : table.expand.source = table.source := by
  rw [expand_eq, source_foldl_put, doubled]

theorem capacity_withRoom (table : SymbolTable) :
    table.withRoom.capacity =
      if table.capacity ≤ 2 * table.occupied then 2 * table.capacity else table.capacity := by
  rw [withRoom, isHalfFull]
  simp only [decide_eq_true_eq]
  split
  · rw [capacity_expand, Nat.mul_comm]
  · rfl

section Expand

variable (h : table.Wellformed)

include h

theorem Wellformed.doubled : table.doubled.Wellformed := by
  have hlt := h.occupied_lt
  exact wellformed_replicate table.source (by omega)

theorem occupied_doubled_lt :
    table.doubled.occupied + table.symbols.length < table.doubled.capacity := by
  have hoccupied := h.occupied_eq
  have hlt := h.occupied_lt
  have hzero : table.doubled.occupied = 0 := rfl
  rw [capacity_doubled, hzero]
  omega

theorem Wellformed.expand : table.expand.Wellformed :=
  h.doubled.foldl_put table.symbols (occupied_doubled_lt h)

theorem mem_symbols_expand : symbol ∈ table.expand.symbols ↔ symbol ∈ table.symbols := by
  have hfresh : ∀ other ∈ table.doubled.symbols,
      other.name ∉ table.symbols.map Symbol.name :=
    fun other hother => absurd hother (not_mem_symbols_doubled table other)
  rw [expand_eq, mem_foldl_put table.symbols h.doubled (occupied_doubled_lt h) h.nodup_names hfresh]
  constructor
  · rintro (hmem | hmem)
    · exact hmem
    · exact absurd hmem (not_mem_symbols_doubled table symbol)
  · exact .inl

theorem occupied_withRoom_lt (hcapacity : 2 ≤ table.capacity) :
    table.withRoom.occupied + 1 < table.withRoom.capacity := by
  rw [SymbolTable.withRoom]
  split
  · have hexpand : table.expand.occupied ≤ 0 + table.symbols.length :=
      occupied_foldl_put_le table.symbols table.doubled
    have hoccupied := h.occupied_eq
    have hlt := h.occupied_lt
    rw [capacity_expand]
    omega
  · rename_i hfull
    rw [isHalfFull, decide_eq_true_eq] at hfull
    omega

end Expand

end SymbolTable

end FrontEnd
