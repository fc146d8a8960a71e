import FrontEnd.Proofs.SymbolTable.Declaration
import Mathlib.Order.Bounds.Basic

namespace FrontEnd

namespace SymbolTable

variable {source : Text} {initial slots needed : Nat} {table last : SymbolTable}

/-- The different texts that some spans cover. -/
def namesOf (source : Text) (records : List (Span × SymbolKind)) : Finset Text :=
  (records.filterMap fun record => record.1.slice? source).toFinset

/-- A table of which the last insertion found so many symbols, and which then had as few doublings
as these need. -/
structure Grown (slots needed : Nat) (table : SymbolTable) : Prop where
  needed_le : needed ≤ table.occupied
  occupied_le : table.occupied ≤ needed + 1
  least : ∃ doublings, table.capacity = slots * 2 ^ doublings ∧
    IsLeast {k | 2 * needed < slots * 2 ^ k} doublings

section Least

variable {names doublings : Nat} (hleast : IsLeast {k | 2 * needed < slots * 2 ^ k} doublings)

include hleast

/-- Half full slots are doubled once more, and that is enough for one more name. -/
theorem isLeast_doublings_succ (hslots : 2 ≤ slots) (hnames : names ≤ needed + 1)
    (hfull : slots * 2 ^ doublings ≤ 2 * names) :
    IsLeast {k | 2 * names < slots * 2 ^ k} (doublings + 1) := by
  constructor
  · have hneeded : 2 * needed < slots * 2 ^ doublings := hleast.1
    have htwo : 2 ≤ slots * 2 ^ doublings :=
      Nat.le_trans hslots (Nat.le_mul_of_pos_right slots (Nat.two_pow_pos doublings))
    change 2 * names < slots * 2 ^ (doublings + 1)
    rw [Nat.pow_succ, ← Nat.mul_assoc]
    omega
  · intro k hk
    by_contra hless
    have hpow : slots * 2 ^ k ≤ slots * 2 ^ doublings :=
      Nat.mul_le_mul_left slots (Nat.pow_le_pow_right Nat.two_pos (by omega))
    have hmore : 2 * names < slots * 2 ^ k := hk
    omega

theorem isLeast_doublings_of_le (hnames : needed ≤ names)
    (hroom : 2 * names < slots * 2 ^ doublings) :
    IsLeast {k | 2 * names < slots * 2 ^ k} doublings := by
  refine ⟨hroom, fun k hk => hleast.2 ?_⟩
  exact Nat.lt_of_le_of_lt (Nat.mul_le_mul_left 2 hnames) hk

end Least

namespace Grown

theorem empty (source : Text) (capacity : Nat) :
    Grown (max capacity 2) 0 (SymbolTable.empty source capacity) where
  needed_le := Nat.zero_le _
  occupied_le := Nat.zero_le _
  least := by
    refine ⟨0, ?_, ?_, fun k _ => Nat.zero_le k⟩
    · rw [SymbolTable.empty, SymbolTable.capacity, Array.size_replicate, Nat.pow_zero, Nat.mul_one]
    · change 2 * 0 < max capacity 2 * 2 ^ 0
      omega

/-- The capacity with room for one more symbol is what the symbols there need. -/
theorem least_withRoom (h : Grown slots needed table) (hslots : 2 ≤ slots) :
    ∃ doublings, table.withRoom.capacity = slots * 2 ^ doublings ∧
      IsLeast {k | 2 * table.occupied < slots * 2 ^ k} doublings := by
  obtain ⟨doublings, hcapacity, hleast⟩ := h.least
  rw [capacity_withRoom, hcapacity]
  split
  · rename_i hfull
    refine ⟨doublings + 1, ?_, isLeast_doublings_succ hleast hslots h.occupied_le hfull⟩
    rw [Nat.pow_succ, Nat.mul_left_comm, Nat.mul_comm 2]
  · rename_i hroom
    exact ⟨doublings, rfl, isLeast_doublings_of_le hleast h.needed_le (Nat.lt_of_not_le hroom)⟩

theorem insert (h : Grown slots needed table) (hslots : 2 ≤ slots) (hwellformed : table.Wellformed)
    (symbol : Symbol) : Grown slots table.occupied (table.withRoom.put symbol) := by
  have hoccupied := occupied_withRoom hwellformed
  constructor
  · rw [← hoccupied]
    exact le_occupied_put table.withRoom symbol
  · rw [← hoccupied]
    exact occupied_put_le table.withRoom symbol
  · rw [capacity_put]
    exact h.least_withRoom hslots

theorem insertAll (h : Grown slots needed table) (hslots : 2 ≤ slots)
    (hbalanced : Balanced source initial table) {records : List (Span × SymbolKind)}
    (hrecords : ∀ record ∈ records, ∃ name, record.1.slice? source = some name) :
    ∃ last needed, table.insertAll records = .ok last ∧ Grown slots needed last ∧
      Balanced source initial last := by
  induction records generalizing table needed with
  | nil => exact ⟨table, needed, rfl, h, hbalanced⟩
  | cons record records ih =>
      obtain ⟨span, kind⟩ := record
      obtain ⟨⟨name, hname⟩, hrest⟩ := List.forall_mem_cons.mp hrecords
      let symbol : Symbol := ⟨name, span, kind⟩
      obtain ⟨last, needed, hlast, hgrown, hend⟩ :=
        ih (h.insert hslots hbalanced.wellformed symbol)
          (@Balanced.insert _ _ _ hbalanced symbol hname) hrest
      refine ⟨last, needed, ?_, hgrown, hend⟩
      rw [SymbolTable.insertAll, SymbolTable.insert, hbalanced.source_eq, hname]
      exact hlast

end Grown

theorem insertAll_append {first second : List (Span × SymbolKind)} {next : SymbolTable}
    (h : table.insertAll first = .ok next) :
    table.insertAll (first ++ second) = next.insertAll second := by
  induction first generalizing table with
  | nil =>
      cases h
      rfl
  | cons record first ih =>
      obtain ⟨span, kind⟩ := record
      rw [insertAll] at h
      rw [List.cons_append, insertAll]
      cases hinsert : table.insert span kind with
      | ok other =>
          rw [hinsert] at h
          exact ih h
      | error left =>
          rw [hinsert] at h
          cases h

theorem occupied_insertAll {capacity : Nat} {records : List (Span × SymbolKind)}
    (hrecords : ∀ record ∈ records, ∃ name, record.1.slice? source = some name)
    (hlast : (SymbolTable.empty source capacity).insertAll records = .ok last) :
    last.occupied = (namesOf source records).card := by
  obtain ⟨other, hother, hrefines⟩ := (Refines.empty source capacity).insertAll hrecords
  obtain rfl := Except.ok.inj (hlast.symm.trans hother)
  rw [hrefines.occupied_eq]
  congr 1
  ext text
  rw [Finmap.mem_keys, mem_inserts_iff, namesOf, List.mem_toFinset, List.mem_filterMap]
  exact or_iff_right Finmap.notMem_empty

/-- After insertions into a new table, the capacity is the least doubling of the first one that is
more than twice the number of different texts before the last insertion. That one doubles the slots
if they are half full, even where its text is there already, and doubles them no more than once. -/
theorem capacity_insertAll (source : Text) (capacity : Nat) {before : List (Span × SymbolKind)}
    {span : Span} {kind : SymbolKind}
    (hrecords : ∀ record ∈ before ++ [(span, kind)], ∃ name, record.1.slice? source = some name) :
    ∃ first last, (SymbolTable.empty source capacity).insertAll before = .ok first ∧
      (SymbolTable.empty source capacity).insertAll (before ++ [(span, kind)]) = .ok last ∧
      (∃ doublings, last.capacity = max capacity 2 * 2 ^ doublings ∧
        IsLeast {k | 2 * (namesOf source before).card < max capacity 2 * 2 ^ k} doublings) ∧
      last.capacity =
        (if first.capacity ≤ 2 * (namesOf source before).card then 2 * first.capacity
          else first.capacity) ∧
      last.occupied = (namesOf source (before ++ [(span, kind)])).card ∧
      strictInsert? 1 first (span, kind) = some last := by
  obtain ⟨hbefore, hspan⟩ := List.forall_mem_append.mp hrecords
  obtain ⟨name, hname⟩ := hspan _ List.mem_cons_self
  have hslots : 2 ≤ max capacity 2 := Nat.le_max_right capacity 2
  obtain ⟨first, needed, hfirst, hgrown, hbalanced⟩ :=
    (Grown.empty source capacity).insertAll hslots (Balanced.empty source capacity) hbefore
  have hoccupied := occupied_insertAll hbefore hfirst
  have hlast : (SymbolTable.empty source capacity).insertAll (before ++ [(span, kind)]) =
      .ok (first.withRoom.put ⟨name, span, kind⟩) := by
    rw [insertAll_append hfirst, insertAll, insert, hbalanced.source_eq, hname]
    rfl
  refine ⟨first, first.withRoom.put ⟨name, span, kind⟩, hfirst, hlast, ?_, ?_, ?_, ?_⟩
  · rw [capacity_put, ← hoccupied]
    exact hgrown.least_withRoom hslots
  · rw [capacity_put, capacity_withRoom, hoccupied]
  · exact occupied_insertAll hrecords hlast
  · exact hbalanced.strictInsert?_one hname kind

/-- Of five slots two names leave room, and a third does not. The next insertion makes ten of them,
though it only overwrites a name. -/
theorem capacity_insertAll_overwrite :
    let source : Text := "a b c a".toList
    let before : List (Span × SymbolKind) := [(⟨0, 1⟩, .i32), (⟨2, 3⟩, .i32), (⟨4, 5⟩, .i32)]
    (∀ record ∈ before ++ [(⟨6, 7⟩, .struct)], ∃ name, record.1.slice? source = some name) ∧
      ∃ first last, (SymbolTable.empty source 5).insertAll before = .ok first ∧
        (SymbolTable.empty source 5).insertAll (before ++ [(⟨6, 7⟩, .struct)]) = .ok last ∧
        first.capacity = 5 ∧ last.capacity = 10 ∧ last.occupied = first.occupied := by
  intro source before
  have hrecords : ∀ record ∈ before ++ [(⟨6, 7⟩, .struct)],
      ∃ name, record.1.slice? source = some name := by
    simp only [before, List.cons_append, List.nil_append, List.forall_mem_cons]
    exact ⟨⟨"a".toList, by decide⟩, ⟨"b".toList, by decide⟩, ⟨"c".toList, by decide⟩,
      ⟨"a".toList, by decide⟩, List.forall_mem_nil _⟩
  obtain ⟨first, last, hfirst, hlast, -, hcapacity, hoccupied, -⟩ :=
    capacity_insertAll source 5 hrecords
  have hsizes : ((SymbolTable.empty source 5).insertAll before).toOption.map
      (fun table => (table.capacity, table.occupied)) = some (5, 3) := by decide +kernel
  rw [hfirst] at hsizes
  obtain ⟨hfive, hthree⟩ := Prod.mk.inj (Option.some.inj hsizes)
  have hnames : (namesOf source before).card = 3 := by decide +kernel
  refine ⟨hrecords, first, last, hfirst, hlast, hfive, ?_, ?_⟩
  · rw [hcapacity, hnames, hfive]
    rfl
  · rw [hoccupied, hthree]
    decide +kernel

end SymbolTable

end FrontEnd
