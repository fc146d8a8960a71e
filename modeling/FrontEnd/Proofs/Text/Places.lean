import FrontEnd.Proofs.Text.Bytes
import FrontEnd.Proofs.Text.Lines

namespace FrontEnd

namespace Text

def newlineByte : UInt8 := '\n'.toUInt8

/-- The bytes of the line that a position is on. They begin after a newline or with the text, and
end with the next newline or with the text. -/
structure LineBounds (bytes : List UInt8) (position start stop : Nat) : Prop where
  start_le : start ≤ position
  lt_stop : position < stop
  begins : start = 0 ∨ bytes[start - 1]? = some newlineByte
  inner : ∀ index, start ≤ index → index + 1 < stop → bytes[index]? ≠ some newlineByte
  ends : stop = bytes.length ∨ bytes[stop - 1]? = some newlineByte

/-- A line, and what is left of it without its newline and without a carriage return directly before
that newline. -/
inductive Stripped : Text → Text → Prop
  | carriageReturn (text : Text) : Stripped (text ++ ['\r', '\n']) text
  | newline {text : Text} : text.getLast? ≠ some '\r' → Stripped (text ++ ['\n']) text
  | unended {text : Text} : text.getLast? ≠ some '\n' → Stripped text text

theorem stripped_withoutNewline (line : Text) : Stripped line (withoutNewline line) := by
  rcases List.eq_nil_or_concat' line with rfl | ⟨initial, last, rfl⟩
  · exact .unended (by simp)
  · by_cases hlast : last = '\n'
    · subst hlast
      rw [withoutNewline_newline]
      split
      · rename_i hreturn
        obtain ⟨text, rfl⟩ := List.getLast?_eq_some_iff.mp hreturn
        rw [List.dropLast_concat, List.append_assoc]
        exact .carriageReturn text
      · rename_i hreturn
        exact .newline hreturn
    · have hopen : (initial ++ [last]).getLast? ≠ some '\n' := by simpa using hlast
      rw [withoutNewline_of_getLast?_ne hopen]
      exact .unended hopen

section Bounds

variable {text front line back : Text} {position offset : Nat}

theorem getElem?_bytes_of_closed (h : Closed text) (htext : text ≠ []) (after : Text) :
    (text ++ after).bytes[text.byteLength - 1]? = some newlineByte := by
  obtain ⟨initial, rfl⟩ := List.getLast?_eq_some_iff.mp (getLast?_of_closed h htext)
  rw [byteLength_append, List.append_assoc]
  exact getElem?_bytes initial ('\n' :: after) 0

/-- Only the last byte of a line may be that of a newline. -/
theorem getElem?_bytes_ne_newlineByte (hinner : '\n' ∉ line.dropLast) {index : Nat}
    (hindex : index + 1 < line.byteLength) (back : Text) :
    (line ++ back).bytes[index]? ≠ some newlineByte := by
  intro hbyte
  have hascii : '\n'.toNat < 128 := by decide
  rcases List.eq_nil_or_concat' line with rfl | ⟨initial, last, rfl⟩
  · simp at hindex
  · rw [List.dropLast_concat] at hinner
    rw [byteLength_append, byteLength_cons, byteLength_nil] at hindex
    by_cases hinitial : index < byteLength initial
    · rw [List.append_assoc, bytes_append, List.getElem?_append_left (by simpa using hinitial)]
        at hbyte
      exact hinner ((mem_bytes_iff hascii).mp (List.mem_of_getElem? hbyte))
    · -- In the bytes of the last character the newline would be the only one.
      obtain ⟨rest, rfl⟩ := Nat.exists_eq_add_of_le (Nat.le_of_not_lt hinitial)
      rw [List.append_assoc, getElem?_bytes, List.singleton_append, bytes_cons,
        List.getElem?_append_left (by simp; omega)] at hbyte
      obtain rfl := eq_of_mem_utf8EncodeChar hascii (List.mem_of_getElem? hbyte)
      have hsize : '\n'.utf8Size = 1 := rfl
      omega

namespace IsLine

theorem lineBounds (h : IsLine front line back) (hoffset : offset < line.byteLength) :
    LineBounds (front ++ (line ++ back)).bytes (front.byteLength + offset) front.byteLength
      (front ++ line).byteLength := by
  constructor
  · exact Nat.le_add_right _ _
  · rw [byteLength_append]
    omega
  · by_cases hfront : front = []
    · exact .inl (by rw [hfront, byteLength_nil])
    · exact .inr (getElem?_bytes_of_closed h.begins hfront _)
  · intro index hindex hstop
    obtain ⟨rest, rfl⟩ := Nat.exists_eq_add_of_le hindex
    rw [byteLength_append] at hstop
    rw [getElem?_bytes]
    exact getElem?_bytes_ne_newlineByte h.inner (by omega) back
  · rcases h.ends with hclosed | rfl
    · have hwhole := closed_append (getLast?_of_closed hclosed h.nonempty) front
      rw [← List.append_assoc]
      exact .inr (getElem?_bytes_of_closed hwhole (by simp [h.nonempty]) back)
    · exact .inl (by rw [List.append_nil, length_bytes])

end IsLine

/-- Between the beginning of its line and a position there is no newline. -/
theorem LineBounds.count_take {bytes : List UInt8} {start stop : Nat}
    (h : LineBounds bytes position start stop) :
    (bytes.take position).count newlineByte = (bytes.take start).count newlineByte := by
  obtain ⟨rest, rfl⟩ := Nat.exists_eq_add_of_le h.start_le
  have hbetween : newlineByte ∉ (bytes.drop start).take rest := by
    intro hmem
    obtain ⟨index, hindex⟩ := List.mem_iff_getElem?.mp hmem
    rw [List.getElem?_take, Option.ite_none_right_eq_some, List.getElem?_drop] at hindex
    have hstop := h.lt_stop
    exact h.inner (start + index) (Nat.le_add_right _ _) (by omega) hindex.2
  rw [List.take_add, List.count_append, List.count_eq_zero_of_not_mem hbetween, Nat.add_zero]

theorem exists_isLine_at (h : position < text.byteLength) :
    ∃ front line back offset, text = front ++ (line ++ back) ∧ IsLine front line back ∧
      offset < line.byteLength ∧ position = front.byteLength + offset := by
  obtain ⟨before, character, after, rfl, hle, hlt⟩ := exists_character h
  obtain ⟨front, left, rfl, hfront, hleft⟩ := exists_last_line before
  obtain ⟨right, back, hafter, hinner, hends⟩ := exists_first_line (character :: after)
  cases right with
  | nil =>
      obtain rfl : back = [] := hends.resolve_left (by simp)
      cases hafter
  | cons first right =>
      obtain ⟨rfl, rfl⟩ := List.cons.inj hafter
      rw [byteLength_append] at hle hlt
      refine ⟨front, left ++ character :: right, back, position - front.byteLength, ?_, ?_, ?_, ?_⟩
      · simp
      · exact isLine_append hfront hleft (List.cons_ne_nil _ _) hinner hends
      · rw [byteLength_append, byteLength_cons]
        omega
      · omega

end Bounds

section Finders

variable {text line : Text} {number position : Nat}

theorem ne_nil_of_mem_lines (h : line ∈ lines text) : line ≠ [] := by
  induction text generalizing line with
  | nil => cases h
  | cons character rest ih =>
      rw [lines] at h
      split at h
      · rcases List.mem_cons.mp h with rfl | hrest
        · exact List.cons_ne_nil _ _
        · exact ih hrest
      · split at h
        · obtain rfl := List.mem_singleton.mp h
          exact List.cons_ne_nil _ _
        · rename_i others hlines
          rcases List.mem_cons.mp h with rfl | hrest
          · exact List.cons_ne_nil _ _
          · exact ih (hlines ▸ List.mem_cons_of_mem _ hrest)

theorem line?_eq_none_iff :
    text.line? number = none ↔ number = 0 ∨ (lines text).length < number := by
  cases number with
  | zero => simp [line?]
  | succ number =>
      rw [line?, Option.map_eq_none_iff, List.getElem?_eq_none_iff]
      omega

end Finders

end Text

theorem Place.among?_eq_none {lines : List Text} {number offset : Nat}
    (h : Text.byteLength lines.flatten ≤ offset) : among? number offset lines = none := by
  induction lines generalizing number offset with
  | nil => rfl
  | cons line lines ih =>
      rw [List.flatten_cons, Text.byteLength_append] at h
      rw [among?, if_neg (by omega)]
      exact ih (by omega)

namespace Text

variable {text line : Text} {number position : Nat}

theorem place?_eq_none (h : text.byteLength ≤ position) : text.place? position = none := by
  rw [← flatten_lines text] at h
  exact Place.among?_eq_none h

theorem lt_of_place? {place : Place} (h : text.place? position = some place) :
    position < text.byteLength := by
  by_contra hbeyond
  rw [place?_eq_none (Nat.le_of_not_lt hbeyond)] at h
  cases h

theorem exists_isLine_of_place? {place : Place} (h : text.place? position = some place) :
    ∃ front back, text = front ++ (place.line ++ back) ∧ IsLine front place.line back ∧
      place.number = front.count '\n' + 1 ∧ place.offset < place.line.byteLength ∧
      position = front.byteLength + place.offset := by
  obtain ⟨front, line, back, offset, rfl, hline, hoffset, rfl⟩ :=
    exists_isLine_at (lt_of_place? h)
  rw [hline.place?_eq hoffset] at h
  cases h
  exact ⟨front, back, rfl, hline, rfl, hoffset, rfl⟩

theorem place?_isSome_iff : (text.place? position).isSome ↔ position < text.byteLength := by
  constructor
  · intro h
    obtain ⟨place, hplace⟩ := Option.isSome_iff_exists.mp h
    exact lt_of_place? hplace
  · intro h
    obtain ⟨front, line, back, offset, rfl, hline, hoffset, rfl⟩ := exists_isLine_at h
    rw [hline.place?_eq hoffset]
    rfl

theorem getElem?_lines_iff :
    (lines text)[number]? = some line ↔
      ∃ position offset, text.place? position = some ⟨number + 1, line, offset⟩ := by
  constructor
  · intro hline
    have hpositive : 0 < line.byteLength := by
      obtain ⟨first, rest, rfl⟩ :=
        List.exists_cons_of_ne_nil (ne_nil_of_mem_lines (List.mem_of_getElem? hline))
      exact Nat.add_pos_left first.utf8Size_pos _
    obtain ⟨hlength, hget⟩ := List.getElem?_eq_some_iff.mp hline
    obtain ⟨passed, rest, hlines, hpassed⟩ :
        ∃ passed rest, lines text = passed ++ line :: rest ∧ passed.length = number := by
      refine ⟨(lines text).take number, (lines text).drop (number + 1), ?_, ?_⟩
      · rw [← hget, List.getElem_cons_drop, List.take_append_drop]
      · exact List.length_take_of_le (Nat.le_of_lt hlength)
    refine ⟨byteLength passed.flatten + 0, 0, ?_⟩
    rw [place?, hlines, Place.among?_append hpositive, hpassed, Nat.add_comm 1]
  · rintro ⟨position, offset, hplace⟩
    obtain ⟨front, back, rfl, hline, hnumber, -, -⟩ := exists_isLine_of_place? hplace
    obtain rfl : number = front.count '\n' := Nat.succ.inj hnumber
    rw [hline.lines_eq, ← length_lines hline.begins, List.getElem?_append_right (Nat.le_refl _),
      Nat.sub_self]
    rfl

/-- There is a line for a position exactly within a text. Its number counts the newlines before the
position, and it goes from the one before to the next one, which it still has; the line of that
number is the same without its end. The numbers of lines go up to that of the last line that is
found by a position, and all the lines together are the text. -/
theorem place?_line?_agree (text : Text) :
    (∀ position, (text.place? position).isSome ↔ position < text.byteLength) ∧
    (∀ position place, text.place? position = some place →
      place.number = 1 + (text.bytes.take position).count newlineByte ∧
      (∃ start stop, LineBounds text.bytes position start stop ∧
        place.offset = position - start ∧ Span.slice? ⟨start, stop⟩ text = some place.line) ∧
      ∃ shown, text.line? place.number = some shown ∧ Stripped place.line shown) ∧
    ∃ found : List Text,
      (∀ number line, found[number]? = some line ↔
        ∃ position offset, text.place? position = some ⟨number + 1, line, offset⟩) ∧
      (∀ number, text.line? number = none ↔ number = 0 ∨ found.length < number) ∧
      found.flatten = text := by
  refine ⟨fun _ => place?_isSome_iff, fun position place hplace => ?_, lines text,
    fun _ _ => getElem?_lines_iff, fun _ => line?_eq_none_iff, flatten_lines text⟩
  obtain ⟨front, back, rfl, hline, hnumber, hoffset, rfl⟩ := exists_isLine_of_place? hplace
  have hbounds := hline.lineBounds hoffset
  refine ⟨?_, ⟨_, _, hbounds, ?_, ?_⟩, withoutNewline place.line, ?_, stripped_withoutNewline _⟩
  · rw [hbounds.count_take, take_bytes, newlineByte, count_bytes (by decide), hnumber, Nat.add_comm]
  · exact (Nat.add_sub_cancel_left _ _).symm
  · exact Span.slice?_eq_some_iff.mpr
      ⟨front, back, (List.append_assoc _ _ _).symm, rfl, (byteLength_append _ _).symm⟩
  · rw [hnumber]
    exact hline.line?_eq

/-- The third line begins after an empty one, and keeps its carriage return, as no newline
follows. -/
theorem place?_line?_agree_return :
    let text : Text := "a\r\n\né\r".toList
    let line : Text := "é\r".toList
    text.place? 5 = some ⟨3, line, 1⟩ ∧ (text.bytes.take 5).count newlineByte = 2 ∧
      text.line? 3 = some line ∧ Stripped line line ∧ ¬(text.place? 7).isSome := by
  intro text line
  have hplace : text.place? 5 = some ⟨3, line, 1⟩ := by decide +kernel
  have hline : text.line? 3 = some line := by decide +kernel
  obtain ⟨hsome, hagree, -⟩ := place?_line?_agree text
  obtain ⟨hnumber, -, shown, hshown, hstripped⟩ := hagree 5 _ hplace
  obtain rfl := Option.some.inj (hshown.symm.trans hline)
  refine ⟨hplace, (Nat.add_left_cancel hnumber).symm, hline, hstripped, ?_⟩
  rw [hsome]
  decide

end Text

end FrontEnd
