import FrontEnd.Text.Line
import Mathlib.Data.List.Count
import Mathlib.Data.List.DropRight
import Mathlib.Data.List.TakeWhile

namespace FrontEnd

namespace Text

/-- A text without an open line at its end. -/
def Closed (text : Text) : Prop :=
  ∀ last ∈ text.getLast?, last = '\n'

/-- A line of a text, with what stands before it and after it. -/
structure IsLine (front line back : Text) : Prop where
  nonempty : line ≠ []
  begins : Closed front
  /-- Only the last character of a line may be a newline. -/
  inner : '\n' ∉ line.dropLast
  ends : Closed line ∨ back = []

theorem lines_ne_nil {text : Text} (h : text ≠ []) : lines text ≠ [] := by
  intro hlines
  apply h
  rw [← flatten_lines text, hlines, List.flatten_nil]

theorem closed_of_cons {character : Char} {rest : Text} (h : Closed (character :: rest)) :
    Closed rest := by
  intro last hlast
  apply h
  cases rest with
  | nil => cases hlast
  | cons next others => exact List.getLast?_cons_cons.trans hlast

theorem ne_nil_of_closed_cons {character : Char} {rest : Text} (h : Closed (character :: rest))
    (hcharacter : character ≠ '\n') : rest ≠ [] := by
  rintro rfl
  exact hcharacter (h character rfl)

theorem getLast?_of_closed {text : Text} (h : Closed text) (htext : text ≠ []) :
    text.getLast? = some '\n' := by
  obtain ⟨initial, last, rfl⟩ := (List.eq_nil_or_concat' text).resolve_left htext
  rw [List.getLast?_concat, h last List.getLast?_concat]

theorem closed_append {text : Text} (h : text.getLast? = some '\n') (front : Text) :
    Closed (front ++ text) := by
  intro last hlast
  rw [List.getLast?_append, h] at hlast
  exact (Option.some.inj hlast).symm

theorem lines_cons_of_eq {rest line : Text} {others : List Text} {character : Char}
    (hcharacter : character ≠ '\n') (hrest : lines rest = line :: others) :
    lines (character :: rest) = (character :: line) :: others := by
  rw [lines, if_neg hcharacter, hrest]

theorem lines_append {front : Text} (h : Closed front) (text : Text) :
    lines (front ++ text) = lines front ++ lines text := by
  induction front with
  | nil => rfl
  | cons character front ih =>
      have hrest := ih (closed_of_cons h)
      by_cases hcharacter : character = '\n'
      · simp [lines, hcharacter, hrest]
      · obtain ⟨line, others, hlines⟩ :=
          List.exists_cons_of_ne_nil (lines_ne_nil (ne_nil_of_closed_cons h hcharacter))
        rw [hlines, List.cons_append] at hrest
        rw [List.cons_append, lines_cons_of_eq hcharacter hrest, lines_cons_of_eq hcharacter hlines,
          List.cons_append]

theorem length_lines {front : Text} (h : Closed front) :
    (lines front).length = front.count '\n' := by
  induction front with
  | nil => rfl
  | cons character front ih =>
      have hrest := ih (closed_of_cons h)
      by_cases hcharacter : character = '\n'
      · simp [lines, hcharacter, hrest]
      · obtain ⟨line, others, hlines⟩ :=
          List.exists_cons_of_ne_nil (lines_ne_nil (ne_nil_of_closed_cons h hcharacter))
        rw [hlines] at hrest
        rw [lines_cons_of_eq hcharacter hlines, List.count_cons_of_ne hcharacter, ← hrest]
        rfl

theorem lines_line {line back : Text} (hnonempty : line ≠ []) (hinner : '\n' ∉ line.dropLast)
    (hends : Closed line ∨ back = []) : lines (line ++ back) = line :: lines back := by
  induction line with
  | nil => exact absurd rfl hnonempty
  | cons character line ih =>
      cases line with
      | nil =>
          by_cases hcharacter : character = '\n'
          · simp [lines, hcharacter]
          · have hback : back = [] := hends.resolve_left fun h => hcharacter (h character rfl)
            simp [hback, lines, hcharacter]
      | cons next line =>
          rw [List.dropLast_cons_cons, List.mem_cons, not_or] at hinner
          have hrest := ih (List.cons_ne_nil next line) hinner.2 (hends.imp_left closed_of_cons)
          exact lines_cons_of_eq (Ne.symm hinner.1) hrest

theorem withoutNewline_of_getLast?_ne {text : Text} (h : text.getLast? ≠ some '\n') :
    withoutNewline text = text := by
  rw [← List.head?_reverse] at h
  rw [withoutNewline]
  split
  · rename_i hreverse
    exact absurd (congrArg List.head? hreverse) h
  · rename_i hreverse
    exact absurd (congrArg List.head? hreverse) h
  · rfl

theorem withoutNewline_newline (text : Text) :
    withoutNewline (text ++ ['\n']) =
      if text.getLast? = some '\r' then text.dropLast else text := by
  rw [withoutNewline, List.reverse_append, List.reverse_singleton, List.singleton_append]
  rcases List.eq_nil_or_concat' text with rfl | ⟨initial, last, rfl⟩
  · rfl
  · rw [List.reverse_append, List.reverse_singleton, List.singleton_append, List.getLast?_concat,
      List.dropLast_concat]
    by_cases hlast : last = '\r'
    · simp [hlast]
    · simp [hlast]

/-- The end of a line is taken off behind a character that has no part in it. -/
theorem withoutNewline_append {front : Text} {last : Char} (hlast : front.getLast? = some last)
    (hnewline : last ≠ '\n') (hreturn : last ≠ '\r') (back : Text) :
    withoutNewline (front ++ back) = front ++ withoutNewline back := by
  rcases List.eq_nil_or_concat' back with rfl | ⟨initial, final, rfl⟩
  · rw [List.append_nil, withoutNewline_of_getLast?_ne (by simpa [hlast] using hnewline)]
    exact (List.append_nil front).symm
  · by_cases hfinal : final = '\n'
    · subst hfinal
      rw [← List.append_assoc, withoutNewline_newline, withoutNewline_newline]
      cases initial with
      | nil => simp [hlast, hreturn]
      | cons first rest =>
          rw [List.getLast?_append_cons, List.dropLast_append_of_ne_nil (List.cons_ne_nil _ _)]
          split
          · rfl
          · rfl
    · rw [withoutNewline_of_getLast?_ne (by simpa using hfinal),
        withoutNewline_of_getLast?_ne (by simpa using hfinal)]

namespace IsLine

variable {front line back : Text} (h : IsLine front line back)

include h

theorem lines_eq : lines (front ++ (line ++ back)) = lines front ++ line :: lines back := by
  rw [lines_append h.begins, lines_line h.nonempty h.inner h.ends]

theorem line?_eq :
    line? (front ++ (line ++ back)) (front.count '\n' + 1) = some (withoutNewline line) := by
  rw [line?, h.lines_eq, ← length_lines h.begins, List.getElem?_append_right (Nat.le_refl _),
    Nat.sub_self]
  rfl

end IsLine

end Text

theorem Place.among?_append {passed rest : List Text} {line : Text} {number offset : Nat}
    (h : offset < line.byteLength) :
    among? number (Text.byteLength passed.flatten + offset) (passed ++ line :: rest) =
      some ⟨number + passed.length, line, offset⟩ := by
  induction passed generalizing number with
  | nil => simp [among?, h]
  | cons first passed ih =>
      have hless : ¬Text.byteLength (first :: passed).flatten + offset < first.byteLength := by
        rw [List.flatten_cons, Text.byteLength_append]
        omega
      have hrest : Text.byteLength (first :: passed).flatten + offset - first.byteLength =
          Text.byteLength passed.flatten + offset := by
        rw [List.flatten_cons, Text.byteLength_append]
        omega
      rw [List.cons_append, among?, if_neg hless, hrest, ih, List.length_cons, Nat.add_assoc,
        Nat.add_comm 1]

theorem Text.IsLine.place?_eq {front line back : Text} (h : IsLine front line back) {offset : Nat}
    (hoffset : offset < line.byteLength) :
    Text.place? (front ++ (line ++ back)) (front.byteLength + offset) =
      some ⟨front.count '\n' + 1, line, offset⟩ := by
  have hplace := @Place.among?_append front.lines back.lines line 1 offset hoffset
  rw [Text.flatten_lines, Text.length_lines h.begins, Nat.add_comm 1] at hplace
  rw [Text.place?, h.lines_eq, hplace]

theorem Text.exists_first_line (text : Text) :
    ∃ line back, text = line ++ back ∧ '\n' ∉ line.dropLast ∧
      (line.getLast? = some '\n' ∨ back = []) := by
  induction text with
  | nil => exact ⟨[], [], rfl, List.not_mem_nil, .inr rfl⟩
  | cons character rest ih =>
      by_cases hcharacter : character = '\n'
      · exact ⟨[character], rest, rfl, List.not_mem_nil, .inl (congrArg some hcharacter)⟩
      · obtain ⟨line, back, rfl, hinner, hends⟩ := ih
        refine ⟨character :: line, back, rfl, ?_, ?_⟩
        · cases line with
          | nil => exact List.not_mem_nil
          | cons next line =>
              rw [List.dropLast_cons_cons, List.mem_cons, not_or]
              exact ⟨Ne.symm hcharacter, hinner⟩
        · refine hends.imp_left fun hlast => ?_
          rw [List.getLast?_cons, hlast]
          rfl

theorem Text.exists_last_line (text : Text) :
    ∃ front line, text = front ++ line ∧ Closed front ∧ '\n' ∉ line := by
  refine ⟨text.rdropWhile (· != '\n'), text.rtakeWhile (· != '\n'),
    List.rdropWhile_append_rtakeWhile.symm, ?_, ?_⟩
  · intro last hlast
    have hnonempty : text.rdropWhile (· != '\n') ≠ [] := by
      intro hnil
      rw [hnil] at hlast
      cases hlast
    obtain rfl := Option.some.inj ((List.getLast?_eq_some_getLast hnonempty).symm.trans hlast)
    simpa using List.rdropWhile_last_not _ _ hnonempty
  · intro hmem
    simpa using List.mem_rtakeWhile_imp hmem

theorem Text.isLine_append {front left right back : Text} (hfront : Closed front)
    (hleft : '\n' ∉ left) (hright : right ≠ []) (hinner : '\n' ∉ right.dropLast)
    (hends : right.getLast? = some '\n' ∨ back = []) : IsLine front (left ++ right) back := by
  constructor
  · simp [hright]
  · exact hfront
  · rw [List.dropLast_append_of_ne_nil hright]
    simp [hleft, hinner]
  · exact hends.imp_left fun hlast => closed_append hlast left

theorem Text.exists_isLine (before after : Text) {word : Text} (hword : word ≠ [])
    (hnewline : '\n' ∉ word) :
    ∃ front left right back, before = front ++ left ∧ after = right ++ back ∧ '\n' ∉ left ∧
      IsLine front (left ++ (word ++ right)) back := by
  obtain ⟨front, left, hbefore, hfront, hleft⟩ := Text.exists_last_line before
  obtain ⟨right, back, hafter, hright, hends⟩ := Text.exists_first_line after
  refine ⟨front, left, right, back, hbefore, hafter, hleft, ?_⟩
  apply Text.isLine_append hfront hleft
  · simp [hword]
  · cases right with
    | nil =>
        rw [List.append_nil]
        exact fun hmem => hnewline (List.dropLast_subset word hmem)
    | cons next right =>
        rw [List.dropLast_append_of_ne_nil (List.cons_ne_nil next right)]
        simp [hnewline, hright]
  · refine hends.imp_left fun hlast => ?_
    rw [List.getLast?_append, hlast]
    rfl

/-- Some text without a newline is found at its place, in the line that the newlines before it
count. -/
theorem Text.exists_place (before after : Text) {word : Text} (hword : word ≠ [])
    (hnewline : '\n' ∉ word) :
    ∃ left right, Text.place? (before ++ (word ++ after)) before.byteLength =
        some ⟨before.count '\n' + 1, left ++ (word ++ right), left.byteLength⟩ ∧
      Text.line? (before ++ (word ++ after)) (before.count '\n' + 1) =
        some (withoutNewline (left ++ (word ++ right))) := by
  obtain ⟨front, left, right, back, rfl, rfl, hleft, hline⟩ :=
    Text.exists_isLine before after hword hnewline
  have hcount : (front ++ left).count '\n' = front.count '\n' := by
    rw [List.count_append, List.count_eq_zero_of_not_mem hleft, Nat.add_zero]
  have htext : front ++ left ++ (word ++ (right ++ back)) =
      front ++ (left ++ (word ++ right) ++ back) := by simp
  have hoffset : left.byteLength < (left ++ (word ++ right)).byteLength := by
    obtain ⟨first, rest, rfl⟩ := List.exists_cons_of_ne_nil hword
    have hpositive := first.utf8Size_pos
    simp only [Text.byteLength_append, Text.byteLength_cons]
    omega
  refine ⟨left, right, ?_, ?_⟩
  · rw [htext, hcount, Text.byteLength_append, hline.place?_eq hoffset]
  · rw [htext, hcount, hline.line?_eq]

end FrontEnd
