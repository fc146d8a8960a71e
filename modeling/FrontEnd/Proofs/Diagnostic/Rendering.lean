import FrontEnd.Diagnostic.Render
import FrontEnd.Proofs.Grammar.Placement

/-!
Renderings of diagnostics. What stands before a refused word on its line has been scanned, and so
is made of characters of one byte each; and the word itself begins with no space. Therefore the
offset of the word, less the spaces that are removed, is the column in which it is shown, and the
caret stands under it.
-/

namespace FrontEnd

open Scan

namespace Text

section Trimming

variable {blanks : Text} (h : ∀ character ∈ blanks, isWhiteSpace character)

include h

end Trimming

end Text

namespace Excerpt

theorem drop_indentation (line : Text) :
    line.drop (indentation line) = line.dropWhile (· == ' ') := by
  calc
    line.drop (indentation line) =
        (line.takeWhile (· == ' ') ++ line.dropWhile (· == ' ')).drop (indentation line) := by
      rw [List.takeWhile_append_dropWhile]
    _ = line.dropWhile (· == ' ') := List.drop_left

theorem indentation_le (line : Text) : indentation line ≤ line.length :=
  (List.takeWhile_prefix _).length_le

theorem length_dropWhile (line : Text) :
    (line.dropWhile (· == ' ')).length = line.length - indentation line := by
  rw [← drop_indentation, List.length_drop]

section Word

variable {word : Text} (hword : word ≠ []) (hspace : ' ' ∉ word) (left right : Text)

include hword hspace

theorem dropWhile_append_word :
    (left ++ (word ++ right)).dropWhile (· == ' ') =
      left.dropWhile (· == ' ') ++ (word ++ right) := by
  obtain ⟨first, rest, rfl⟩ := List.exists_cons_of_ne_nil hword
  have hfirst : ¬(first == ' ') = true := by
    rw [beq_iff_eq]
    rintro rfl
    exact hspace List.mem_cons_self
  have hhead : List.dropWhile (· == ' ') (first :: (rest ++ right)) = first :: (rest ++ right) :=
    List.dropWhile_cons_of_neg hfirst
  rw [List.dropWhile_append, List.cons_append, hhead]
  split
  · rename_i hempty
    rw [List.isEmpty_iff.mp hempty, List.nil_append]
  · rfl

theorem indentation_append_word :
    indentation (left ++ (word ++ right)) = indentation left := by
  have hshown := congrArg List.length (dropWhile_append_word hword hspace left right)
  have hleft := indentation_le left
  have hline := indentation_le (left ++ (word ++ right))
  simp only [List.length_append, length_dropWhile] at hshown hline
  omega

end Word

end Excerpt

section Ascii

theorem lt_of_isAlphanum {character : Char} (h : character.isAlphanum) : character.toNat < 128 := by
  have hranges : ((decide (character.val ≥ 'A'.val ∧ character.val ≤ 'Z'.val) ||
      decide (character.val ≥ 'a'.val) && decide (character.val ≤ 'z'.val)) ||
      decide (character.val ≥ '0'.val) && decide (character.val ≤ '9'.val)) = true := h
  simp only [Bool.or_eq_true, Bool.and_eq_true, decide_eq_true_eq, ge_iff_le,
    UInt32.le_iff_toNat_le] at hranges
  have hvalue : character.toNat = character.val.toNat := rfl
  have hupper : 'Z'.val.toNat = 90 := rfl
  have hlower : 'z'.val.toNat = 122 := rfl
  have hdigit : '9'.val.toNat = 57 := rfl
  omega

theorem utf8Size_of_isPlain {character : Char} (h : IsPlain character) :
    character.utf8Size = 1 := by
  rcases h with rfl | rfl | halphanum | rfl | hmem
  · rfl
  · rfl
  · have hless := lt_of_isAlphanum halphanum
    rw [Char.utf8Size_eq_one_iff, UInt32.le_iff_toNat_le]
    exact Nat.le_of_lt_succ hless
  · rfl
  · simp only [List.mem_cons, List.not_mem_nil, or_false] at hmem
    rcases hmem with
      rfl | rfl | rfl | rfl | rfl | rfl | rfl | rfl | rfl | rfl | rfl | rfl | rfl | rfl
    all_goals rfl

/-- A text that is scanned is made of characters of one byte. -/
theorem utf8Size_of_legible {text : Text} (h : Legible text) :
    ∀ character ∈ text, character.utf8Size = 1 := by
  intro character hmem
  obtain ⟨before, after, hsplit⟩ := List.append_of_mem hmem
  rcases h before character after hsplit with hplain | ⟨rfl, -⟩
  · exact utf8Size_of_isPlain hplain
  · rfl

theorem byteLength_of_utf8Size {text : Text} (h : ∀ character ∈ text, character.utf8Size = 1) :
    text.byteLength = text.length := by
  induction text with
  | nil => rfl
  | cons character rest ih =>
      rw [List.forall_mem_cons] at h
      rw [Text.byteLength_cons, h.1, ih h.2, List.length_cons, Nat.add_comm]

end Ascii

namespace Diagnostic

/-- A diagnostic is about a word that a span covers, on a line of the source with its number; all
that stands before the word on its line is made of characters of one byte. -/
structure Blames (source : Text) (problem : Diagnostic) (span : Span)
    (front left word right back : Text) : Prop where
  split : source = front ++ (left ++ (word ++ right) ++ back)
  isLine : Text.IsLine front (left ++ (word ++ right)) back
  line : problem.line = front.count '\n' + 1
  slice : span.slice? source = some word
  start : span.start = front.byteLength + left.byteLength
  nonempty : word ≠ []
  unbroken : '\n' ∉ word
  unspaced : ' ' ∉ word
  ascii : ∀ character ∈ left, character.utf8Size = 1

theorem exists_blames {before word after : Text} {problem : Diagnostic} {span : Span}
    (hline : problem.line = before.count '\n' + 1)
    (hslice : span.slice? (before ++ (word ++ after)) = some word)
    (hstart : span.start = before.byteLength) (hnonempty : word ≠ []) (hunbroken : '\n' ∉ word)
    (hunspaced : ' ' ∉ word) (hlegible : Legible before) :
    ∃ front left right back,
      problem.Blames (before ++ (word ++ after)) span front left word right back := by
  obtain ⟨front, left, right, back, rfl, rfl, hleft, hisLine⟩ :=
    Text.exists_isLine before after hnonempty hunbroken
  refine ⟨front, left, right, back, ?_, hisLine, ?_, hslice, ?_, hnonempty, hunbroken, hunspaced,
    ?_⟩
  · simp
  · rw [hline, List.count_append, List.count_eq_zero_of_not_mem hleft, Nat.add_zero]
  · rw [hstart, Text.byteLength_append]
  · intro character hmem
    exact utf8Size_of_legible hlegible character (List.mem_append_right front hmem)

section Characters

theorem newline_not_mem_name (cause : Cause) : '\n' ∉ cause.name.toList := by
  unfold Cause.name
  split <;> decide

end Characters

namespace Blames

variable {problem : Diagnostic} {source : Text} {span : Span} {front left word right back : Text}
  (h : problem.Blames source span front left word right back)

include h

theorem place?_eq :
    source.place? span.start = some ⟨problem.line, left ++ (word ++ right), left.byteLength⟩ := by
  have hoffset : left.byteLength < (left ++ (word ++ right)).byteLength := by
    obtain ⟨first, rest, hword⟩ := List.exists_cons_of_ne_nil h.nonempty
    have hpositive := first.utf8Size_pos
    simp only [hword, Text.byteLength_append, Text.byteLength_cons]
    omega
  rw [h.start, h.line, h.split]
  exact h.isLine.place?_eq hoffset

/-- The word does not begin in the spaces that are removed. -/
theorem indentation_le : Excerpt.indentation (left ++ (word ++ right)) ≤ left.byteLength := by
  rw [Excerpt.indentation_append_word h.nonempty h.unspaced, byteLength_of_utf8Size h.ascii]
  exact Excerpt.indentation_le left

section Rendering

variable {file : Text}

end Rendering

end Blames

end Diagnostic

section Analysis

variable {source : Text} {limit : Nat} {problem : Diagnostic}

theorem Token.Fits.exists_blames {token : Token} (h : token.Fits source)
    (hlegible : Legible source) (hline : problem.line = token.line) :
    ∃ front left word right back, problem.Blames source token.span front left word right back := by
  obtain ⟨before, lexeme, after, rfl, hlexeme, hspells, hstart, htoken⟩ := h.exists_cut
  have hbefore : Legible before := by
    rintro front character back rfl
    exact hlegible front character (back ++ (lexeme ++ after)) (by simp)
  have hspace : ' ' ∉ lexeme := fun hmem => (not_blank_of_mem_lexeme hspells hmem).1 rfl
  obtain ⟨front, left, right, back, hblames⟩ :=
    Diagnostic.exists_blames (hline.trans htoken) hlexeme hstart (lexeme_ne_nil_of_spells hspells)
      (not_mem_of_spells hspells).1 hspace hbefore
  exact ⟨front, left, lexeme, right, back, hblames⟩

theorem Scan.FirstIllegible.not_blank {before after : Text} {character : Char}
    (h : FirstIllegible source before character after) :
    ' ' ∉ [character] ∧ '\n' ∉ [character] := by
  rw [List.mem_singleton, List.mem_singleton]
  constructor
  · rintro rfl
    exact h.illegible (.inl (.inl rfl))
  · rintro rfl
    exact h.illegible (.inl (.inr (.inl rfl)))

theorem Scan.FirstIllegible.exists_blames {before after : Text} {character : Char}
    (h : FirstIllegible source before character after) :
    ∃ front left word right back, (Diagnostic.unrecognised 0 1 before character).Blames source
      ⟨before.byteLength, before.byteLength + character.utf8Size⟩ front left word right back := by
  obtain ⟨hspace, hnewline⟩ := h.not_blank
  obtain rfl : source = before ++ ([character] ++ after) := h.split
  have hslice : Span.slice? ⟨before.byteLength, before.byteLength + character.utf8Size⟩
      (before ++ ([character] ++ after)) = some [character] := by
    rw [Span.slice?_eq_some_iff]
    exact ⟨before, after, (List.append_assoc ..).symm, rfl, by simp⟩
  obtain ⟨front, left, right, back, hblames⟩ :=
    @Diagnostic.exists_blames before [character] after (.unrecognised 0 1 before character) _
      (Nat.add_comm _ _) hslice rfl (List.cons_ne_nil _ _) hnewline hspace h.legible
  exact ⟨front, left, [character], right, back, hblames⟩

end Analysis

end FrontEnd
