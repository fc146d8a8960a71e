import FrontEnd.Text.Basic
import Mathlib.Data.List.Count
import Mathlib.Tactic.SplitIfs

namespace FrontEnd

namespace Text

@[simp]
theorem bytes_cons (character : Char) (rest : Text) :
    bytes (character :: rest) = String.utf8EncodeChar character ++ bytes rest := rfl

@[simp]
theorem bytes_append (first second : Text) :
    bytes (first ++ second) = bytes first ++ bytes second :=
  List.flatMap_append

@[simp]
theorem length_bytes (text : Text) : text.bytes.length = text.byteLength := by
  induction text with
  | nil => rfl
  | cons character rest ih => simp [ih]

theorem take_bytes (before after : Text) :
    (before ++ after).bytes.take before.byteLength = before.bytes := by
  rw [bytes_append, ← length_bytes, List.take_left]

theorem getElem?_bytes (before after : Text) (index : Nat) :
    (before ++ after).bytes[before.byteLength + index]? = after.bytes[index]? := by
  rw [bytes_append, List.getElem?_append_right (by simp), length_bytes, Nat.add_sub_cancel_left]

theorem toNat_toUInt8_of_ascii {ascii : Char} (hascii : ascii.toNat < 128) :
    ascii.toUInt8.toNat = ascii.toNat := by
  have hvalue : ascii.toUInt8.toNat = ascii.toNat % 256 := UInt32.toNat_toUInt8 ascii.val
  omega

theorem eq_of_mem_utf8EncodeChar {character ascii : Char} (hascii : ascii.toNat < 128)
    (hmem : ascii.toUInt8 ∈ String.utf8EncodeChar character) : character = ascii := by
  have hvalue := toNat_toUInt8_of_ascii hascii
  unfold String.utf8EncodeChar at hmem
  simp only at hmem
  split_ifs at hmem with hone htwo hthree
  · have hbyte := congrArg UInt8.toNat (List.mem_singleton.mp hmem)
    simp only [UInt8.toNat_ofNat'] at hbyte
    apply Char.toNat_inj.mp
    change character.val.toNat = ascii.toNat
    omega
  all_goals
    simp only [List.mem_cons, List.not_mem_nil, or_false, ← UInt8.toNat_inj,
      UInt8.toNat_ofNat'] at hmem
    omega

theorem utf8EncodeChar_of_ascii {ascii : Char} (hascii : ascii.toNat < 128) :
    String.utf8EncodeChar ascii = [ascii.toUInt8] := by
  apply String.utf8EncodeChar_eq_singleton
  rw [Char.utf8Size_eq_one_iff, UInt32.le_iff_toNat_le]
  change ascii.toNat ≤ 127
  omega

theorem getElem?_bytes_zero_iff {first ascii : Char} {rest : Text} (hascii : ascii.toNat < 128) :
    (bytes (first :: rest))[0]? = some ascii.toUInt8 ↔ first = ascii := by
  constructor
  · intro h
    have hpositive : 0 < (String.utf8EncodeChar first).length := by
      simpa using first.utf8Size_pos
    rw [bytes_cons, List.getElem?_append_left hpositive] at h
    exact eq_of_mem_utf8EncodeChar hascii (List.mem_of_getElem? h)
  · rintro rfl
    rw [bytes_cons, utf8EncodeChar_of_ascii hascii]
    rfl

theorem count_bytes {ascii : Char} (hascii : ascii.toNat < 128) (text : Text) :
    text.bytes.count ascii.toUInt8 = text.count ascii := by
  induction text with
  | nil => rfl
  | cons character rest ih =>
      rw [bytes_cons, List.count_append, ih, List.count_cons, Nat.add_comm]
      congr 1
      split_ifs with heq
      · rw [beq_iff_eq] at heq
        rw [heq, utf8EncodeChar_of_ascii hascii, List.count_singleton_self]
      · apply List.count_eq_zero_of_not_mem
        intro hmem
        rw [eq_of_mem_utf8EncodeChar hascii hmem] at heq
        simp at heq

theorem mem_bytes_iff {ascii : Char} (hascii : ascii.toNat < 128) {text : Text} :
    ascii.toUInt8 ∈ text.bytes ↔ ascii ∈ text := by
  rw [← List.count_pos_iff, count_bytes hascii, List.count_pos_iff]

/-- A position between the bytes of one character. -/
def Inside (text : Text) (position : Nat) : Prop :=
  ∃ (before : Text) (character : Char) (after : Text), text = before ++ character :: after ∧
    before.byteLength < position ∧ position < before.byteLength + character.utf8Size

theorem exists_character {text : Text} {position : Nat} (h : position < text.byteLength) :
    ∃ (before : Text) (character : Char) (after : Text), text = before ++ character :: after ∧
      before.byteLength ≤ position ∧ position < before.byteLength + character.utf8Size := by
  induction text generalizing position with
  | nil => exact absurd h (Nat.not_lt_zero position)
  | cons first rest ih =>
      by_cases hfirst : position < first.utf8Size
      · exact ⟨[], first, rest, rfl, Nat.zero_le position, by simpa using hfirst⟩
      · rw [byteLength_cons] at h
        obtain ⟨before, character, after, rfl, hle, hlt⟩ :=
          @ih (position - first.utf8Size) (by omega)
        refine ⟨first :: before, character, after, rfl, ?_, ?_⟩
        · rw [byteLength_cons]
          omega
        · rw [byteLength_cons]
          omega

theorem exists_cut_or_inside {text : Text} {position : Nat} (h : position ≤ text.byteLength) :
    (∃ before after : Text, text = before ++ after ∧ before.byteLength = position) ∨
      text.Inside position := by
  rcases Nat.lt_or_eq_of_le h with hlt | rfl
  · obtain ⟨before, character, after, rfl, hle, hinside⟩ := exists_character hlt
    rcases Nat.lt_or_eq_of_le hle with hbefore | rfl
    · exact .inr ⟨before, character, after, rfl, hbefore, hinside⟩
    · exact .inl ⟨before, character :: after, rfl, rfl⟩
  · exact .inl ⟨text, [], (List.append_nil text).symm, rfl⟩

/-- Where a text is cut, there is no position inside a character. -/
theorem not_inside (before after : Text) : ¬Inside (before ++ after) before.byteLength := by
  rintro ⟨front, character, back, heq, hfront, hback⟩
  rcases List.append_eq_append_iff.mp heq with ⟨between, rfl, -⟩ | ⟨between, rfl, hbetween⟩
  · rw [byteLength_append] at hfront
    omega
  · cases between with
    | nil => simp at hfront
    | cons first rest =>
        obtain ⟨rfl, -⟩ := List.cons.inj hbetween
        rw [byteLength_append, byteLength_cons] at hback
        omega

theorem Inside.append_left {text : Text} {position : Nat} (h : text.Inside position)
    (front : Text) : (front ++ text).Inside (front.byteLength + position) := by
  obtain ⟨before, character, after, rfl, hbefore, hafter⟩ := h
  refine ⟨front ++ before, character, after, (List.append_assoc _ _ _).symm, ?_, ?_⟩
  · rw [byteLength_append]
    omega
  · rw [byteLength_append]
    omega

end Text

/-- A span that is reversed, reaches beyond a text or has an end inside a character. -/
def Span.Misfits (span : Span) (text : Text) : Prop :=
  span.stop < span.start ∨ text.byteLength < span.stop ∨ text.Inside span.start ∨
    text.Inside span.stop

theorem Span.slice?_eq_none_iff {span : Span} {text : Text} :
    span.slice? text = none ↔ span.Misfits text := by
  constructor
  · intro hnone
    by_contra hfits
    simp only [Misfits, not_or, Nat.not_lt] at hfits
    obtain ⟨hordered, hwithin, hstart, hstop⟩ := hfits
    obtain ⟨before, tail, rfl, hbefore⟩ :=
      (Text.exists_cut_or_inside (Nat.le_trans hordered hwithin)).resolve_right hstart
    have htail : span.length ≤ tail.byteLength := by
      rw [Text.byteLength_append] at hwithin
      rw [length]
      omega
    have hinside : ¬tail.Inside span.length := by
      intro hinside
      have hmoved := hinside.append_left before
      rw [hbefore, length, Nat.add_sub_cancel' hordered] at hmoved
      exact hstop hmoved
    obtain ⟨covered, after, rfl, hcovered⟩ :=
      (Text.exists_cut_or_inside htail).resolve_right hinside
    have hsome : span.slice? (before ++ (covered ++ after)) = some covered := by
      refine slice?_eq_some_iff.mpr ⟨before, after, (List.append_assoc _ _ _).symm, hbefore, ?_⟩
      rw [hcovered, length, Nat.add_sub_cancel' hordered]
    rw [hnone] at hsome
    cases hsome
  · intro hmisfits
    rw [Option.eq_none_iff_forall_ne_some]
    intro covered hsome
    obtain ⟨before, after, rfl, hstart, hstop⟩ := slice?_eq_some_iff.mp hsome
    rcases hmisfits with hreversed | hbeyond | hinside | hinside
    · omega
    · rw [Text.byteLength_append, Text.byteLength_append] at hbeyond
      omega
    · rw [← hstart, List.append_assoc] at hinside
      exact Text.not_inside _ _ hinside
    · rw [← hstop, ← hstart, ← Text.byteLength_append] at hinside
      exact Text.not_inside _ _ hinside

end FrontEnd
