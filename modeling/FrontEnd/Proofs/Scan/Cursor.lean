import FrontEnd.Proofs.Scan.Laws
import FrontEnd.Proofs.Text.Bytes
import FrontEnd.Text.ByteCursor

namespace FrontEnd

open Scan

/-- What is found at a cursor. -/
inductive Move where
  | token (kind : Kind) (length : Nat)
  | blank (lines : Nat)
  | stray (character : Char)

/-- The move for what stands at the head of a text that begins with the given character. -/
def Move.ofMunch (first : Char) : Munch → Move
  | .token kind lexeme _ => .token kind lexeme.byteLength
  | .blank lines => .blank lines
  | .stray => .stray first

/-- The length in bytes of the run of characters at the head of a text, if one starts there. -/
def runLength? (starts continues : Char → Bool) : Text → Option Nat
  | [] => none
  | first :: rest =>
      if starts first then some (Text.byteLength (first :: rest.takeWhile continues)) else none

/-- The symbol that begins with a byte, with its length, by that byte and the one after it. -/
def symbolAt? (current : UInt8) (next : Option UInt8) : Option (Kind × Nat) :=
  match next.bind fun second => pair? (Char.ofUInt8 current) (Char.ofUInt8 second) with
  | some kind => some (kind, 2)
  | none => (symbol? (Char.ofUInt8 current)).map (·, 1)

/-- The move at the head of a text that begins with no word and no numeral, by its first bytes. -/
def Move.ofBytes (text : Text) (current : UInt8) (next : Option UInt8) : Move :=
  match symbolAt? current next with
  | some (kind, length) => .token kind length
  | none =>
      if current = ' '.toUInt8 then .blank 0
      else if current = '\n'.toUInt8 then .blank 1
      else .stray (text.head?.getD '\x00')

namespace ByteCursor

/-- One turn of the scan. -/
def move? (cursor : ByteCursor) : Option Move :=
  cursor.remainder?.bind fun text =>
    match runLength? isWordStart isWordPart text with
    | some length => (text.takeBytes? length).map fun word => .token (Kind.ofWord word) length
    | none =>
        match runLength? Char.isDigit Char.isDigit text with
        | some length => some (.token .number length)
        | none =>
            cursor.byte?.map fun current => .ofBytes text current cursor.next?

/-- The scan from a cursor on. A token without length would keep it in its place for ever. -/
def scan? (cursor : ByteCursor) (line : Nat) : Option (Except Diagnostic (List Token)) :=
  if _hend : cursor.atEnd then
    some (.ok [])
  else
    match cursor.move? with
    | none => none
    | some (.token kind length) =>
        if _hlength : 0 < length then
          let next := cursor.advance length
          (next.scan? line).map (·.map (⟨kind, ⟨cursor.position, next.position⟩, line⟩ :: ·))
        else
          none
    | some (.blank lines) =>
        if line + lines < UInt32.size then (cursor.advance 1).scan? (line + lines) else none
    | some (.stray character) =>
        some (.error ⟨.unrecognisedCharacter character, line,
          some ⟨cursor.position, cursor.position + character.utf8Size⟩⟩)
termination_by cursor.source.byteLength - cursor.position
decreasing_by
  all_goals
    simp only [atEnd, decide_eq_true_eq, Nat.not_le] at _hend
    simp only [advance]
    omega

end ByteCursor

section Bytes

variable {first : Char} {rest : Text} {byte : UInt8}

/-- A byte that begins a character is read as an ASCII character only if it is that character. -/
theorem ofUInt8_eq_iff {ascii : Char} (hascii : ascii.toNat < 128)
    (hbyte : (Text.bytes (first :: rest))[0]? = some byte) :
    Char.ofUInt8 byte = ascii ↔ first = ascii := by
  have hfirst : (Text.bytes (first :: rest))[0]? = some ascii.toUInt8 ↔ first = ascii :=
    Text.getElem?_bytes_zero_iff hascii
  have hvalue : (Char.ofUInt8 byte).toNat = byte.toNat := rfl
  rw [hbyte, Option.some.injEq] at hfirst
  rw [← hfirst, ← Char.toNat_inj, ← UInt8.toNat_inj, hvalue, Text.toNat_toUInt8_of_ascii hascii]

theorem lt_of_mem_spelling {kind : Kind} {text : Text} {character : Char}
    (h : kind.spelling? = some text) (hmem : character ∈ text) : character.toNat < 128 := by
  have hall : (kind.spelling?.getD []).all fun character => character.toNat < 128 := by
    cases kind
    all_goals rfl
  rw [h, Option.getD_some, List.all_eq_true] at hall
  exact of_decide_eq_true (hall character hmem)

theorem symbol?_ofUInt8 (hbyte : (Text.bytes (first :: rest))[0]? = some byte) :
    symbol? (Char.ofUInt8 byte) = symbol? first := by
  apply Option.ext
  intro kind
  simp only [symbol?_eq_some_iff]
  constructor
  · intro h
    have hascii := lt_of_mem_spelling h List.mem_cons_self
    rwa [(ofUInt8_eq_iff hascii hbyte).mp rfl]
  · intro h
    have hascii := lt_of_mem_spelling h List.mem_cons_self
    rwa [(ofUInt8_eq_iff hascii hbyte).mpr rfl]

theorem getElem?_bytes_one (hascii : first.toNat < 128) :
    (Text.bytes (first :: rest))[1]? = (Text.bytes rest)[0]? := by
  rw [Text.bytes_cons, Text.utf8EncodeChar_of_ascii hascii]
  rfl

theorem pair?_ofUInt8 (hbyte : (Text.bytes (first :: rest))[0]? = some byte) :
    ((Text.bytes (first :: rest))[1]?.bind fun second =>
      pair? (Char.ofUInt8 byte) (Char.ofUInt8 second)) = (longSymbol? first rest).map (·.1) := by
  apply Option.ext
  intro kind
  simp only [Option.bind_eq_some_iff, Option.map_eq_some_iff, pair?_eq_some_iff]
  constructor
  · rintro ⟨second, hsecond, h⟩
    have hascii := lt_of_mem_spelling h List.mem_cons_self
    have hfirst := (ofUInt8_eq_iff hascii hbyte).mp rfl
    rw [getElem?_bytes_one (hfirst ▸ hascii)] at hsecond
    cases rest with
    | nil => cases hsecond
    | cons next after =>
        have hnext := (ofUInt8_eq_iff (lt_of_mem_spelling h (by simp)) hsecond).mp rfl
        rw [← hfirst, ← hnext, ← pair?_eq_some_iff] at h
        exact ⟨_, Option.map_eq_some_iff.mpr ⟨kind, h, rfl⟩, rfl⟩
  · rintro ⟨long, hlong, rfl⟩
    cases rest with
    | nil => cases hlong
    | cons next after =>
        obtain ⟨kind, hpair, rfl⟩ := Option.map_eq_some_iff.mp hlong
        have h := pair?_eq_some_iff.mp hpair
        have hascii := lt_of_mem_spelling h List.mem_cons_self
        have hnext : next.toNat < 128 := lt_of_mem_spelling h (by simp)
        have hsecond := (@Text.getElem?_bytes_zero_iff next next after hnext).mpr rfl
        refine ⟨next.toUInt8, (getElem?_bytes_one hascii).trans hsecond, ?_⟩
        rwa [(ofUInt8_eq_iff hascii hbyte).mpr rfl, (ofUInt8_eq_iff hnext hsecond).mpr rfl]

theorem symbolAt?_eq (hbyte : (Text.bytes (first :: rest))[0]? = some byte) :
    symbolAt? byte (Text.bytes (first :: rest))[1]? =
      match longSymbol? first rest with
      | some (kind, _, _) => some (kind, 2)
      | none => (symbol? first).map (·, 1) := by
  rw [symbolAt?, pair?_ofUInt8 hbyte, symbol?_ofUInt8 hbyte]
  cases longSymbol? first rest with
  | none => rfl
  | some long => rfl

theorem byteLength_of_spelling {kind : Kind} {text : Text} (h : kind.spelling? = some text) :
    text.byteLength = text.length := by
  have hall : (kind.spelling?.getD []).byteLength = (kind.spelling?.getD []).length := by
    cases kind
    all_goals rfl
  rwa [h] at hall

theorem Move.ofBytes_eq (hbyte : (Text.bytes (first :: rest))[0]? = some byte)
    (hword : ¬isWordStart first) (hdigit : ¬first.isDigit) :
    Move.ofBytes (first :: rest) byte (Text.bytes (first :: rest))[1]? =
      .ofMunch first (munch first rest) := by
  have hascii : ∀ ascii : Char, ascii.toNat < 128 → (byte = ascii.toUInt8 ↔ first = ascii) := by
    intro ascii hascii
    rw [← @Text.getElem?_bytes_zero_iff first ascii rest hascii, hbyte, Option.some.injEq]
  rw [Move.ofBytes, symbolAt?_eq hbyte, munch, if_neg hword, if_neg hdigit]
  rcases hlong : longSymbol? first rest with _ | ⟨kind, second, tail⟩
  · rcases hsymbol : symbol? first with _ | kind
    · simp only [Option.map_none, hascii ' ' (by decide), hascii '\n' (by decide),
        List.head?_cons, Option.getD_some]
      split_ifs
      all_goals rfl
    · have hlength := byteLength_of_spelling (symbol?_eq_some_iff.mp hsymbol)
      simp only [Option.map_some, Move.ofMunch, hlength, List.length_singleton]
  · cases rest with
    | nil => cases hlong
    | cons next after =>
        obtain ⟨long, hpair, heq⟩ := Option.map_eq_some_iff.mp hlong
        obtain ⟨rfl, rfl, rfl⟩ : long = kind ∧ next = second ∧ after = tail := by simpa using heq
        have hlength := byteLength_of_spelling (pair?_eq_some_iff.mp hpair)
        simp only [Move.ofMunch, hlength]
        rfl

end Bytes

namespace ByteCursor

def between (before after : Text) : ByteCursor :=
  ⟨before ++ after, before.byteLength⟩

section Between

variable (before : Text)

@[simp]
theorem remainder?_between (after : Text) : (between before after).remainder? = some after := by
  rw [remainder?, Text.dropBytes?_eq_some_iff]
  exact ⟨before, rfl, rfl⟩

@[simp]
theorem byte?_between (after : Text) : (between before after).byte? = after.bytes[0]? :=
  Text.getElem?_bytes before after 0

@[simp]
theorem next?_between (after : Text) : (between before after).next? = after.bytes[1]? :=
  Text.getElem?_bytes before after 1

theorem atEnd_between (after : Text) : (between before after).atEnd ↔ after = [] := by
  cases after with
  | nil => simp [atEnd, between]
  | cons first rest =>
      have hpositive := first.utf8Size_pos
      simp [atEnd, between]
      omega

theorem not_atEnd_between (first : Char) (rest : Text) :
    ¬(between before (first :: rest)).atEnd :=
  mt (atEnd_between before _).mp (List.cons_ne_nil first rest)

theorem advance_between (passed after : Text) :
    (between before (passed ++ after)).advance passed.byteLength =
      between (before ++ passed) after := by
  simp [between, advance]

/-- Before a character, a cursor finds what stands there. -/
theorem move?_between (first : Char) (rest : Text) :
    (between before (first :: rest)).move? = some (.ofMunch first (munch first rest)) := by
  obtain ⟨byte, hbyte⟩ : ∃ byte, (Text.bytes (first :: rest))[0]? = some byte := by
    have hpositive := first.utf8Size_pos
    exact ⟨_, List.getElem?_eq_getElem (by simp; omega)⟩
  rw [move?, remainder?_between, Option.bind_some, byte?_between, next?_between, hbyte, runLength?,
    runLength?]
  by_cases hword : isWordStart first
  · have hcut : Text.takeBytes? (Text.byteLength (first :: rest.takeWhile isWordPart))
        (first :: rest) = some (first :: rest.takeWhile isWordPart) := by
      rw [Text.takeBytes?_eq_some_iff]
      exact ⟨List.cons_prefix_cons.mpr ⟨rfl, List.takeWhile_prefix _⟩, rfl⟩
    simp only [if_pos hword, hcut, Option.map_some, munch, Move.ofMunch]
  · by_cases hdigit : first.isDigit
    · simp only [if_neg hword, if_pos hdigit, munch, Move.ofMunch]
    · simp only [if_neg hword, if_neg hdigit, Option.map_some]
      exact congrArg some (Move.ofBytes_eq hbyte hword hdigit)

/-- As long as the lines can be counted, a scan from between two characters on finds what stands
there, and does not fault. -/
theorem scan?_between (text : Text) {line : Nat} (hlines : line + text.count '\n' < UInt32.size) :
    (between before text).scan? line = some (tokensFrom before.byteLength line text) := by
  induction text using Scan.induction generalizing before line with
  | nil => rw [scan?, dif_pos ((atEnd_between before []).mpr rfl), tokensFrom_nil]
  | token first rest kind lexeme tail hmunch ih =>
      have hlexeme : 0 < lexeme.byteLength := by
        obtain ⟨head, others, rfl⟩ := List.exists_cons_of_ne_nil (lexeme_ne_nil_of_munch hmunch)
        exact Nat.lt_of_lt_of_le head.utf8Size_pos (Nat.le_add_right _ _)
      have hnext : (between before (first :: rest)).advance lexeme.byteLength =
          between (before ++ lexeme) tail := by
        rw [← append_of_munch hmunch, advance_between]
      have htail : line + tail.count '\n' < UInt32.size := by
        rw [← append_of_munch hmunch, List.count_append] at hlines
        omega
      rw [scan?, dif_neg (not_atEnd_between before first rest), move?_between, hmunch,
        tokensFrom_of_token hmunch]
      simp only [Move.ofMunch, dif_pos hlexeme, hnext, ih (before ++ lexeme) htail]
      simp [between]
  | blank first rest lines hmunch ih =>
      obtain ⟨hsize, hcount⟩ : Text.byteLength [first] = 1 ∧
          (first :: rest).count '\n' = lines + rest.count '\n' := by
        rcases munch_eq_blank_iff.mp hmunch with ⟨rfl, rfl⟩ | ⟨rfl, rfl⟩
        · exact ⟨rfl, by simp⟩
        · exact ⟨rfl, by simp [Nat.add_comm]⟩
      have hnext : (between before (first :: rest)).advance 1 =
          between (before ++ [first]) rest := by
        rw [← hsize]
        exact advance_between before [first] rest
      have hline : line + lines < UInt32.size := by omega
      rw [scan?, dif_neg (not_atEnd_between before first rest), move?_between, hmunch,
        tokensFrom_of_blank hmunch]
      simp only [Move.ofMunch, if_pos hline, hnext]
      rw [ih (before ++ [first]) (by omega), Text.byteLength_append, hsize]
  | stray first rest hmunch =>
      rw [scan?, dif_neg (not_atEnd_between before first rest), move?_between, hmunch,
        tokensFrom_of_stray hmunch]
      rfl

end Between

end ByteCursor

end FrontEnd
