import FrontEnd.Proofs.Scan.Laws
import FrontEnd.Proofs.Text.Bytes
import Mathlib.Data.List.Pairwise

namespace FrontEnd

open Scan

/-- What a decomposition asks of each token by itself. -/
structure Token.Fits (source : Text) (token : Token) : Prop where
  nonempty : token.span.start < token.span.stop
  inside : token.span.stop ≤ source.byteLength
  spelled : ∃ lexeme, token.lexeme? source = some lexeme ∧ token.kind.Spells lexeme
  /-- The character after the lexeme could not have been read with it. -/
  maximal : ∀ next after, source.dropBytes? token.span.stop = some (next :: after) →
    ¬ token.kind.Absorbs next
  line : token.line = 1 + (source.bytes.take token.span.start).count '\n'.toUInt8

/-- Tokens that account for all of a source. -/
structure Decomposition (source : Text) (tokens : List Token) : Prop where
  fits : ∀ token ∈ tokens, token.Fits source
  ordered : tokens.Pairwise fun first second => first.span.stop ≤ second.span.start
  /-- Every byte outside the spans is a space or a newline. -/
  blank : ∀ (position : Nat) byte, source.bytes[position]? = some byte →
    (∀ token ∈ tokens, position < token.span.start ∨ token.span.stop ≤ position) →
      byte = ' '.toUInt8 ∨ byte = '\n'.toUInt8

/-- Tokens that account for a source from some byte on. -/
structure DecompositionFrom (source : Text) (offset : Nat) (tokens : List Token) : Prop where
  fits : ∀ token ∈ tokens, token.Fits source
  begins : ∀ token ∈ tokens, offset ≤ token.span.start
  ordered : tokens.Pairwise fun first second => first.span.stop ≤ second.span.start
  blank : ∀ (position : Nat) byte, offset ≤ position → source.bytes[position]? = some byte →
    (∀ token ∈ tokens, position < token.span.start ∨ token.span.stop ≤ position) →
      byte = ' '.toUInt8 ∨ byte = '\n'.toUInt8

theorem decomposition_iff_from_zero {source : Text} {tokens : List Token} :
    Decomposition source tokens ↔ DecompositionFrom source 0 tokens := by
  constructor
  · intro h
    exact ⟨h.fits, fun _ _ => Nat.zero_le _, h.ordered,
      fun position byte _ => h.blank position byte⟩
  · intro h
    exact ⟨h.fits, h.ordered, fun position byte => h.blank position byte (Nat.zero_le _)⟩

theorem Text.append_inj_of_byteLength {first second firstTail secondTail : Text}
    (happend : first ++ firstTail = second ++ secondTail)
    (hlength : first.byteLength = second.byteLength) :
    first = second ∧ firstTail = secondTail := by
  have hfirst : (first ++ firstTail).dropBytes? second.byteLength = some firstTail :=
    Text.dropBytes?_eq_some_iff.mpr ⟨first, rfl, hlength⟩
  have hsecond : (first ++ firstTail).dropBytes? second.byteLength = some secondTail :=
    Text.dropBytes?_eq_some_iff.mpr ⟨second, happend, rfl⟩
  obtain rfl := Option.some.inj (hfirst.symm.trans hsecond)
  exact ⟨List.append_cancel_right happend, rfl⟩

theorem Token.Fits.exists_lexeme {before text : Text} {token : Token}
    (hfits : token.Fits (before ++ text)) (hstart : token.span.start = before.byteLength) :
    ∃ lexeme tail, text = lexeme ++ tail ∧ token.kind.Spells lexeme ∧
      (∀ next after, tail = next :: after → ¬ token.kind.Absorbs next) ∧
      token = ⟨token.kind, ⟨before.byteLength, before.byteLength + lexeme.byteLength⟩,
        1 + before.count '\n'⟩ := by
  obtain ⟨lexeme, hlexeme, hspells⟩ := hfits.spelled
  obtain ⟨front, tail, hsource, hfront, hstop⟩ := Span.slice?_eq_some_iff.mp hlexeme
  rw [List.append_assoc] at hsource
  obtain ⟨rfl, rfl⟩ := Text.append_inj_of_byteLength hsource.symm (hfront.trans hstart)
  refine ⟨lexeme, tail, rfl, hspells, ?_, ?_⟩
  · rintro next after rfl
    apply hfits.maximal next after
    rw [Text.dropBytes?_eq_some_iff]
    exact ⟨front ++ lexeme, by simp, by simp; omega⟩
  · have hline := hfits.line
    rw [hstart, Text.take_bytes, Text.count_bytes (by decide)] at hline
    obtain ⟨kind, ⟨start, stop⟩, line⟩ := token
    simp only at hstart hstop hline
    simp [hstart, hline, ← hstop]

theorem Token.Fits.of_lexeme {before lexeme tail : Text} {kind : Kind}
    (hspells : kind.Spells lexeme)
    (htail : ∀ next after, tail = next :: after → ¬ kind.Absorbs next) :
    Token.Fits (before ++ (lexeme ++ tail))
      ⟨kind, ⟨before.byteLength, before.byteLength + lexeme.byteLength⟩,
        1 + before.count '\n'⟩ where
  nonempty := by
    cases lexeme with
    | nil => exact absurd rfl (lexeme_ne_nil_of_spells hspells)
    | cons first rest =>
        have := first.utf8Size_pos
        simp only [Text.byteLength_cons]
        omega
  inside := by simp
  spelled := ⟨lexeme, Span.slice?_eq_some_iff.mpr ⟨before, tail, by simp, rfl, rfl⟩, hspells⟩
  maximal := by
    intro next after hdrop
    obtain ⟨front, hsource, hlength⟩ := Text.dropBytes?_eq_some_iff.mp hdrop
    rw [← List.append_assoc] at hsource
    have hlength' : (before ++ lexeme).byteLength = front.byteLength := by simp [hlength]
    exact htail next after (Text.append_inj_of_byteLength hsource hlength').2
  line := by rw [Text.take_bytes, Text.count_bytes (by decide)]

namespace DecompositionFrom

variable {before rest : Text} {first : Char} {tokens : List Token}

theorem iff_nil : DecompositionFrom before before.byteLength tokens ↔ tokens = [] := by
  constructor
  · intro h
    apply List.eq_nil_iff_forall_not_mem.mpr
    intro token htoken
    have hbegins := h.begins token htoken
    have hnonempty := (h.fits token htoken).nonempty
    have hinside := (h.fits token htoken).inside
    omega
  · rintro rfl
    refine ⟨by simp, by simp, .nil, ?_⟩
    intro position byte hposition hbyte
    rw [List.getElem?_eq_none (by simpa using hposition)] at hbyte
    cases hbyte

theorem blank_byte_iff :
    (∃ byte, (before ++ first :: rest).bytes[before.byteLength]? = some byte ∧
      (byte = ' '.toUInt8 ∨ byte = '\n'.toUInt8)) ↔ first = ' ' ∨ first = '\n' := by
  have hbyte := Text.getElem?_bytes before (first :: rest) 0
  rw [Nat.add_zero] at hbyte
  rw [hbyte]
  constructor
  · rintro ⟨byte, hfirst, rfl | rfl⟩
    · exact .inl ((Text.getElem?_bytes_zero_iff (by decide)).mp hfirst)
    · exact .inr ((Text.getElem?_bytes_zero_iff (by decide)).mp hfirst)
  · rintro (hspace | hnewline)
    · exact ⟨_, (Text.getElem?_bytes_zero_iff (by decide)).mpr hspace, .inl rfl⟩
    · exact ⟨_, (Text.getElem?_bytes_zero_iff (by decide)).mpr hnewline, .inr rfl⟩

theorem iff_blank (hfirst : first = ' ' ∨ first = '\n') :
    DecompositionFrom (before ++ first :: rest) before.byteLength tokens ↔
      DecompositionFrom (before ++ first :: rest) (before.byteLength + 1) tokens := by
  constructor
  · intro h
    refine ⟨h.fits, ?_, h.ordered, fun position byte hposition => h.blank position byte (by omega)⟩
    intro token htoken
    refine Nat.lt_of_le_of_ne (h.begins token htoken) fun hstart => ?_
    obtain ⟨lexeme, tail, htext, hspells, -⟩ := (h.fits token htoken).exists_lexeme hstart.symm
    cases lexeme with
    | nil => exact lexeme_ne_nil_of_spells hspells rfl
    | cons head others =>
        obtain ⟨rfl, -⟩ := List.cons.inj htext
        have hhead := not_blank_of_mem_lexeme hspells List.mem_cons_self
        exact hfirst.elim hhead.1 hhead.2
  · intro h
    refine ⟨h.fits, fun token htoken => ?_, h.ordered, ?_⟩
    · have := h.begins token htoken
      omega
    · intro position byte hposition hbyte houtside
      rcases Nat.eq_or_lt_of_le hposition with rfl | hposition
      · obtain ⟨blank, hblank, hcases⟩ := blank_byte_iff.mpr hfirst
        obtain rfl := Option.some.inj (hblank.symm.trans hbyte)
        exact hcases
      · exact h.blank position byte hposition hbyte houtside

theorem exists_token (hfirst : ¬ (first = ' ' ∨ first = '\n'))
    (h : DecompositionFrom (before ++ first :: rest) before.byteLength tokens) :
    ∃ kind lexeme tail others, munch first rest = .token kind lexeme tail ∧
      tokens = ⟨kind, ⟨before.byteLength, before.byteLength + lexeme.byteLength⟩,
        1 + before.count '\n'⟩ :: others := by
  obtain ⟨byte, hbyte⟩ :
      ∃ byte, (before ++ first :: rest).bytes[before.byteLength]? = some byte := by
    have := first.utf8Size_pos
    exact ⟨_, List.getElem?_eq_getElem (by simp; omega)⟩
  -- If no token began here, the byte would be outside all spans, and so a blank.
  have hcovered : ∃ token ∈ tokens, token.span.start = before.byteLength := by
    by_contra hnone
    push Not at hnone
    apply hfirst
    refine blank_byte_iff.mp ⟨byte, hbyte, h.blank _ byte (Nat.le_refl _) hbyte ?_⟩
    intro token htoken
    have hbegins := h.begins token htoken
    have hstart := hnone token htoken
    omega
  obtain ⟨token, htoken, hstart⟩ := hcovered
  obtain ⟨lexeme, tail, htext, hspells, htail, hequal⟩ :=
    (h.fits token htoken).exists_lexeme hstart
  refine ⟨token.kind, lexeme, tail, ?_⟩
  rw [← hequal]
  cases tokens with
  | nil => cases htoken
  | cons head others =>
      refine ⟨others, munch_eq_token_iff.mpr ⟨htext.symm, hspells, htail⟩, ?_⟩
      obtain rfl | hothers := List.mem_cons.mp htoken
      · rfl
      · -- A token before this one would end where this one begins, and so be empty.
        have hordered := List.rel_of_pairwise_cons h.ordered hothers
        have hbegins := h.begins head List.mem_cons_self
        have hnonempty := (h.fits head List.mem_cons_self).nonempty
        omega

theorem iff_cons {kind : Kind} {lexeme tail : Text} (hspells : kind.Spells lexeme)
    (htail : ∀ next after, tail = next :: after → ¬ kind.Absorbs next) :
    DecompositionFrom (before ++ (lexeme ++ tail)) before.byteLength
        (⟨kind, ⟨before.byteLength, before.byteLength + lexeme.byteLength⟩,
          1 + before.count '\n'⟩ :: tokens) ↔
      DecompositionFrom (before ++ (lexeme ++ tail)) (before.byteLength + lexeme.byteLength)
        tokens := by
  constructor
  · intro h
    refine ⟨fun token htoken => h.fits token (.tail _ htoken), ?_, h.ordered.tail, ?_⟩
    · intro token htoken
      exact List.rel_of_pairwise_cons h.ordered htoken
    · intro position byte hposition hbyte houtside
      refine h.blank position byte (by omega) hbyte ?_
      exact List.forall_mem_cons.mpr ⟨.inr hposition, houtside⟩
  · intro h
    refine ⟨List.forall_mem_cons.mpr ⟨.of_lexeme hspells htail, h.fits⟩, ?_, ?_, ?_⟩
    · refine List.forall_mem_cons.mpr ⟨Nat.le_refl _, fun token htoken => ?_⟩
      have := h.begins token htoken
      omega
    · exact h.ordered.cons h.begins
    · intro position byte hposition hbyte houtside
      obtain ⟨hhead, hothers⟩ := List.forall_mem_cons.mp houtside
      refine h.blank position byte ?_ hbyte hothers
      simp only at hhead
      omega

end DecompositionFrom

theorem tokensFrom_eq_ok_iff (before text : Text) (tokens : List Token) :
    tokensFrom before.byteLength (1 + before.count '\n') text = .ok tokens ↔
      DecompositionFrom (before ++ text) before.byteLength tokens := by
  induction text using Scan.induction generalizing before tokens with
  | nil =>
      rw [tokensFrom_nil, List.append_nil, DecompositionFrom.iff_nil]
      simp [eq_comm]
  | token first rest kind lexeme tail hmunch ih =>
      obtain ⟨happend, hspells, htail⟩ := munch_eq_token_iff.mp hmunch
      have hcount := count_newline_of_spells hspells
      have htailIff := fun others => ih (before ++ lexeme) others
      simp only [Text.byteLength_append, List.count_append, hcount, Nat.add_zero,
        List.append_assoc] at htailIff
      have hnotBlank : ∀ lines, munch first rest ≠ .blank lines := by simp [hmunch]
      rw [tokensFrom_of_token hmunch, Except.map_eq_ok_iff]
      constructor
      · rintro ⟨others, hothers, rfl⟩
        rw [← happend, DecompositionFrom.iff_cons hspells htail]
        exact (htailIff others).mp hothers
      · intro h
        obtain ⟨kind', lexeme', tail', others, hmunch', rfl⟩ :=
          DecompositionFrom.exists_token (not_blank_of_munch hnotBlank) h
        obtain ⟨rfl, rfl, rfl⟩ := Munch.token.inj (hmunch.symm.trans hmunch')
        rw [← happend, DecompositionFrom.iff_cons hspells htail] at h
        exact ⟨others, (htailIff others).mpr h, rfl⟩
  | blank first rest lines hmunch ih =>
      have hfirst := munch_eq_blank_iff.mp hmunch
      have hrest := ih (before ++ [first]) tokens
      rw [tokensFrom_of_blank hmunch, DecompositionFrom.iff_blank (by tauto)]
      rcases hfirst with ⟨rfl, rfl⟩ | ⟨rfl, rfl⟩
      · simpa [show ' '.utf8Size = 1 from rfl] using hrest
      · simpa [show '\n'.utf8Size = 1 from rfl, Nat.add_assoc] using hrest
  | stray first rest hmunch =>
      rw [tokensFrom_of_stray hmunch]
      simp only [reduceCtorEq, false_iff]
      intro h
      have hnotBlank : ∀ lines, munch first rest ≠ .blank lines := by simp [hmunch]
      obtain ⟨kind, lexeme, tail, -, htoken, -⟩ :=
        DecompositionFrom.exists_token (not_blank_of_munch hnotBlank) h
      rw [hmunch] at htoken
      cases htoken

theorem decomposition_of_tokenize {source : Text} {tokens : List Token}
    (h : tokenize source = .ok tokens) : Decomposition source tokens := by
  rw [decomposition_iff_from_zero]
  exact (tokensFrom_eq_ok_iff [] source tokens).mp h

/-- Tokenizing a source succeeds exactly with its decomposition by maximal munch, of which there is
at most one. -/
theorem tokenize_eq_ok_iff_decomposition (source : Text) :
    (∀ tokens, tokenize source = .ok tokens ↔ Decomposition source tokens) ∧
      ∀ tokens others, Decomposition source tokens → Decomposition source others →
        tokens = others := by
  have hscan : ∀ tokens, tokenize source = .ok tokens ↔ Decomposition source tokens := by
    intro tokens
    rw [decomposition_iff_from_zero]
    exact tokensFrom_eq_ok_iff [] source tokens
  refine ⟨hscan, fun tokens others htokens hothers => ?_⟩
  rw [← hscan] at htokens hothers
  exact Except.ok.inj (htokens.symm.trans hothers)

end FrontEnd
