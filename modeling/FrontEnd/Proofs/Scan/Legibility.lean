import FrontEnd.Proofs.Scan.Laws
import Mathlib.Data.List.Basic

/-!
Which sources can be scanned, character by character. All but one of the characters that occur in
tokens are read wherever they stand, since each begins a token of its own if it belongs to none that
is longer; a `>` is read only as the end of an arrow. A scan that fails does so at the first
character that this leaves out.
-/

namespace FrontEnd

namespace Scan

/-- A character that is read wherever it stands. -/
def IsPlain (character : Char) : Prop :=
  character = ' ' ∨ character = '\n' ∨ character.isAlphanum ∨ character = '_' ∨
    character ∈ ['(', ')', '{', '}', '[', ']', ',', ';', '.', '*', '+', '-', '=', ':']

/-- A character that is read where it stands, given the one before it. -/
def IsPlaced (previous : Option Char) (character : Char) : Prop :=
  IsPlain character ∨ character = '>' ∧ previous = some '-'

/-- A text of which every character is read. -/
def Legible (text : Text) : Prop :=
  ∀ before character after, text = before ++ character :: after →
    IsPlaced before.getLast? character

section Characters

variable {character : Char}

theorem isPlain_of_isWordPart (h : isWordPart character) : IsPlain character := by
  rw [isWordPart, Bool.or_eq_true, beq_iff_eq] at h
  rcases h with halphanum | hunderscore
  · exact .inr (.inr (.inl halphanum))
  · exact .inr (.inr (.inr (.inl hunderscore)))

theorem isPlain_of_isWordStart (h : isWordStart character) : IsPlain character := by
  have halphanum : character.isAlphanum = (character.isAlpha || character.isDigit) := rfl
  apply isPlain_of_isWordPart
  rw [isWordStart, Bool.or_eq_true] at h
  rw [isWordPart, halphanum, Bool.or_eq_true, Bool.or_eq_true]
  exact h.imp_left .inl

theorem isPlain_of_isDigit (h : character.isDigit) : IsPlain character := by
  have halphanum : character.isAlphanum = (character.isAlpha || character.isDigit) := rfl
  refine .inr (.inr (.inl ?_))
  rw [halphanum, h, Bool.or_true]

theorem isPlain_of_symbol? {kind : Kind} (h : symbol? character = some kind) :
    IsPlain character := by
  refine .inr (.inr (.inr (.inr ?_)))
  rw [symbol?_eq_some_iff] at h
  cases kind
  all_goals simp [Kind.spelling?] at h
  all_goals simp [← h]

/-- The second character of a symbol is plain, but for the end of an arrow. -/
theorem isPlaced_of_pair? {first second : Char} {kind : Kind} (h : pair? first second = some kind) :
    IsPlain first ∧ IsPlaced (some first) second ∧ second ≠ '-' := by
  rw [pair?_eq_some_iff] at h
  cases kind
  all_goals simp [Kind.spelling?] at h
  all_goals simp [← h.1, ← h.2, IsPlain, IsPlaced]

theorem not_isPlain_of_stray {rest : Text} (h : munch character rest = .stray) :
    ¬ IsPlain character := by
  have halphanum : character.isAlphanum = (character.isAlpha || character.isDigit) := rfl
  have hblank : ∀ lines, munch character rest ≠ .blank lines := by simp [h]
  have hnone := not_or.mp (not_blank_of_munch hblank)
  simp only [munch] at h
  split at h
  · cases h
  rename_i hword
  split at h
  · cases h
  rename_i hdigit
  split at h
  · cases h
  · cases h
  rename_i hsymbol
  rw [isWordStart, Bool.or_eq_true, beq_iff_eq, not_or] at hword
  rintro (hspace | hnewline | hletter | hunderscore | hmem)
  · exact hnone.1 hspace
  · exact hnone.2 hnewline
  · rw [halphanum, Bool.or_eq_true] at hletter
    exact hletter.elim hword.1 hdigit
  · exact hword.2 hunderscore
  · revert hsymbol
    simp only [List.mem_cons, List.not_mem_nil, or_false] at hmem
    rcases hmem with
      rfl | rfl | rfl | rfl | rfl | rfl | rfl | rfl | rfl | rfl | rfl | rfl | rfl | rfl
    all_goals simp [symbol?]

theorem IsPlaced.isPlain_of_none (h : IsPlaced none character) : IsPlain character := by
  rcases h with hplain | ⟨-, hnone⟩
  · exact hplain
  · cases hnone

end Characters

namespace Legible

variable {first second text : Text}

theorem nil : Legible [] := by
  intro before character after h
  simp at h

theorem of_forall_isPlain (h : ∀ character ∈ text, IsPlain character) : Legible text := by
  rintro before character after rfl
  exact .inl (h character (by simp))

theorem append (hfirst : Legible first) (hsecond : Legible second) :
    Legible (first ++ second) := by
  intro before character after h
  rcases List.append_eq_append_iff.mp h with ⟨between, rfl, hsplit⟩ | ⟨between, hsplit, htail⟩
  · have hplaced := hsecond between character after hsplit
    cases between with
    | nil => exact .inl hplaced.isPlain_of_none
    | cons head rest => rwa [List.getLast?_append_cons]
  · cases between with
    | nil =>
        have hplaced := hsecond [] character after (by simpa using htail.symm)
        exact .inl hplaced.isPlain_of_none
    | cons head rest =>
        obtain ⟨rfl, -⟩ := List.cons.inj htail
        exact hfirst before character rest hsplit

theorem of_spells {kind : Kind} {lexeme : Text} (h : kind.Spells lexeme) : Legible lexeme := by
  obtain ⟨hword, -⟩ | ⟨hnumeral, -⟩ | ⟨a, b, rfl, hpair⟩ | ⟨a, rfl, hsymbol⟩ := lexeme_cases h
  · cases lexeme with
    | nil => exact nil
    | cons head rest =>
        refine of_forall_isPlain (List.forall_mem_cons.mpr ⟨?_, fun character hmem => ?_⟩)
        · exact isPlain_of_isWordStart (isWordStart_iff.mpr hword.1)
        · exact isPlain_of_isWordPart (isWordPart_iff.mpr (hword.2 character hmem))
  · exact of_forall_isPlain fun character hmem => isPlain_of_isDigit (hnumeral.2 character hmem)
  · obtain ⟨hplain, hplaced, -⟩ := isPlaced_of_pair? hpair
    intro before character after h
    rcases before with _ | ⟨head, _ | ⟨next, rest⟩⟩
    · obtain ⟨rfl, -⟩ := List.cons.inj h
      exact .inl hplain
    · obtain ⟨rfl, hrest⟩ := List.cons.inj h
      obtain ⟨rfl, -⟩ := List.cons.inj hrest
      exact hplaced
    · simp at h
  · exact of_forall_isPlain (List.forall_mem_singleton.mpr (isPlain_of_symbol? hsymbol))

theorem of_blank {character : Char} (h : character = ' ' ∨ character = '\n') :
    Legible [character] :=
  of_forall_isPlain (List.forall_mem_singleton.mpr (h.imp_right .inl))

end Legible

/-- A lexeme that ends in a hyphen is a dash. -/
theorem eq_dash_of_getLast? {kind : Kind} {lexeme : Text} (h : kind.Spells lexeme)
    (hlast : lexeme.getLast? = some '-') : kind = .dash := by
  have hmem : '-' ∈ lexeme := List.mem_of_getLast? hlast
  obtain ⟨hword, -⟩ | ⟨hnumeral, -⟩ | ⟨a, b, rfl, hpair⟩ | ⟨a, rfl, hsymbol⟩ := lexeme_cases h
  · cases lexeme with
    | nil => cases hmem
    | cons head rest =>
        rcases List.mem_cons.mp hmem with rfl | hrest
        · exact absurd hword.1 (by decide)
        · exact absurd (hword.2 _ hrest) (by decide)
  · exact absurd (hnumeral.2 _ hmem) (by decide)
  · obtain rfl : b = '-' := by simpa using hlast
    exact absurd rfl (isPlaced_of_pair? hpair).2.2
  · obtain rfl : a = '-' := by simpa using hlast
    simpa [symbol?] using hsymbol.symm

/-- The first character of a text that is not read, and the text around it. -/
structure FirstIllegible (text before : Text) (character : Char) (after : Text) : Prop where
  split : text = before ++ character :: after
  legible : Legible before
  illegible : ¬ IsPlaced before.getLast? character

theorem FirstIllegible.not_legible {text before after : Text} {character : Char}
    (h : FirstIllegible text before character after) : ¬ Legible text :=
  fun hlegible => h.illegible (hlegible before character after h.split)

/-- Where one of two splits goes further than the other, what is not read there is read here. -/
theorem FirstIllegible.eq_of_append {text before after between otherAfter : Text}
    {character other : Char} (h : FirstIllegible text before character after)
    (hother : FirstIllegible text (before ++ between) other otherAfter)
    (hback : character :: after = between ++ other :: otherAfter) :
    between = [] ∧ character = other := by
  cases between with
  | nil => exact ⟨rfl, (List.cons.inj hback).1⟩
  | cons head rest =>
      obtain ⟨rfl, -⟩ := List.cons.inj hback
      exact absurd (hother.legible before character rest rfl) h.illegible

theorem FirstIllegible.unique {text before after otherBefore otherAfter : Text}
    {character other : Char} (h : FirstIllegible text before character after)
    (hother : FirstIllegible text otherBefore other otherAfter) :
    before = otherBefore ∧ character = other := by
  have hsplit := h.split.symm.trans hother.split
  rcases List.append_eq_append_iff.mp hsplit with ⟨between, rfl, hback⟩ | ⟨between, rfl, hback⟩
  · obtain ⟨rfl, rfl⟩ := h.eq_of_append hother hback
    exact ⟨(List.append_nil before).symm, rfl⟩
  · obtain ⟨rfl, rfl⟩ := hother.eq_of_append h hback
    exact ⟨List.append_nil otherBefore, rfl⟩

end Scan

open Scan

/-- The refusal of a character that stands after some text. -/
def Diagnostic.unrecognised (offset line : Nat) (before : Text) (character : Char) : Diagnostic :=
  ⟨.unrecognisedCharacter character, line + before.count '\n',
    some ⟨offset + before.byteLength, offset + before.byteLength + character.utf8Size⟩⟩

theorem legible_of_tokensFrom {offset line : Nat} {text : Text} {tokens : List Token}
    (h : tokensFrom offset line text = .ok tokens) : Legible text := by
  induction text using Scan.induction generalizing offset line tokens with
  | nil => exact .nil
  | token first rest kind lexeme tail hmunch ih =>
      obtain ⟨happend, hspells, -⟩ := munch_eq_token_iff.mp hmunch
      rw [tokensFrom_of_token hmunch, Except.map_eq_ok_iff] at h
      obtain ⟨others, hothers, -⟩ := h
      rw [← happend]
      exact (Legible.of_spells hspells).append (ih hothers)
  | blank first rest lines hmunch ih =>
      have hfirst := (munch_eq_blank_iff.mp hmunch).imp And.left And.left
      rw [tokensFrom_of_blank hmunch] at h
      exact (Legible.of_blank hfirst).append (ih h)
  | stray first rest hmunch =>
      rw [tokensFrom_of_stray hmunch] at h
      cases h

theorem Scan.FirstIllegible.append {first second before after : Text} {character : Char}
    (hfirst : Legible first) (h : FirstIllegible second before character after)
    (hends : before = [] → first.getLast? = some '-' → character ≠ '>') :
    FirstIllegible (first ++ second) (first ++ before) character after := by
  refine ⟨by rw [h.split, List.append_assoc], hfirst.append h.legible, ?_⟩
  cases before with
  | nil =>
      rw [List.append_nil]
      rintro (hplain | ⟨hangle, hlast⟩)
      · exact h.illegible (.inl hplain)
      · exact hends rfl hlast hangle
  | cons head rest =>
      rw [List.getLast?_append_cons]
      exact h.illegible

theorem Diagnostic.unrecognised_append (offset line : Nat) (first before : Text)
    (character : Char) :
    unrecognised (offset + first.byteLength) (line + first.count '\n') before character =
      unrecognised offset line (first ++ before) character := by
  simp [unrecognised, Nat.add_assoc]

theorem exists_firstIllegible_of_tokensFrom {offset line : Nat} {text : Text}
    {problem : Diagnostic} (h : tokensFrom offset line text = .error problem) :
    ∃ before character after, FirstIllegible text before character after ∧
      problem = .unrecognised offset line before character := by
  induction text using Scan.induction generalizing offset line with
  | nil =>
      rw [tokensFrom_nil] at h
      cases h
  | token first rest kind lexeme tail hmunch ih =>
      obtain ⟨happend, hspells, hstop⟩ := munch_eq_token_iff.mp hmunch
      rw [tokensFrom_of_token hmunch, Except.map_eq_error_iff] at h
      obtain ⟨before, character, after, hfirst, hproblem⟩ := ih h
      refine ⟨lexeme ++ before, character, after, ?_, ?_⟩
      · rw [← happend]
        refine hfirst.append (.of_spells hspells) fun hbefore hlast hangle => ?_
        subst hbefore hangle
        refine hstop '>' after hfirst.split ?_
        rw [eq_dash_of_getLast? hspells hlast]
        exact .inl rfl
      · rw [hproblem, ← Diagnostic.unrecognised_append, count_newline_of_spells hspells,
          Nat.add_zero]
  | blank first rest lines hmunch ih =>
      have hblank := munch_eq_blank_iff.mp hmunch
      rw [tokensFrom_of_blank hmunch] at h
      obtain ⟨before, character, after, hfirst, hproblem⟩ := ih h
      refine ⟨[first] ++ before, character, after, ?_, ?_⟩
      · refine hfirst.append (.of_blank (hblank.imp And.left And.left)) fun _ hlast => ?_
        rcases hblank with ⟨rfl, -⟩ | ⟨rfl, -⟩ <;> simp at hlast
      · rw [hproblem, ← Diagnostic.unrecognised_append]
        rcases hblank with ⟨rfl, rfl⟩ | ⟨rfl, rfl⟩ <;> rfl
  | stray first rest hmunch =>
      rw [tokensFrom_of_stray hmunch] at h
      cases h
      exact ⟨[], first, rest,
        ⟨rfl, .nil, fun hplaced => not_isPlain_of_stray hmunch hplaced.isPlain_of_none⟩, rfl⟩

theorem tokensFrom_append_of_error {offset line : Nat} {text : Text} {problem : Diagnostic}
    (h : tokensFrom offset line text = .error problem) (more : Text) :
    tokensFrom offset line (text ++ more) = .error problem := by
  obtain ⟨before, character, after, hfirst, rfl⟩ := exists_firstIllegible_of_tokensFrom h
  have hwhole : FirstIllegible (text ++ more) before character (after ++ more) :=
    ⟨by rw [hfirst.split, List.append_assoc, List.cons_append], hfirst.legible, hfirst.illegible⟩
  cases hscan : tokensFrom offset line (text ++ more) with
  | ok tokens => exact absurd (legible_of_tokensFrom hscan) hwhole.not_legible
  | error found =>
      obtain ⟨_, _, _, hother, rfl⟩ := exists_firstIllegible_of_tokensFrom hscan
      obtain ⟨rfl, rfl⟩ := hwhole.unique hother
      rfl

/-- A source is scanned exactly if each of its characters is read, and the diagnostic of a scan that
fails names the first character that is not, with its line and its bytes. -/
theorem tokenize_error_at_first_illegible (source : Text) :
    ((∃ tokens, tokenize source = .ok tokens) ↔ Legible source) ∧
    ∀ problem, tokenize source = .error problem ↔
      ∃ before character after, FirstIllegible source before character after ∧
        problem = ⟨.unrecognisedCharacter character, 1 + before.count '\n',
          some ⟨before.byteLength, before.byteLength + character.utf8Size⟩⟩ := by
  cases hscan : tokenize source with
  | ok tokens =>
      have hlegible : Legible source := legible_of_tokensFrom hscan
      refine ⟨⟨fun _ => hlegible, fun _ => ⟨tokens, rfl⟩⟩, fun problem => ?_⟩
      simp only [reduceCtorEq, false_iff]
      rintro ⟨before, character, after, hfirst, -⟩
      exact hfirst.not_legible hlegible
  | error found =>
      obtain ⟨before, character, after, hfirst, rfl⟩ := exists_firstIllegible_of_tokensFrom hscan
      simp only [reduceCtorEq, exists_false, hfirst.not_legible, Except.error.injEq, true_and]
      intro problem
      constructor
      · rintro rfl
        exact ⟨before, character, after, hfirst, by simp [Diagnostic.unrecognised]⟩
      · rintro ⟨otherBefore, other, otherAfter, hother, rfl⟩
        obtain ⟨rfl, rfl⟩ := hfirst.unique hother
        simp [Diagnostic.unrecognised]

end FrontEnd
