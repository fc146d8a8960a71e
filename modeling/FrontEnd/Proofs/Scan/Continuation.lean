import FrontEnd.Proofs.Scan.Laws
import Mathlib.Data.List.Forall2

namespace FrontEnd

open Scan

namespace Kind

/-- A text that is in the class of a kind. -/
def sample : Kind → Text
  | number => ['0']
  | identifier => ['x']
  | kind => kind.spelling?.getD []

theorem spells_sample (kind : Kind) : kind.Spells kind.sample := by
  cases kind with
  | number => exact ⟨List.cons_ne_nil _ _, List.forall_mem_singleton.mpr rfl⟩
  | identifier => exact ⟨⟨by decide, by simp⟩, by decide⟩
  | _ => rfl

end Kind

/-- Tokens that are spelled in one text as they are in another. -/
def SpelledAlike (source other : Text) (tokens : List Token) : Prop :=
  ∀ token ∈ tokens, token.lexeme? other = token.lexeme? source

/-- Tokens that are spelled as their kinds allow. -/
def Spelled (source : Text) (tokens : List Token) : Prop :=
  ∀ token ∈ tokens, ∃ lexeme, token.lexeme? source = some lexeme ∧ token.kind.Spells lexeme

/-- Tokens of the given kinds, each spelled as the sample of its kind. -/
def Samples (source : Text) : List Token → List Kind → Prop :=
  List.Forall₂ fun token kind => token.kind = kind ∧ token.lexeme? source = some kind.sample

section Spelled

variable {source other : Text} {first second tokens : List Token}

theorem spelled_cons {token : Token} :
    Spelled source (token :: tokens) ↔
      (∃ lexeme, token.lexeme? source = some lexeme ∧ token.kind.Spells lexeme) ∧
        Spelled source tokens :=
  List.forall_mem_cons

theorem spelled_append {first second : List Token} :
    Spelled source (first ++ second) ↔ Spelled source first ∧ Spelled source second :=
  List.forall_mem_append

theorem SpelledAlike.refl (source : Text) (tokens : List Token) :
    SpelledAlike source source tokens :=
  fun _ _ => rfl

theorem SpelledAlike.left (h : SpelledAlike source other (first ++ second)) :
    SpelledAlike source other first :=
  fun token htoken => h token (List.mem_append_left second htoken)

theorem SpelledAlike.right (h : SpelledAlike source other (first ++ second)) :
    SpelledAlike source other second :=
  fun token htoken => h token (List.mem_append_right first htoken)

theorem SpelledAlike.tail {token : Token} (h : SpelledAlike source other (token :: tokens)) :
    SpelledAlike source other tokens :=
  fun token htoken => h token (List.mem_cons_of_mem _ htoken)

theorem Samples.cons {token : Token} {kind : Kind} {kinds : List Kind} (hkind : token.kind = kind)
    (hlexeme : token.lexeme? source = some kind.sample) (h : Samples source tokens kinds) :
    Samples source (token :: tokens) (kind :: kinds) :=
  List.Forall₂.cons ⟨hkind, hlexeme⟩ h

theorem Samples.eq_nil (h : Samples source tokens []) : tokens = [] := by
  cases h
  rfl

theorem Samples.exists_cons {kind : Kind} {kinds : List Kind}
    (h : Samples source tokens (kind :: kinds)) :
    ∃ token rest, tokens = token :: rest ∧ token.kind = kind ∧
      token.lexeme? source = some kind.sample ∧ Samples source rest kinds := by
  cases h with
  | cons htoken hrest => exact ⟨_, _, rfl, htoken.1, htoken.2, hrest⟩

theorem Samples.exists_append {kinds more : List Kind}
    (h : Samples source tokens (kinds ++ more)) :
    ∃ first second, tokens = first ++ second ∧ Samples source first kinds ∧
      Samples source second more :=
  ⟨tokens.take kinds.length, tokens.drop kinds.length, (List.take_append_drop _ _).symm,
    List.forall₂_take_append _ _ _ h, List.forall₂_drop_append _ _ _ h⟩

end Spelled

section

variable {offset line : Nat} {kind : Kind} {lexeme text : Text}

theorem tokensFrom_lexeme_append (hspells : kind.Spells lexeme)
    (hstop : ∀ next after, text = next :: after → ¬kind.Absorbs next) :
    tokensFrom offset line (lexeme ++ text) =
      (tokensFrom (offset + lexeme.byteLength) line text).map
        (⟨kind, ⟨offset, offset + lexeme.byteLength⟩, line⟩ :: ·) := by
  obtain ⟨first, rest, hlexeme⟩ := List.exists_cons_of_ne_nil (lexeme_ne_nil_of_spells hspells)
  have hmunch : munch first (rest ++ text) = .token kind lexeme text := by
    rw [munch_eq_token_iff, hlexeme]
    exact ⟨rfl, hlexeme ▸ hspells, hstop⟩
  rw [← tokensFrom_of_token hmunch, hlexeme, List.cons_append]

theorem tokensFrom_lexeme_space (hspells : kind.Spells lexeme) (front more : Text) :
    tokensFrom front.byteLength line (lexeme ++ ' ' :: more) =
      (tokensFrom (front ++ lexeme ++ [' ']).byteLength line more).map
        (⟨kind, ⟨front.byteLength, front.byteLength + lexeme.byteLength⟩, line⟩ :: ·) := by
  have hstop : ∀ next after, ' ' :: more = next :: after → ¬kind.Absorbs next := by
    rintro _ _ ⟨⟩
    exact not_absorbs_blank kind (.inl rfl)
  have hspace : munch ' ' more = .blank 0 := munch_eq_blank_iff.mpr (.inl ⟨rfl, rfl⟩)
  have hoffset : (front ++ lexeme ++ [' ']).byteLength =
      front.byteLength + lexeme.byteLength + 1 := by
    simp [show ' '.utf8Size = 1 from rfl, Nat.add_assoc]
  rw [tokensFrom_lexeme_append hspells hstop, tokensFrom_of_blank hspace, hoffset]
  rfl

theorem tokensFrom_append_blank {blank : Char} {lines : Nat}
    (hblank : blank = ' ' ∧ lines = 0 ∨ blank = '\n' ∧ lines = 1) {tokens : List Token}
    (h : tokensFrom offset line text = .ok tokens) (more : Text) :
    tokensFrom offset line (text ++ blank :: more) =
      (tokensFrom (offset + text.byteLength + 1) (line + text.count '\n' + lines) more).map
        (tokens ++ ·) := by
  induction text using Scan.induction generalizing offset line tokens with
  | nil =>
      rw [tokensFrom_nil] at h
      cases h
      simp only [List.nil_append, tokensFrom_of_blank (munch_eq_blank_iff.mpr hblank),
        Text.byteLength_nil, List.count_nil, Nat.add_zero]
      exact (congrFun Except.map_id _).symm
  | token first rest kind lexeme tail hmunch ih =>
      obtain ⟨happend, hspells, hstop⟩ := munch_eq_token_iff.mp hmunch
      rw [tokensFrom_of_token hmunch, Except.map_eq_ok_iff] at h
      obtain ⟨others, hothers, rfl⟩ := h
      have hstopMore :
          ∀ next after, tail ++ blank :: more = next :: after → ¬kind.Absorbs next := by
        intro next after hcons
        cases tail with
        | nil =>
            obtain ⟨rfl, -⟩ := List.cons.inj hcons
            exact not_absorbs_blank kind (hblank.imp And.left And.left)
        | cons head others =>
            obtain ⟨rfl, -⟩ := List.cons.inj hcons
            exact hstop head others rfl
      rw [← happend, List.append_assoc, tokensFrom_lexeme_append hspells hstopMore, ih hothers,
        Text.byteLength_append, List.count_append, count_newline_of_spells hspells]
      simp only [Nat.zero_add, Nat.add_assoc]
      cases tokensFrom _ _ more <;> rfl
  | blank first rest ended hmunch ih =>
      have hfirst := munch_eq_blank_iff.mp hmunch
      rw [tokensFrom_of_blank hmunch] at h
      have hoffset : offset + 1 + rest.byteLength = offset + Text.byteLength (first :: rest) := by
        rw [Text.byteLength_cons, Nat.add_assoc]
        rcases hfirst with ⟨rfl, -⟩ | ⟨rfl, -⟩ <;> rfl
      have hline : line + ended + rest.count '\n' = line + (first :: rest).count '\n' := by
        rcases hfirst with ⟨rfl, rfl⟩ | ⟨rfl, rfl⟩
        · simp
        · rw [List.count_cons_self, Nat.add_assoc, Nat.add_comm 1]
      rw [List.cons_append, tokensFrom_of_blank (munch_eq_blank_iff.mpr hfirst), ih h, hoffset,
        hline]
  | stray first rest hmunch =>
      rw [tokensFrom_of_stray hmunch] at h
      cases h

theorem tokensFrom_append_space {tokens : List Token} (h : tokensFrom offset line text = .ok tokens)
    (more : Text) :
    tokensFrom offset line (text ++ ' ' :: more) =
      (tokensFrom (offset + text.byteLength + 1) (line + text.count '\n') more).map
        (tokens ++ ·) :=
  tokensFrom_append_blank (.inl ⟨rfl, rfl⟩) h more

/-- The text up to the end of a token, and the text up to its beginning, scan as they do in the
whole. -/
theorem exists_cut_of_tokensFrom {before after : List Token} {token : Token}
    (h : tokensFrom offset line text = .ok (before ++ token :: after)) :
    ∃ front lexeme back, text = front ++ lexeme ++ back ∧
      token.span = ⟨offset + front.byteLength, offset + (front ++ lexeme).byteLength⟩ ∧
      tokensFrom offset line front = .ok before ∧
      tokensFrom offset line (front ++ lexeme) = .ok (before ++ [token]) := by
  induction text using Scan.induction generalizing offset line before with
  | nil =>
      rw [tokensFrom_nil] at h
      exact absurd (Except.ok.inj h) (by simp)
  | token first rest kind lexeme tail hmunch ih =>
      obtain ⟨happend, hspells, hstop⟩ := munch_eq_token_iff.mp hmunch
      rw [tokensFrom_of_token hmunch, Except.map_eq_ok_iff] at h
      obtain ⟨others, hothers, hcons⟩ := h
      have hpart : ∀ part after, tail = part ++ after →
          tokensFrom offset line (lexeme ++ part) =
            (tokensFrom (offset + lexeme.byteLength) line part).map
              (⟨kind, ⟨offset, offset + lexeme.byteLength⟩, line⟩ :: ·) := by
        rintro part after rfl
        refine tokensFrom_lexeme_append hspells fun next rest hnext => ?_
        exact hstop next (rest ++ after) (by rw [hnext, List.cons_append])
      cases before with
      | nil =>
          obtain ⟨rfl, rfl⟩ := List.cons.inj hcons
          have hlexeme := hpart [] tail rfl
          rw [List.append_nil, tokensFrom_nil] at hlexeme
          exact ⟨[], lexeme, tail, happend.symm, rfl, tokensFrom_nil, hlexeme⟩
      | cons head before =>
          obtain ⟨rfl, rfl⟩ := List.cons.inj hcons
          obtain ⟨front, last, back, rfl, hspan, hfront, hlast⟩ := ih hothers
          refine ⟨lexeme ++ front, last, back, by simp [← happend], ?_, ?_, ?_⟩
          · simpa [Nat.add_assoc] using hspan
          · rw [hpart front (last ++ back) (by simp), hfront]
            rfl
          · rw [List.append_assoc, hpart (front ++ last) back rfl, hlast]
            rfl
  | blank first rest lines hmunch ih =>
      have hfirst := munch_eq_blank_iff.mp hmunch
      rw [tokensFrom_of_blank hmunch] at h
      obtain ⟨front, lexeme, back, rfl, hspan, hfront, hlexeme⟩ := ih h
      have hsize : first.utf8Size = 1 := by rcases hfirst with ⟨rfl, -⟩ | ⟨rfl, -⟩ <;> rfl
      have hblank : ∀ part : Text, munch first part = .blank lines :=
        fun part => munch_eq_blank_iff.mpr hfirst
      refine ⟨first :: front, lexeme, back, rfl, ?_, ?_, ?_⟩
      · simpa [hsize, Nat.add_assoc] using hspan
      · rw [tokensFrom_of_blank (hblank front), hfront]
      · rw [List.cons_append, tokensFrom_of_blank (hblank _), hlexeme]
  | stray first rest hmunch =>
      rw [tokensFrom_of_stray hmunch] at h
      cases h

end

/-- A text in which tokens of the given kinds stand. -/
def sampleText (kinds : List Kind) : Text :=
  kinds.flatMap fun kind => kind.sample ++ [' ']

theorem lexeme?_of_cut {front lexeme back : Text} {kind : Kind} {line : Nat} :
    (⟨kind, ⟨front.byteLength, front.byteLength + lexeme.byteLength⟩, line⟩ : Token).lexeme?
      (front ++ lexeme ++ back) = some lexeme :=
  Span.slice?_eq_some_iff.mpr ⟨front, back, rfl, rfl, rfl⟩

theorem exists_tokensFrom_sampleText (front : Text) (line : Nat) (kinds : List Kind) :
    ∃ tokens, tokensFrom front.byteLength line (sampleText kinds) = .ok tokens ∧
      Samples (front ++ sampleText kinds) tokens kinds := by
  induction kinds generalizing front with
  | nil => exact ⟨[], tokensFrom_nil, .nil⟩
  | cons kind kinds ih =>
      obtain ⟨tokens, htokens, hsamples⟩ := ih (front ++ kind.sample ++ [' '])
      have htext : sampleText (kind :: kinds) = kind.sample ++ ' ' :: sampleText kinds := by
        simp [sampleText]
      refine ⟨⟨kind, ⟨front.byteLength, front.byteLength + kind.sample.byteLength⟩, line⟩ :: tokens,
        ?_, ?_⟩
      · rw [htext, tokensFrom_lexeme_space kind.spells_sample, htokens]
        rfl
      · refine .cons rfl ?_ ?_
        · rw [htext, ← List.append_assoc]
          exact lexeme?_of_cut
        · rw [htext]
          simpa using hsamples

theorem lexeme?_append {token : Token} {front lexeme : Text}
    (h : token.lexeme? front = some lexeme) (back : Text) :
    token.lexeme? (front ++ back) = some lexeme := by
  obtain ⟨before, after, rfl, hstart, hstop⟩ := Span.slice?_eq_some_iff.mp h
  exact Span.slice?_eq_some_iff.mpr ⟨before, after ++ back, by simp, hstart, hstop⟩

theorem Spelled.alike {front : Text} {tokens : List Token} (h : Spelled front tokens)
    (back other : Text) : SpelledAlike (front ++ back) (front ++ other) tokens := by
  intro token htoken
  obtain ⟨lexeme, hlexeme, -⟩ := h token htoken
  rw [lexeme?_append hlexeme, lexeme?_append hlexeme]

end FrontEnd
