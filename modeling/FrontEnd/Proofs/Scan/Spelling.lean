import FrontEnd.Token.Scan
import Mathlib.Data.List.TakeWhile
import Mathlib.Tactic.SplitIfs

namespace FrontEnd

namespace Scan

def IsWordStart (character : Char) : Prop :=
  ('A' ≤ character ∧ character ≤ 'Z') ∨ ('a' ≤ character ∧ character ≤ 'z') ∨ character = '_'

def IsWordPart (character : Char) : Prop :=
  IsWordStart character ∨ ('0' ≤ character ∧ character ≤ '9')

instance : DecidablePred IsWordStart :=
  fun _ => inferInstanceAs (Decidable (_ ∨ _))

instance : DecidablePred IsWordPart :=
  fun _ => inferInstanceAs (Decidable (_ ∨ _))

def IsWord : Text → Prop
  | [] => False
  | first :: rest => IsWordStart first ∧ ∀ character ∈ rest, IsWordPart character

def IsNumeral (text : Text) : Prop :=
  text ≠ [] ∧ ∀ character ∈ text, character.isDigit

end Scan

namespace Kind

open Scan

/-- The spelling of a kind that has only one. -/
def spelling? : Kind → Option Text
  | number | identifier => none
  | openBracket => some "[".toList
  | closeBracket => some "]".toList
  | openCurly => some "\x7b".toList
  | closeCurly => some "\x7d".toList
  | openParen => some "(".toList
  | closeParen => some ")".toList
  | assignment => some "=".toList
  | dot => some ".".toList
  | semicolon => some ";".toList
  | colon => some ":".toList
  | colonColon => some "::".toList
  | colonEquals => some ":=".toList
  | comma => some ",".toList
  | arrow => some "->".toList
  | plusEquals => some "+=".toList
  | minusEquals => some "-=".toList
  | plus => some "+".toList
  | dash => some "-".toList
  | star => some "*".toList
  | structKeyword => some "struct".toList
  | returnKeyword => some "return".toList
  | selfKeyword => some "self".toList

/-- Whether a text is in the class of a kind. -/
def Spells : Kind → Text → Prop
  | number, text => IsNumeral text
  | identifier, text =>
      IsWord text ∧ text ≠ "struct".toList ∧ text ≠ "return".toList ∧ text ≠ "self".toList
  | kind, text => kind.spelling? = some text

/-- Whether a character that directly follows a token of some kind would have been read with it. -/
def Absorbs : Kind → Char → Prop
  | identifier, next | structKeyword, next | returnKeyword, next | selfKeyword, next =>
      IsWordPart next
  | number, next => next.isDigit
  | colon, next => next = ':' ∨ next = '='
  | dash, next => next = '>' ∨ next = '='
  | plus, next => next = '='
  | _, _ => False

end Kind

namespace Scan

theorem isWordStart_iff {character : Char} : isWordStart character ↔ IsWordStart character := by
  have hupper : character.isUpper = decide ('A'.val ≤ character.val ∧ character.val ≤ 'Z'.val) :=
    rfl
  have hlower : character.isLower =
      (decide ('a'.val ≤ character.val) && decide (character.val ≤ 'z'.val)) := rfl
  have halpha : character.isAlpha = (character.isUpper || character.isLower) := rfl
  rw [isWordStart, halpha, hupper, hlower]
  simp only [IsWordStart, Char.le_def, Bool.or_eq_true, Bool.and_eq_true, decide_eq_true_eq,
    beq_iff_eq, or_assoc]

theorem isWordPart_iff {character : Char} : isWordPart character ↔ IsWordPart character := by
  have hdigit : character.isDigit =
      (decide ('0'.val ≤ character.val) && decide (character.val ≤ '9'.val)) := rfl
  have halphanum : character.isAlphanum = (character.isAlpha || character.isDigit) := rfl
  rw [isWordPart, IsWordPart, ← isWordStart_iff, isWordStart, halphanum, hdigit]
  simp only [Char.le_def, Bool.or_eq_true, Bool.and_eq_true, decide_eq_true_eq, beq_iff_eq]
  exact or_right_comm

theorem pair?_eq_some_iff {first second : Char} {kind : Kind} :
    pair? first second = some kind ↔ kind.spelling? = some [first, second] := by
  constructor
  · intro h
    unfold pair? at h
    split at h
    all_goals simp only [Option.some.injEq, reduceCtorEq] at h
    all_goals subst h; rfl
  · intro h
    cases kind
    all_goals simp [Kind.spelling?] at h
    all_goals obtain ⟨rfl, rfl⟩ := h; rfl

theorem symbol?_eq_some_iff {first : Char} {kind : Kind} :
    symbol? first = some kind ↔ kind.spelling? = some [first] := by
  constructor
  · intro h
    unfold symbol? at h
    split at h
    all_goals simp only [Option.some.injEq, reduceCtorEq] at h
    all_goals subst h; rfl
  · intro h
    cases kind
    all_goals simp [Kind.spelling?] at h
    all_goals subst h; rfl

theorem spells_ofWord {word : Text} (hword : IsWord word) : (Kind.ofWord word).Spells word := by
  unfold Kind.ofWord Kind.reserved?
  split_ifs with hstruct hreturn hself
  · exact congrArg some hstruct.symm
  · exact congrArg some hreturn.symm
  · exact congrArg some hself.symm
  · exact ⟨hword, hstruct, hreturn, hself⟩

theorem absorbs_ofWord {word : Text} {next : Char} :
    (Kind.ofWord word).Absorbs next ↔ IsWordPart next := by
  unfold Kind.ofWord Kind.reserved?
  split_ifs <;> exact Iff.rfl

theorem spells_of_spelling? {kind : Kind} {text : Text} (h : kind.spelling? = some text) :
    kind.Spells text := by
  cases kind
  case number => cases h
  case identifier => cases h
  all_goals exact h

theorem lexeme_cases {kind : Kind} {lexeme : Text} (h : kind.Spells lexeme) :
    (IsWord lexeme ∧ kind = Kind.ofWord lexeme) ∨ (IsNumeral lexeme ∧ kind = .number) ∨
      (∃ first second, lexeme = [first, second] ∧ pair? first second = some kind) ∨
        ∃ first, lexeme = [first] ∧ symbol? first = some kind := by
  cases kind
  case number => exact .inr (.inl ⟨h, rfl⟩)
  case identifier =>
    refine .inl ⟨h.1, ?_⟩
    obtain ⟨-, hstruct, hreturn, hself⟩ := h
    rw [Kind.ofWord, Kind.reserved?, if_neg hstruct, if_neg hreturn, if_neg hself]
    rfl
  case structKeyword | returnKeyword | selfKeyword =>
    obtain rfl := Option.some.inj h
    exact .inl ⟨by simp [IsWord]; decide, rfl⟩
  case colonColon | colonEquals | arrow | plusEquals | minusEquals =>
    exact .inr (.inr (.inl ⟨_, _, (Option.some.inj h).symm, rfl⟩))
  all_goals exact .inr (.inr (.inr ⟨_, (Option.some.inj h).symm, rfl⟩))

theorem absorbs_of_symbol? {first next : Char} {kind : Kind} (h : symbol? first = some kind) :
    kind.Absorbs next ↔ (pair? first next).isSome := by
  rw [symbol?_eq_some_iff] at h
  cases kind
  all_goals simp [Kind.spelling?] at h
  all_goals subst h
  case colon | dash | plus =>
    constructor
    · intro habsorbs
      simp only [Kind.Absorbs] at habsorbs
      obtain rfl | rfl := habsorbs <;> rfl
    · intro hpair
      obtain ⟨long, hlong⟩ := Option.isSome_iff_exists.mp hpair
      simp only [pair?_eq_some_iff] at hlong
      cases long <;> simp [Kind.spelling?] at hlong <;> simp [Kind.Absorbs, ← hlong]
  all_goals simp [Kind.Absorbs, pair?]

theorem not_absorbs_of_pair? {first second next : Char} {kind : Kind}
    (h : pair? first second = some kind) : ¬ kind.Absorbs next := by
  rw [pair?_eq_some_iff] at h
  cases kind
  all_goals simp [Kind.spelling?, Kind.Absorbs] at h ⊢

theorem takeWhile_append_eq {p : Char → Bool} {text tail : Text}
    (htext : ∀ character ∈ text, p character)
    (htail : ∀ next after, tail = next :: after → ¬ p next) :
    (text ++ tail).takeWhile p = text ∧ (text ++ tail).dropWhile p = tail := by
  rw [List.takeWhile_append_of_pos htext, List.dropWhile_append_of_pos htext]
  cases tail with
  | nil => simp
  | cons next after => simp [htail next after rfl]

theorem munch_word {first : Char} {rest tail : Text}
    (hword : IsWord (first :: rest))
    (htail : ∀ next after, tail = next :: after → ¬ IsWordPart next) :
    munch first (rest ++ tail) = .token (Kind.ofWord (first :: rest)) (first :: rest) tail := by
  simp only [IsWord, ← isWordStart_iff, ← isWordPart_iff] at hword htail
  obtain ⟨hfirst, hrest⟩ := hword
  obtain ⟨htake, hdrop⟩ := takeWhile_append_eq hrest htail
  rw [munch, if_pos hfirst, htake, hdrop]

theorem not_isWordStart_of_isDigit {character : Char} (h : character.isDigit) :
    ¬ isWordStart character := by
  have hupperIff : character.isUpper = decide (65 ≤ character.val ∧ character.val ≤ 90) := rfl
  have hlowerIff : character.isLower =
      (decide (97 ≤ character.val) && decide (character.val ≤ 122)) := rfl
  have halphaIff : character.isAlpha = (character.isUpper || character.isLower) := rfl
  have hval : character.val.toNat = character.toNat := rfl
  rw [Char.isDigit_iff_toNat] at h
  intro hstart
  simp only [isWordStart, halphaIff, hupperIff, hlowerIff, Bool.or_eq_true, Bool.and_eq_true,
    decide_eq_true_eq, beq_iff_eq, UInt32.le_iff_toNat_le] at hstart
  obtain (hupper | hlower) | rfl := hstart
  · simp at h hupper
    omega
  · simp at h hlower
    omega
  · exact absurd h (by decide)

theorem munch_numeral {first : Char} {rest tail : Text}
    (hnumeral : IsNumeral (first :: rest))
    (htail : ∀ next after, tail = next :: after → ¬ next.isDigit) :
    munch first (rest ++ tail) = .token .number (first :: rest) tail := by
  obtain ⟨-, hdigits⟩ := hnumeral
  obtain ⟨hfirst, hrest⟩ := List.forall_mem_cons.mp hdigits
  obtain ⟨htake, hdrop⟩ := takeWhile_append_eq hrest htail
  rw [munch, if_neg (not_isWordStart_of_isDigit hfirst), if_pos hfirst, htake, hdrop]

theorem munch_pair {first second : Char} {kind : Kind} (tail : Text)
    (hpair : pair? first second = some kind) :
    munch first (second :: tail) = .token kind [first, second] tail := by
  rw [pair?_eq_some_iff] at hpair
  cases kind
  all_goals simp [Kind.spelling?] at hpair
  all_goals
    obtain ⟨rfl, rfl⟩ := hpair
    rfl

theorem munch_single {first : Char} {kind : Kind} {tail : Text}
    (hsymbol : symbol? first = some kind) (hshort : longSymbol? first tail = none) :
    munch first tail = .token kind [first] tail := by
  have hclass : ¬ isWordStart first ∧ ¬ first.isDigit := by
    rw [symbol?_eq_some_iff] at hsymbol
    cases kind
    all_goals simp [Kind.spelling?] at hsymbol
    all_goals
      subst hsymbol
      decide
  rw [munch, if_neg hclass.1, if_neg hclass.2, hshort, hsymbol]

theorem longSymbol?_eq_none_iff {first : Char} {kind : Kind} {tail : Text}
    (hsymbol : symbol? first = some kind) :
    longSymbol? first tail = none ↔
      ∀ next after, tail = next :: after → ¬ kind.Absorbs next := by
  cases tail with
  | nil => simp [longSymbol?]
  | cons next after => simp [longSymbol?, absorbs_of_symbol? hsymbol]

theorem head_dropWhile {p : Char → Bool} {text after : Text} {next : Char}
    (h : text.dropWhile p = next :: after) : ¬ p next := by
  intro hnext
  have := List.head?_dropWhile_not p text
  simp [h, hnext] at this

/-- A munch takes a lexeme exactly when the lexeme spells its kind and the character after it could
not have been taken too. -/
theorem munch_eq_token_iff {first : Char} {rest lexeme tail : Text} {kind : Kind} :
    munch first rest = .token kind lexeme tail ↔
      lexeme ++ tail = first :: rest ∧ kind.Spells lexeme ∧
        ∀ next after, tail = next :: after → ¬ kind.Absorbs next := by
  constructor
  · intro h
    refine ⟨append_of_munch h, ?_⟩
    simp only [munch] at h
    split at h
    next hfirst =>
      obtain ⟨rfl, rfl, rfl⟩ := Munch.token.inj h
      refine ⟨spells_ofWord ⟨isWordStart_iff.mp hfirst, fun character hmem => ?_⟩, ?_⟩
      · exact isWordPart_iff.mp (List.mem_takeWhile_imp hmem)
      · intro next after htail
        rw [absorbs_ofWord, ← isWordPart_iff]
        exact head_dropWhile htail
    next =>
      split at h
      next hfirst =>
        obtain ⟨rfl, rfl, rfl⟩ := Munch.token.inj h
        refine ⟨⟨List.cons_ne_nil _ _, ?_⟩, ?_⟩
        · exact List.forall_mem_cons.mpr ⟨hfirst, fun character => List.mem_takeWhile_imp⟩
        · intro next after htail
          exact head_dropWhile htail
      next =>
        split at h
        next kind' second tail' hlong =>
          obtain ⟨rfl, rfl, rfl⟩ := Munch.token.inj h
          cases rest with
          | nil => cases hlong
          | cons next after =>
              obtain ⟨long, hpair, heq⟩ := Option.map_eq_some_iff.mp hlong
              obtain ⟨rfl, rfl, rfl⟩ : long = _ ∧ next = second ∧ after = _ := by simpa using heq
              exact ⟨spells_of_spelling? (pair?_eq_some_iff.mp hpair),
                fun _ _ _ => not_absorbs_of_pair? hpair⟩
        next kind' hsymbol hlong =>
          obtain ⟨rfl, rfl, rfl⟩ := Munch.token.inj h
          refine ⟨spells_of_spelling? (symbol?_eq_some_iff.mp hlong), ?_⟩
          exact (longSymbol?_eq_none_iff hlong).mp hsymbol
        next =>
          split at h
          next => cases h
          next => split at h <;> cases h
  · rintro ⟨happend, hspells, htail⟩
    obtain ⟨hword, rfl⟩ | ⟨hnumeral, rfl⟩ | ⟨a, b, rfl, hpair⟩ | ⟨a, rfl, hsymbol⟩ :=
      lexeme_cases hspells
    · cases lexeme with
      | nil => exact hword.elim
      | cons head others =>
          obtain ⟨rfl, rfl⟩ := List.cons.inj happend
          exact munch_word hword fun next after hnext =>
            absorbs_ofWord.not.mp (htail next after hnext)
    · cases lexeme with
      | nil => exact absurd rfl hnumeral.1
      | cons head others =>
          obtain ⟨rfl, rfl⟩ := List.cons.inj happend
          exact munch_numeral hnumeral htail
    · obtain ⟨rfl, rfl⟩ := List.cons.inj happend
      exact munch_pair tail hpair
    · obtain ⟨rfl, rfl⟩ := List.cons.inj happend
      exact munch_single hsymbol ((longSymbol?_eq_none_iff hsymbol).mpr htail)

theorem munch_eq_blank_iff {first : Char} {rest : Text} {lines : Nat} :
    munch first rest = .blank lines ↔ first = ' ' ∧ lines = 0 ∨ first = '\n' ∧ lines = 1 := by
  constructor
  · intro h
    simp only [munch] at h
    split at h
    next => cases h
    next =>
      split at h
      next => cases h
      next =>
        split at h
        next => cases h
        next => cases h
        next =>
          split at h
          next hspace => exact .inl ⟨hspace, (Munch.blank.inj h).symm⟩
          next =>
            split at h
            next hnewline => exact .inr ⟨hnewline, (Munch.blank.inj h).symm⟩
            next => cases h
  · rintro (⟨rfl, rfl⟩ | ⟨rfl, rfl⟩)
    · cases rest <;> rfl
    · cases rest <;> rfl

theorem not_blank_of_munch {first : Char} {rest : Text}
    (h : ∀ lines, munch first rest ≠ .blank lines) : ¬ (first = ' ' ∨ first = '\n') := by
  rintro (hspace | hnewline)
  · exact h 0 (munch_eq_blank_iff.mpr (.inl ⟨hspace, rfl⟩))
  · exact h 1 (munch_eq_blank_iff.mpr (.inr ⟨hnewline, rfl⟩))

theorem not_absorbs_blank (kind : Kind) {blank : Char} (h : blank = ' ' ∨ blank = '\n') :
    ¬ kind.Absorbs blank := by
  rcases h with rfl | rfl
  all_goals cases kind <;> simp [Kind.Absorbs] <;> decide

theorem lexeme_ne_nil_of_spells {kind : Kind} {lexeme : Text} (h : kind.Spells lexeme) :
    lexeme ≠ [] := by
  rintro rfl
  obtain ⟨hword, -⟩ | ⟨hnumeral, -⟩ | ⟨_, _, hpair, -⟩ | ⟨_, hsymbol, -⟩ := lexeme_cases h
  · exact hword
  · exact hnumeral.1 rfl
  · cases hpair
  · cases hsymbol

theorem not_blank_of_mem_lexeme {kind : Kind} {lexeme : Text} {character : Char}
    (h : kind.Spells lexeme) (hmem : character ∈ lexeme) :
    character ≠ ' ' ∧ character ≠ '\n' := by
  obtain ⟨hword, -⟩ | ⟨hnumeral, -⟩ | ⟨a, b, rfl, hpair⟩ | ⟨a, rfl, hsymbol⟩ := lexeme_cases h
  · cases lexeme with
    | nil => cases hmem
    | cons first rest =>
        obtain rfl | hrest := List.mem_cons.mp hmem
        · constructor <;> rintro rfl <;> exact absurd hword.1 (by decide)
        · constructor <;> rintro rfl <;> exact absurd (hword.2 _ hrest) (by decide)
  · constructor <;> rintro rfl <;> exact absurd (hnumeral.2 _ hmem) (by decide)
  · obtain rfl | rfl : character = a ∨ character = b := by simpa using hmem
    · constructor <;> rintro rfl <;> simp [pair?] at hpair
    · constructor <;> rintro rfl <;> simp [pair?] at hpair
  · obtain rfl := List.mem_singleton.mp hmem
    constructor <;> rintro rfl <;> simp [symbol?] at hsymbol

theorem count_newline_of_spells {kind : Kind} {lexeme : Text} (h : kind.Spells lexeme) :
    lexeme.count '\n' = 0 := by
  apply List.count_eq_zero_of_not_mem
  intro hmem
  exact (not_blank_of_mem_lexeme h hmem).2 rfl

end Scan

end FrontEnd
