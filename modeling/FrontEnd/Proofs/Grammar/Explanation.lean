import FrontEnd.Proofs.Grammar.Loops
import FrontEnd.Proofs.Grammar.Need
import FrontEnd.Proofs.Scan.Continuation

/-!
Explanations of how a reading ends, by the phrases of a grammar.

A value is explained if the consumed tokens are a phrase for it. The end of the tokens is explained
if they can be completed to a phrase, and a diagnostic at a token is explained if the tokens before
it can. Besides, the reading must not have looked further than it says: with other tokens after the
one that stopped it, it ends in the same way.

Explanations compose as readings do, so that a reading is explained part by part.
-/

namespace FrontEnd

open Reads Reading Grammar

/-- What tokens mean, given the text that they were read from. -/
abbrev Phrase (α : Type) := Text → List Token → α → Prop

namespace Phrase

variable {α β : Type}

/-- No tokens, which mean the given value. -/
def nothing (value : α) : Phrase α :=
  fun _ tokens result => tokens = [] ∧ result = value

/-- A token of the given kind and what follows it. -/
def expected (kind : Kind) (next : Token → Phrase β) : Phrase β :=
  fun source tokens result => ∃ token rest, tokens = token :: rest ∧ token.kind = kind ∧
    next token source rest result

/-- A phrase and what follows it. -/
def andThen (phrase : Phrase α) (next : α → Phrase β) : Phrase β :=
  fun source tokens result => ∃ first rest value, tokens = first ++ rest ∧
    phrase source first value ∧ next value source rest result

end Phrase

section

variable {α β : Type} {source other : Text} {first second tokens : List Token}

theorem Samples.marks_eq {source : Text} {tokens : List Token} {kinds : List Kind}
    (h : Samples source tokens kinds) : Grammar.marks tokens = Kind.marks kinds := by
  induction h with
  | nil => rfl
  | cons htoken _ ih => rw [Grammar.marks_cons, Kind.marks_cons, ih, htoken.1]

/-- Tokens of the given kinds, with the samples as spellings, are a phrase. -/
def Productive (phrase : Phrase α) (kinds : List Kind) : Prop :=
  ∀ source tokens, Samples source tokens kinds → ∃ value, phrase source tokens value

/-- Tokens that begin a phrase: with tokens of some kinds after them they are one, in any text that
spells them alike. At most one of the kinds is a mark, so that one more level is enough. -/
def Completes (phrase : Phrase α) (source : Text) (tokens : List Token) : Prop :=
  ∃ kinds, Kind.marks kinds ≤ 1 ∧ ∀ other more, SpelledAlike source other tokens →
    Samples other more kinds → ∃ value, phrase other (tokens ++ more) value

theorem Productive.completes {phrase : Phrase α} {kinds : List Kind}
    (h : Productive phrase kinds) (hmarks : Kind.marks kinds ≤ 1) (source : Text) :
    Completes phrase source [] :=
  ⟨kinds, hmarks, fun other more _ hmore => h other more hmore⟩

theorem Productive.andThen {phrase : Phrase α} {next : α → Phrase β} {kinds more : List Kind}
    (h : Productive phrase kinds) (hnext : ∀ value, Productive (next value) more) :
    Productive (phrase.andThen next) (kinds ++ more) := by
  intro source tokens hsamples
  obtain ⟨first, second, rfl, hfirst, hsecond⟩ := hsamples.exists_append
  obtain ⟨value, hvalue⟩ := h source first hfirst
  obtain ⟨result, hresult⟩ := hnext value source second hsecond
  exact ⟨result, first, second, value, rfl, hvalue, hresult⟩

theorem Productive.expected {kind : Kind} {next : Token → Phrase β} {kinds : List Kind}
    (hnext : ∀ token, token.kind = kind → Productive (next token) kinds) :
    Productive (Phrase.expected kind next) (kind :: kinds) := by
  intro source tokens hsamples
  obtain ⟨token, rest, rfl, hkind, -, hrest⟩ := hsamples.exists_cons
  obtain ⟨result, hresult⟩ := hnext token hkind source rest hrest
  exact ⟨result, token, rest, rfl, hkind, hresult⟩

theorem Productive.of_nil {phrase : Phrase α} {value : α}
    (h : ∀ source, phrase source [] value) : Productive phrase [] := by
  intro source tokens hsamples
  obtain rfl := hsamples.eq_nil
  exact ⟨value, h source⟩

theorem Productive.nothing (value : α) : Productive (Phrase.nothing value) [] :=
  .of_nil fun _ => ⟨rfl, rfl⟩

theorem Productive.mono {phrase wider : Phrase α} {kinds : List Kind}
    (h : Productive phrase kinds)
    (hwider : ∀ source tokens value, phrase source tokens value → wider source tokens value) :
    Productive wider kinds := by
  intro source tokens hsamples
  obtain ⟨value, hvalue⟩ := h source tokens hsamples
  exact ⟨value, hwider source tokens value hvalue⟩

theorem Completes.mono {phrase wider : Phrase α} (h : Completes phrase source tokens)
    (hwider : ∀ source tokens value, phrase source tokens value → wider source tokens value) :
    Completes wider source tokens := by
  obtain ⟨kinds, hmarks, hcompletes⟩ := h
  refine ⟨kinds, hmarks, fun other more halike hmore => ?_⟩
  obtain ⟨value, hvalue⟩ := hcompletes other more halike hmore
  exact ⟨value, hwider other _ value hvalue⟩

theorem Completes.cons {phrase following : Phrase α} {token : Token}
    (h : Completes following source tokens)
    (hphrase : ∀ source rest value, following source rest value →
      phrase source (token :: rest) value) :
    Completes phrase source (token :: tokens) := by
  obtain ⟨kinds, hmarks, hcompletes⟩ := h
  refine ⟨kinds, hmarks, fun other more halike hmore => ?_⟩
  obtain ⟨value, hvalue⟩ := hcompletes other more halike.tail hmore
  exact ⟨value, hphrase other _ value hvalue⟩

theorem Completes.followed {phrase : Phrase α} {next : α → Phrase β} {kinds : List Kind}
    (h : Completes phrase source tokens) (hnext : ∀ value, Productive (next value) kinds)
    (hmarks : Kind.marks kinds = 0) : Completes (phrase.andThen next) source tokens := by
  obtain ⟨begun, hbegun, hcompletes⟩ := h
  refine ⟨begun ++ kinds, by simp [hmarks, hbegun], fun other more halike hmore => ?_⟩
  obtain ⟨first, second, rfl, hfirst, hsecond⟩ := hmore.exists_append
  obtain ⟨value, hvalue⟩ := hcompletes other first halike hfirst
  obtain ⟨result, hresult⟩ := hnext value other second hsecond
  exact ⟨result, tokens ++ first, second, value, by simp, hvalue, hresult⟩

theorem Completes.preceded {phrase : Phrase α} {next : α → Phrase β} {value : α}
    (hphrase : ∀ other, SpelledAlike source other first → phrase other first value)
    (h : Completes (next value) source second) :
    Completes (phrase.andThen next) source (first ++ second) := by
  obtain ⟨kinds, hmarks, hcompletes⟩ := h
  refine ⟨kinds, hmarks, fun other more halike hmore => ?_⟩
  obtain ⟨result, hresult⟩ := hcompletes other more halike.right hmore
  exact ⟨result, first, second ++ more, value, by simp, hphrase other halike.left, hresult⟩

end

variable {α β : Type}

/-- The ways in which a reading may end on some tokens. -/
inductive Explains (reading : Reading α) (phrase : Phrase α) (setting : Setting)
    (tokens : List Token) : Outcome α → Prop
  | accepted {consumed rest : List Token} {value : α} : tokens = consumed ++ rest →
      (∀ other, SpelledAlike setting.source other consumed → phrase other consumed value) →
      (∀ (other : Setting) following, other.rules = .standard →
        SpelledAlike setting.source other.source consumed → following.head? = rest.head? →
          reading other (consumed ++ following) = .ok value following) →
      Explains reading phrase setting tokens (.ok value rest)
  | short {problem : Diagnostic} {rest : List Token} : problem.span = none →
      Completes phrase setting.source tokens →
      Explains reading phrase setting tokens (.error problem rest)
  | refused {before after rest : List Token} {token : Token} {cause : Cause} :
      tokens = before ++ token :: after → (∀ expected, cause ≠ .endOfInput expected) →
      Completes phrase setting.source before →
      (∀ (other : Setting) following, other.rules = .standard →
        SpelledAlike setting.source other.source (before ++ [token]) →
          ∃ left, reading other (before ++ token :: following) =
            .error ⟨cause, token.line, some token.span⟩ left) →
      Explains reading phrase setting tokens (.error ⟨cause, token.line, some token.span⟩ rest)

/-- Tokens that a reading may be given: under the rules of the language, spelled as their kinds
allow, and fewer than a bound. -/
structure Readable (bound : Nat) (setting : Setting) (tokens : List Token) : Prop where
  rules : setting.rules = .standard
  spelled : Spelled setting.source tokens
  length_lt : tokens.length < bound

/-- A reading that is explained on fewer tokens than a bound, if they begin as given. -/
def ExplainedAt (reading : Reading α) (phrase : Phrase α) (bound : Nat) (head : Option Token) :
    Prop :=
  ∀ setting tokens, Readable bound setting tokens → tokens.head? = head →
    Explains reading phrase setting tokens (reading setting tokens)

/-- A reading that is explained on fewer tokens than a bound, by a phrase of which the kinds give
an instance. -/
structure Explained (reading : Reading α) (phrase : Phrase α) (bound : Nat) (kinds : List Kind) :
    Prop where
  productive : Productive phrase kinds
  explained : ∀ head, ExplainedAt reading phrase bound head

theorem head?_append_eq {first second rest : List Token} (h : second.head? = rest.head?) :
    (first ++ second).head? = (first ++ rest).head? := by
  cases first with
  | nil => exact h
  | cons token first => rfl

namespace Readable

variable {bound smaller : Nat} {setting : Setting} {tokens rest : List Token}

theorem of_suffix (h : Readable bound setting tokens) (hrest : rest <:+ tokens)
    (hlength : rest.length < smaller) : Readable smaller setting rest :=
  ⟨h.rules, fun token htoken => h.spelled token (hrest.mem htoken), hlength⟩

end Readable

namespace Explains

variable {reading : Reading α} {next : α → Reading β} {phrase : Phrase α} {setting : Setting}
  {tokens : List Token}

theorem mono {wider : Phrase α} {outcome : Outcome α}
    (h : Explains reading phrase setting tokens outcome)
    (hwider : ∀ source tokens value, phrase source tokens value → wider source tokens value) :
    Explains reading wider setting tokens outcome := by
  cases h with
  | accepted htokens hphrase hlocal =>
      exact .accepted htokens (fun other halike => hwider _ _ _ (hphrase other halike)) hlocal
  | short hspan hcompletes => exact .short hspan (hcompletes.mono hwider)
  | refused htokens hcause hcompletes hlocal =>
      exact .refused htokens hcause (hcompletes.mono hwider) hlocal

theorem congr {other : Reading α} {outcome : Outcome α}
    (h : Explains other phrase setting tokens outcome)
    (heq : ∀ (setting : Setting) following, setting.rules = .standard →
      following.head? = tokens.head? → reading setting following = other setting following) :
    Explains reading phrase setting tokens outcome := by
  cases h with
  | accepted htokens hphrase hlocal =>
      refine .accepted htokens hphrase fun setting following hrules halike hhead => ?_
      rw [heq setting _ hrules (by rw [htokens]; exact head?_append_eq hhead)]
      exact hlocal setting following hrules halike hhead
  | short hspan hcompletes => exact .short hspan hcompletes
  | refused htokens hcause hcompletes hlocal =>
      refine .refused htokens hcause hcompletes fun setting following hrules halike => ?_
      rw [heq setting _ hrules (by rw [htokens]; exact head?_append_eq rfl)]
      exact hlocal setting following hrules halike

theorem bind {following : α → Phrase β} {kinds : List Kind}
    (h : Explains reading phrase setting tokens (reading setting tokens))
    (hnext : ∀ value rest, reading setting tokens = .ok value rest → rest <:+ tokens →
      Explains (next value) (following value) setting rest (next value setting rest))
    (hproductive : ∀ value, Productive (following value) kinds)
    (hmarks : Kind.marks kinds = 0) :
    Explains (reading >>= next) (phrase.andThen following) setting tokens
      ((reading >>= next) setting tokens) := by
  cases houtcome : reading setting tokens with
  | ok value rest =>
      rw [bind_of_ok houtcome]
      rw [houtcome] at h
      cases h with
      | @accepted consumed _ _ htokens hphrase hlocal =>
          subst htokens
          have hrest := hnext value rest houtcome (List.suffix_append consumed rest)
          generalize next value setting rest = outcome at hrest
          cases hrest with
          | @accepted second last _ hsplit hfollowing hsecond =>
              subst hsplit
              refine .accepted (List.append_assoc consumed second last).symm ?_ ?_
              · intro other halike
                exact ⟨consumed, second, value, rfl, hphrase other halike.left,
                  hfollowing other halike.right⟩
              · intro other more hrules halike hhead
                -- The first reading saw one token of the rest: the same one stands there if the
                -- second consumed a token, and if not, then the one that the second saw.
                have hfirst := hlocal other (second ++ more) hrules halike.left
                  (head?_append_eq hhead)
                rw [List.append_assoc, bind_of_ok hfirst]
                exact hsecond other more hrules halike.right hhead
          | short hspan hcompletes => exact .short hspan (.preceded hphrase hcompletes)
          | @refused before after _ token cause hsplit hcause hcompletes hsecond =>
              subst hsplit
              refine .refused (List.append_assoc consumed before (token :: after)).symm hcause
                (.preceded hphrase hcompletes) ?_
              intro other more hrules halike
              rw [List.append_assoc] at halike
              have hfirst := hlocal other (before ++ token :: more) hrules halike.left
                (head?_append_eq rfl)
              rw [List.append_assoc, bind_of_ok hfirst]
              exact hsecond other more hrules halike.right
  | error problem rest =>
      rw [bind_of_error houtcome]
      rw [houtcome] at h
      cases h with
      | short hspan hcompletes => exact .short hspan (hcompletes.followed hproductive hmarks)
      | refused htokens hcause hcompletes hlocal =>
          refine .refused htokens hcause (hcompletes.followed hproductive hmarks) ?_
          intro other more hrules halike
          obtain ⟨left, hleft⟩ := hlocal other more hrules halike
          exact ⟨left, bind_of_error hleft next⟩
  | fault rest opened =>
      rw [houtcome] at h
      cases h

theorem inLevel (h : Explains reading phrase setting tokens (reading setting tokens)) :
    Explains (inLevel reading) phrase setting tokens (inLevel reading setting tokens) := by
  cases houtcome : reading setting tokens with
  | ok value rest =>
      rw [inLevel_of_ok houtcome]
      rw [houtcome] at h
      cases h with
      | accepted htokens hphrase hlocal =>
          exact .accepted htokens hphrase fun other following hrules halike hhead =>
            inLevel_of_ok (hlocal other following hrules halike hhead)
  | error problem rest =>
      rw [inLevel_of_error houtcome]
      rw [houtcome] at h
      cases h with
      | short hspan hcompletes => exact .short hspan hcompletes
      | refused htokens hcause hcompletes hlocal =>
          refine .refused htokens hcause hcompletes fun other following hrules halike => ?_
          obtain ⟨left, hleft⟩ := hlocal other following hrules halike
          exact ⟨left, inLevel_of_error hleft⟩
  | fault rest opened =>
      rw [houtcome] at h
      cases h

end Explains

namespace ExplainedAt

variable {reading : Reading α} {phrase : Phrase α} {bound : Nat} {head : Option Token}
  {token : Token}

theorem mono {wider : Phrase α} (h : ExplainedAt reading phrase bound head)
    (hwider : ∀ source tokens value, phrase source tokens value → wider source tokens value) :
    ExplainedAt reading wider bound head :=
  fun setting tokens hreadable hhead => (h setting tokens hreadable hhead).mono hwider

theorem congr {other : Reading α} (h : ExplainedAt other phrase bound head)
    (heq : ∀ (setting : Setting) tokens, setting.rules = .standard → tokens.head? = head →
      reading setting tokens = other setting tokens) :
    ExplainedAt reading phrase bound head := by
  intro setting tokens hreadable hhead
  rw [heq setting tokens hreadable.rules hhead]
  refine (h setting tokens hreadable hhead).congr fun setting following hrules hsame => ?_
  exact heq setting following hrules (hsame.trans hhead)

theorem done {value : α} (hphrase : ∀ source, phrase source [] value)
    (heq : ∀ (setting : Setting) tokens, setting.rules = .standard → tokens.head? = head →
      reading setting tokens = .ok value tokens) :
    ExplainedAt reading phrase bound head := by
  intro setting tokens hreadable hhead
  rw [heq setting tokens hreadable.rules hhead]
  refine .accepted (List.nil_append tokens).symm (fun other _ => hphrase other) ?_
  intro other following hrules _ hsame
  exact heq other following hrules (hsame.trans hhead)

theorem short {kinds : List Kind} (expected : String)
    (hproductive : Productive phrase kinds) (hmarks : Kind.marks kinds ≤ 1)
    (heq : ∀ setting, setting.rules = .standard →
      reading setting [] = .error ⟨.endOfInput expected, setting.lastLine, none⟩ []) :
    ExplainedAt reading phrase bound none := by
  intro setting tokens hreadable hhead
  obtain rfl := List.head?_eq_none_iff.mp hhead
  rw [heq setting hreadable.rules]
  exact .short rfl (hproductive.completes hmarks setting.source)

theorem refused {kinds : List Kind} (cause : Text → Cause)
    (hproductive : Productive phrase kinds) (hmarks : Kind.marks kinds ≤ 1)
    (hcause : ∀ lexeme expected, cause lexeme ≠ .endOfInput expected)
    (heq : ∀ (setting : Setting) rest lexeme, setting.rules = .standard →
      token.lexeme? setting.source = some lexeme → reading setting (token :: rest) =
        .error ⟨cause lexeme, token.line, some token.span⟩ (token :: rest)) :
    ExplainedAt reading phrase bound (some token) := by
  intro setting tokens hreadable hhead
  obtain ⟨rest, rfl⟩ := List.head?_eq_some_iff.mp hhead
  obtain ⟨lexeme, hlexeme, -⟩ := hreadable.spelled token List.mem_cons_self
  rw [heq setting rest lexeme hreadable.rules hlexeme]
  refine .refused (List.nil_append _).symm (hcause lexeme)
    (hproductive.completes hmarks setting.source) ?_
  intro other following hrules halike
  rw [← halike token List.mem_cons_self] at hlexeme
  exact ⟨_, heq other following lexeme hrules hlexeme⟩

theorem misplaced {kinds : List Kind} (message : String) (hproductive : Productive phrase kinds)
    (hmarks : Kind.marks kinds ≤ 1)
    (heq : ∀ (setting : Setting) rest, setting.rules = .standard →
      reading setting (token :: rest) =
        (unexpected token message : Reading α) setting (token :: rest)) :
    ExplainedAt reading phrase bound (some token) := by
  refine .refused (.misplacedToken · message) hproductive hmarks (by simp) ?_
  intro setting rest lexeme hrules hlexeme
  rw [heq setting rest hrules, unexpected_apply hlexeme]

theorem unsupported {kinds : List Kind} (construct : String)
    (hproductive : Productive phrase kinds) (hmarks : Kind.marks kinds ≤ 1)
    (heq : ∀ (setting : Setting) rest, setting.rules = .standard →
      reading setting (token :: rest) =
        (unsupported token construct : Reading α) setting (token :: rest)) :
    ExplainedAt reading phrase bound (some token) := by
  refine .refused (fun _ => .unsupported construct) hproductive hmarks (by simp) ?_
  intro setting rest lexeme hrules _
  rw [heq setting rest hrules, unsupported_apply]

theorem consume {next : Reading α} {following : Phrase α} {kinds : List Kind}
    (hnext : Explained next following bound kinds)
    (hphrase : ∀ source rest value, following source rest value →
      phrase source (token :: rest) value)
    (heq : ∀ (setting : Setting) rest, setting.rules = .standard →
      reading setting (token :: rest) = next setting rest) :
    ExplainedAt reading phrase (bound + 1) (some token) := by
  intro setting tokens hreadable hhead
  obtain ⟨rest, rfl⟩ := List.head?_eq_some_iff.mp hhead
  have hrest : Readable bound setting rest :=
    hreadable.of_suffix (List.suffix_cons token rest) (Nat.lt_of_succ_lt_succ hreadable.length_lt)
  rw [heq setting rest hreadable.rules]
  have hexplained := hnext.explained rest.head? setting rest hrest rfl
  generalize next setting rest = outcome at hexplained
  cases hexplained with
  | @accepted consumed last _ hsplit hfollowing hlocal =>
      subst hsplit
      refine .accepted (List.cons_append).symm
        (fun other halike => hphrase other consumed _ (hfollowing other halike.tail)) ?_
      intro other more hrules halike hsame
      rw [List.cons_append, heq other _ hrules]
      exact hlocal other more hrules halike.tail hsame
  | short hspan hcompletes => exact .short hspan (hcompletes.cons hphrase)
  | refused hsplit hcause hcompletes hlocal =>
      subst hsplit
      refine .refused (List.cons_append).symm hcause (hcompletes.cons hphrase) ?_
      intro other more hrules halike
      rw [List.cons_append, heq other _ hrules]
      exact hlocal other more hrules halike.tail

theorem bind {next : α → Reading β} {following : α → Phrase β} {kinds : List Kind}
    (h : ExplainedAt reading phrase bound head)
    (hnext : ∀ value, Explained (next value) (following value) bound kinds)
    (hmarks : Kind.marks kinds = 0) :
    ExplainedAt (reading >>= next) (phrase.andThen following) bound head := by
  intro setting tokens hreadable hhead
  refine (h setting tokens hreadable hhead).bind ?_ (fun value => (hnext value).productive) hmarks
  intro value rest _ hsuffix
  have hlength := hsuffix.length_le
  have hlt := hreadable.length_lt
  exact (hnext value).explained rest.head? setting rest
    (hreadable.of_suffix hsuffix (by omega)) rfl

/-- After a reading that consumes a token, what follows is explained on fewer tokens. -/
theorem bind_of_progressive {next : α → Reading β} {following : α → Phrase β}
    {kinds : List Kind} (h : ExplainedAt reading phrase (bound + 1) head)
    (hprogressive : Progressive reading)
    (hnext : ∀ value, Explained (next value) (following value) bound kinds)
    (hmarks : Kind.marks kinds = 0) :
    ExplainedAt (reading >>= next) (phrase.andThen following) (bound + 1) head := by
  intro setting tokens hreadable hhead
  refine (h setting tokens hreadable hhead).bind ?_ (fun value => (hnext value).productive) hmarks
  intro value rest hok hsuffix
  have hlength := hprogressive.progress setting tokens value rest hok
  have hlt := hreadable.length_lt
  exact (hnext value).explained rest.head? setting rest
    (hreadable.of_suffix hsuffix (by omega)) rfl

theorem weaken {smaller : Nat} (h : ExplainedAt reading phrase bound head)
    (hsmaller : smaller ≤ bound) : ExplainedAt reading phrase smaller head :=
  fun setting tokens hreadable hhead => h setting tokens
    (hreadable.of_suffix List.suffix_rfl (Nat.lt_of_lt_of_le hreadable.length_lt hsmaller)) hhead

end ExplainedAt

namespace Explained

variable {reading : Reading α} {phrase : Phrase α} {bound : Nat} {kinds : List Kind}

theorem mono {wider : Phrase α} (h : Explained reading phrase bound kinds)
    (hwider : ∀ source tokens value, phrase source tokens value → wider source tokens value) :
    Explained reading wider bound kinds :=
  ⟨h.productive.mono hwider, fun head => (h.explained head).mono hwider⟩

theorem weaken {smaller : Nat} (h : Explained reading phrase bound kinds)
    (hsmaller : smaller ≤ bound) : Explained reading phrase smaller kinds :=
  ⟨h.productive, fun head => (h.explained head).weaken hsmaller⟩

theorem of_productive (h : Productive phrase kinds) : Explained reading phrase 0 kinds :=
  ⟨h, fun _ _ _ hreadable => absurd hreadable.length_lt (Nat.not_lt_zero _)⟩

theorem pure (value : α) : Explained (Pure.pure value) (Phrase.nothing value) bound [] :=
  ⟨.nothing value, fun _ => .done (fun _ => ⟨rfl, rfl⟩) fun _ _ _ _ => rfl⟩

theorem bind {next : α → Reading β} {following : α → Phrase β} {more : List Kind}
    (h : Explained reading phrase bound kinds)
    (hnext : ∀ value, Explained (next value) (following value) bound more)
    (hmarks : Kind.marks more = 0) :
    Explained (reading >>= next) (phrase.andThen following) bound (kinds ++ more) :=
  ⟨h.productive.andThen fun value => (hnext value).productive,
    fun head => (h.explained head).bind hnext hmarks⟩

theorem inLevel (h : Explained reading phrase bound kinds) :
    Explained (inLevel reading) phrase bound kinds :=
  ⟨h.productive, fun head setting tokens hreadable hhead =>
    (h.explained head setting tokens hreadable hhead).inLevel⟩

theorem expect_bind (kind : Kind) {next : Token → Reading β} {following : Token → Phrase β}
    (hnext : ∀ token, token.kind = kind →
      Explained (next token) (following token) bound kinds)
    (hmarks : Kind.marks (kind :: kinds) ≤ 1) :
    Explained (expect kind >>= next) (Phrase.expected kind following) bound
      (kind :: kinds) := by
  have hproductive : Productive (Phrase.expected kind following) (kind :: kinds) :=
    .expected fun token hkind => (hnext token hkind).productive
  refine ⟨hproductive, fun head => ?_⟩
  cases head with
  | none => exact .short _ hproductive hmarks fun _ _ => rfl
  | some token =>
      by_cases hkind : token.kind = kind
      · refine (ExplainedAt.consume (hnext token hkind) ?_ ?_).weaken (Nat.le_succ bound)
        · exact fun source rest value h => ⟨token, rest, rfl, hkind, h⟩
        · exact fun setting rest _ => expect_bind_cons hkind next
      · refine .refused (.unexpectedToken kind ·) hproductive hmarks (by simp) ?_
        intro setting rest lexeme _ hlexeme
        exact bind_of_error (expect_cons_of_ne hkind hlexeme) next

end Explained

end FrontEnd
