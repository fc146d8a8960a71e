import FrontEnd.Proofs.Grammar.Numeral
import FrontEnd.Proofs.Grammar.ReadingLaws
import FrontEnd.Proofs.Scan.Continuation

/-!
What a token is refused as. The kinds of the last two tokens before it tell the site where it
stands: where a value has to begin, after the name of a member, in the parameters of a function, or
where a type has to be written. At each site some kinds begin a construct for which there is no
rule; everywhere else a token that does not fit is just not the expected one.

Readings are followed from site to site: what is known of the kinds before a reading, and what is
known after it, composes as the readings do.
-/

namespace FrontEnd

open Reads Reading

/-- The sites at which constructs are refused for want of a rule. -/
inductive Site where
  | value
  | member
  | parameters
  | type
  deriving DecidableEq

namespace Site

/-- The site after tokens of some kinds, the last one first. -/
def ofKinds? : List Kind → Option Site
  | .returnKeyword :: _ | .assignment :: _ | .plusEquals :: _ | .minusEquals :: _ | .plus :: _
  | .dash :: _ => some value
  | .identifier :: .dot :: _ => some member
  | .openParen :: _ | .selfKeyword :: .openParen :: _ | .selfKeyword :: .star :: _ =>
      some parameters
  | .colon :: _ | .arrow :: _ => some type
  | _ => none

/-- The construct that a token of some kind would begin. -/
def construct? : Site → Kind → Option String
  | value, .identifier | value, .selfKeyword => some "identifier expression"
  | value, .openParen => some "parenthesized expression"
  | value, .dash => some "unary expression"
  | member, .colonColon => some "method reference"
  | member, .openParen => some "method call"
  | parameters, .identifier | parameters, .comma => some "function parameters"
  | type, .structKeyword => some "anonymous struct type"
  | _, _ => none

/-- Tokens of these kinds, the last one first, lead to the site. -/
def At (site : Site) (kinds : List Kind) : Prop :=
  ofKinds? kinds = some site

/-- Tokens of these kinds lead to no site. -/
def Elsewhere (kinds : List Kind) : Prop :=
  ofKinds? kinds = none

theorem At.iff {site : Site} {kinds : List Kind} (h : At site kinds) (other : Site) :
    At other kinds ↔ site = other := by
  rw [At, h, Option.some_inj]

end Site

open Site

/-- No construct is begun by a token of some kind after the given ones, nor a number. -/
def Unclaimed (kinds : List Kind) (kind : Kind) : Prop :=
  ∀ site, At site kinds → site.construct? kind = none ∧ (site = .value → kind ≠ .number)

theorem Unclaimed.of_elsewhere {kinds : List Kind} {kind : Kind} (h : Elsewhere kinds) :
    Unclaimed kinds kind := by
  intro site hsite
  cases h.symm.trans hsite

theorem Unclaimed.of_at {site : Site} {kinds : List Kind} {kind : Kind} (h : At site kinds)
    (hkind : site.construct? kind = none ∧ (site = .value → kind ≠ .number)) :
    Unclaimed kinds kind := by
  intro other hother
  rwa [← (h.iff other).mp hother]

/-- The causes for which a token may be refused after tokens of some kinds. -/
inductive Cause.Classifies (source : Text) (kinds : List Kind) (token : Token) : Cause → Prop
  | unsupported {site : Site} {construct : String} : At site kinds →
      site.construct? token.kind = some construct →
        Classifies source kinds token (.unsupported construct)
  | number {text : Text} : At .value kinds → token.kind = .number →
      token.lexeme? source = some text → 2 ^ 31 - 1 < Grammar.decimal text →
        Classifies source kinds token (.numberOutOfRange text)
  | unexpected {expected : Kind} {found : Text} : Unclaimed kinds token.kind →
      Classifies source kinds token (.unexpectedToken expected found)
  | misplaced {text : Text} {message : String} : Unclaimed kinds token.kind →
      Classifies source kinds token (.misplacedToken text message)

/-- The kinds of tokens that were passed over, the last one first, before those of earlier ones. -/
def kindsAfter (kinds : List Kind) (passed : List Token) : List Kind :=
  (passed.map Token.kind).reverse ++ kinds

theorem kindsAfter_append (kinds : List Kind) (first second : List Token) :
    kindsAfter kinds (first ++ second) = kindsAfter (kindsAfter kinds first) second := by
  simp [kindsAfter]

namespace Reading

variable {α β : Type} {setting : Setting}

/-- How a reading may end that begins after tokens of some kinds. Of its value, of the kinds before
what is left and of what is left something is known; and a token is refused as its site demands. -/
inductive Ends (source : Text) (leaves : α → List Kind → List Token → Prop) (kinds : List Kind)
    (tokens : List Token) : Outcome α → Prop
  | ok {value : α} {rest : List Token} (passed : List Token) : tokens = passed ++ rest →
      leaves value (kindsAfter kinds passed) rest → Ends source leaves kinds tokens (.ok value rest)
  | missing {cause : Cause} {line : Nat} {rest : List Token} :
      Ends source leaves kinds tokens (.error ⟨cause, line, none⟩ rest)
  | stopped {limit line : Nat} {span : Option Span} {rest : List Token} :
      Ends source leaves kinds tokens (.error ⟨.nestingTooDeep limit, line, span⟩ rest)
  | refused {later rest : List Token} {token : Token} {cause : Cause} {line : Nat}
      (passed : List Token) : tokens = passed ++ token :: later →
      cause.Classifies source (kindsAfter kinds passed) token →
        Ends source leaves kinds tokens (.error ⟨cause, line, some token.span⟩ rest)

/-- A reading that ends so wherever something is known of the kinds before it and of the tokens. -/
def Tracks (setting : Setting) (enters : List Kind → List Token → Prop)
    (leaves : α → List Kind → List Token → Prop) (reading : Reading α) : Prop :=
  ∀ kinds tokens, Spelled setting.source tokens → enters kinds tokens →
    Ends setting.source leaves kinds tokens (reading setting tokens)

namespace Tracks

variable {enters : List Kind → List Token → Prop} {leaves : α → List Kind → List Token → Prop}
  {results : β → List Kind → List Token → Prop}

theorem enter {narrower : List Kind → List Token → Prop} {reading : Reading α}
    (h : Tracks setting enters leaves reading)
    (henters : ∀ kinds tokens, narrower kinds tokens → enters kinds tokens) :
    Tracks setting narrower leaves reading :=
  fun kinds tokens hspelled hknown => h kinds tokens hspelled (henters kinds tokens hknown)

theorem leave {wider : α → List Kind → List Token → Prop} {reading : Reading α}
    (h : Tracks setting enters leaves reading)
    (hleaves : ∀ value kinds tokens, leaves value kinds tokens → wider value kinds tokens) :
    Tracks setting enters wider reading := by
  intro kinds tokens hspelled hknown
  have hends := h kinds tokens hspelled hknown
  generalize reading setting tokens = outcome at hends
  cases hends with
  | ok passed hsplit hvalue => exact .ok passed hsplit (hleaves _ _ _ hvalue)
  | missing => exact .missing
  | stopped => exact .stopped
  | refused passed hsplit hcause => exact .refused passed hsplit hcause

theorem pure {value : α} (h : ∀ kinds tokens, enters kinds tokens → leaves value kinds tokens) :
    Tracks setting enters leaves (Pure.pure value) :=
  fun kinds tokens _ hknown => .ok [] rfl (h kinds tokens hknown)

theorem bind {reading : Reading α} {next : α → Reading β}
    (h : Tracks setting enters leaves reading)
    (hnext : ∀ value, Tracks setting (leaves value) results (next value)) :
    Tracks setting enters results (reading >>= next) := by
  intro kinds tokens hspelled hknown
  have hfirst := h kinds tokens hspelled hknown
  generalize houtcome : reading setting tokens = outcome at hfirst
  cases hfirst with
  | @ok value rest passed hsplit hvalue =>
      subst hsplit
      have hrest : Spelled setting.source rest :=
        fun token htoken => hspelled token (List.mem_append_right passed htoken)
      have hlast := hnext value _ rest hrest hvalue
      rw [bind_of_ok houtcome]
      generalize next value setting rest = last at hlast
      cases hlast with
      | ok more hsplit hresult =>
          refine .ok (passed ++ more) (by rw [hsplit, List.append_assoc]) ?_
          rwa [kindsAfter_append]
      | missing => exact .missing
      | stopped => exact .stopped
      | refused more hsplit hcause =>
          refine .refused (passed ++ more) (by rw [hsplit, List.append_assoc]) ?_
          rwa [kindsAfter_append]
  | missing =>
      rw [bind_of_error houtcome]
      exact .missing
  | stopped =>
      rw [bind_of_error houtcome]
      exact .stopped
  | refused passed hsplit hcause =>
      rw [bind_of_error houtcome]
      exact .refused passed hsplit hcause

theorem kind? : Tracks setting enters
    (fun kind kinds rest => kind = rest.head?.map Token.kind ∧ enters kinds rest) Reads.kind? :=
  fun _ _ _ hknown => .ok [] rfl ⟨rfl, hknown⟩

theorem current? : Tracks setting enters
    (fun current kinds rest => current = rest.head? ∧ enters kinds rest) Reads.current? :=
  fun _ _ _ hknown => .ok [] rfl ⟨rfl, hknown⟩

theorem peek? (distance : Nat) : Tracks setting enters (fun _ => enters) (Reads.peek? distance) :=
  fun _ _ _ hknown => .ok [] rfl hknown

theorem remaining : Tracks setting enters (fun _ => enters) Reads.remaining :=
  fun _ _ _ hknown => .ok [] rfl hknown

theorem rules_bind (hrules : setting.rules = .standard) {next : Rules → Reading α}
    (h : Tracks setting enters leaves (next .standard)) :
    Tracks setting enters leaves (rules >>= next) := by
  intro kinds tokens hspelled hknown
  rw [Reading.rules_bind, hrules]
  exact h kinds tokens hspelled hknown

theorem tooDeep : Tracks setting enters leaves tooDeep :=
  fun _ _ _ _ => .stopped

theorem currentOr_bind (expected : String) {next : Token → Reading α}
    (h : ∀ token text, token.lexeme? setting.source = some text →
      Tracks setting (fun kinds rest => rest.head? = some token ∧ enters kinds rest) leaves
        (next token)) :
    Tracks setting enters leaves (currentOr expected >>= next) := by
  intro kinds tokens hspelled hknown
  cases tokens with
  | nil => exact .missing
  | cons token tokens =>
      obtain ⟨text, htext, -⟩ := hspelled token List.mem_cons_self
      rw [currentOr_bind_cons]
      exact h token text htext kinds (token :: tokens) hspelled ⟨rfl, hknown⟩

theorem lexeme_bind {token : Token} {text : Text} {next : Text → Reading α}
    (htext : token.lexeme? setting.source = some text)
    (h : Tracks setting enters leaves (next text)) :
    Tracks setting enters leaves (lexeme token >>= next) := by
  intro kinds tokens hspelled hknown
  rw [Reading.lexeme_bind htext]
  exact h kinds tokens hspelled hknown

theorem skip {results : List Kind → List Token → Prop} (hsome : ∀ kinds, ¬enters kinds [])
    (hpass : ∀ kinds token rest, enters kinds (token :: rest) →
      results (token.kind :: kinds) rest) :
    Tracks setting enters (fun _ => results) Reads.skip := by
  intro kinds tokens _ hknown
  cases tokens with
  | nil => exact absurd hknown (hsome kinds)
  | cons token tokens => exact .ok [token] rfl (hpass kinds token tokens hknown)

theorem skip_kind (kind : Kind) {next : List Kind → Prop}
    (h : ∀ kinds tokens, enters kinds tokens →
      tokens.head?.map Token.kind = some kind ∧ next (kind :: kinds)) :
    Tracks setting enters (fun _ kinds _ => next kinds) Reads.skip := by
  refine skip (fun kinds hknown => ?_) fun kinds token rest hknown => ?_
  · cases (h kinds [] hknown).1
  · obtain ⟨hkind, hnext⟩ := h kinds (token :: rest) hknown
    rw [← Option.some.inj hkind] at hnext
    exact hnext

theorem skip_token {token : Token} {kind : Kind} (hkind : token.kind = kind)
    {next : List Kind → Prop} (h : ∀ kinds, next (kind :: kinds)) :
    Tracks setting (fun _ tokens => tokens.head? = some token) (fun _ kinds _ => next kinds)
      Reads.skip := by
  refine skip_kind kind fun kinds tokens hhead => ⟨?_, h kinds⟩
  rw [hhead, Option.map_some, hkind]

theorem advanceOr (expected : String) {results : Token → List Kind → List Token → Prop}
    (hpass : ∀ kinds token rest, enters kinds (token :: rest) →
      results token (token.kind :: kinds) rest) :
    Tracks setting enters results (Reads.advanceOr expected) := by
  intro kinds tokens _ hknown
  cases tokens with
  | nil => exact .missing
  | cons token tokens => exact .ok [token] rfl (hpass kinds token tokens hknown)

theorem expect (kind : Kind) {results : Token → List Kind → List Token → Prop}
    (hother : ∀ kinds token rest, enters kinds (token :: rest) → token.kind ≠ kind →
      Unclaimed kinds token.kind)
    (hpass : ∀ kinds token rest, enters kinds (token :: rest) →
      results token (kind :: kinds) rest) :
    Tracks setting enters results (Reads.expect kind) := by
  intro kinds tokens hspelled hknown
  cases tokens with
  | nil => exact .missing
  | cons token tokens =>
      by_cases hkind : token.kind = kind
      · rw [expect_cons hkind]
        refine .ok [token] rfl ?_
        have hresult := hpass kinds token tokens hknown
        rw [← hkind] at hresult
        exact hresult
      · obtain ⟨text, htext, -⟩ := hspelled token List.mem_cons_self
        rw [expect_cons_of_ne hkind htext]
        exact .refused [] rfl (.unexpected (hother kinds token tokens hknown hkind))

theorem unexpected {token : Token} (message : String)
    (h : ∀ kinds rest, enters kinds rest → rest.head? = some token ∧ Unclaimed kinds token.kind) :
    Tracks setting enters leaves (Reads.unexpected token message) := by
  intro kinds tokens hspelled hknown
  obtain ⟨hhead, hunclaimed⟩ := h kinds tokens hknown
  obtain ⟨rest, rfl⟩ := List.head?_eq_some_iff.mp hhead
  obtain ⟨text, htext, -⟩ := hspelled token List.mem_cons_self
  rw [unexpected_apply htext]
  exact .refused [] rfl (.misplaced hunclaimed)

theorem unsupported {token : Token} {construct : String} (site : Site)
    (h : ∀ kinds rest, enters kinds rest → rest.head? = some token ∧
      At site kinds ∧ site.construct? token.kind = some construct) :
    Tracks setting enters leaves (Reads.unsupported token construct) := by
  intro kinds tokens _ hknown
  obtain ⟨hhead, hsite, hconstruct⟩ := h kinds tokens hknown
  obtain ⟨rest, rfl⟩ := List.head?_eq_some_iff.mp hhead
  exact .refused [] rfl (.unsupported hsite hconstruct)

theorem inLevel {reading : Reading α} (h : Tracks setting enters leaves reading) :
    Tracks setting enters leaves (inLevel reading) := by
  intro kinds tokens hspelled hknown
  have hends := h kinds tokens hspelled hknown
  rw [Reading.inLevel]
  generalize reading setting tokens = outcome at hends
  cases hends with
  | ok passed hsplit hvalue => exact .ok passed hsplit hvalue
  | missing => exact .missing
  | stopped => exact .stopped
  | refused passed hsplit hcause => exact .refused passed hsplit hcause

end Tracks

/-- A reading of which only the kinds before it and after it are known. -/
def Leads (setting : Setting) (known next : List Kind → Prop) (reading : Reading α) : Prop :=
  Tracks setting (fun kinds _ => known kinds) (fun _ kinds _ => next kinds) reading

theorem Leads.expect (kind : Kind) {known next : List Kind → Prop}
    (hsite : ∀ kinds, known kinds → Elsewhere kinds)
    (hnext : ∀ kinds, known kinds → next (kind :: kinds)) :
    Leads setting known next (Reads.expect kind) :=
  Tracks.expect kind (fun kinds _ _ hknown _ => .of_elsewhere (hsite kinds hknown))
    fun kinds _ _ hknown => hnext kinds hknown

end Reading

end FrontEnd
