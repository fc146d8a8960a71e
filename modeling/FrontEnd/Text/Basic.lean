/-!
Source text as a list of characters. Positions in a text are counted in the bytes of its UTF-8
form, so a cut can fall inside a character; every operation that cuts says so in its type.
-/

namespace FrontEnd

/-- Source text. -/
abbrev Text := List Char

namespace Text

def byteLength : Text → Nat
  | [] => 0
  | character :: rest => character.utf8Size + byteLength rest

def bytes (text : Text) : List UInt8 :=
  text.flatMap String.utf8EncodeChar

/-- What follows the first `count` bytes; nothing when the text is shorter than that or the cut
falls inside a character. -/
def dropBytes? : Nat → Text → Option Text
  | 0, text => some text
  | _ + 1, [] => none
  | count + 1, character :: rest =>
      if character.utf8Size ≤ count + 1 then
        dropBytes? (count + 1 - character.utf8Size) rest
      else
        none

/-- The first `count` bytes; nothing when the text is shorter than that or the cut falls inside a
character. -/
def takeBytes? : Nat → Text → Option Text
  | 0, _ => some []
  | _ + 1, [] => none
  | count + 1, character :: rest =>
      if character.utf8Size ≤ count + 1 then
        (takeBytes? (count + 1 - character.utf8Size) rest).map (character :: ·)
      else
        none

@[simp]
theorem byteLength_nil : byteLength [] = 0 := rfl

@[simp]
theorem byteLength_cons (character : Char) (rest : Text) :
    byteLength (character :: rest) = character.utf8Size + byteLength rest := rfl

@[simp]
theorem byteLength_append (first second : Text) :
    byteLength (first ++ second) = byteLength first + byteLength second := by
  induction first with
  | nil => simp
  | cons character rest ih => simp [ih, Nat.add_assoc]

/-- A cut at a byte position splits a text in two, the first part being as long as asked. -/
theorem dropBytes?_eq_some_iff {count : Nat} {text after : Text} :
    dropBytes? count text = some after ↔
      ∃ before, text = before ++ after ∧ byteLength before = count := by
  induction text generalizing count with
  | nil =>
      cases count with
      | zero =>
          simp only [dropBytes?, Option.some.injEq]
          constructor
          · rintro rfl
            exact ⟨[], rfl, rfl⟩
          · rintro ⟨before, hbefore, -⟩
            exact (List.append_eq_nil_iff.1 hbefore.symm).2.symm
      | succ count =>
          simp only [dropBytes?, reduceCtorEq, false_iff]
          rintro ⟨before, hbefore, hlength⟩
          simp [(List.append_eq_nil_iff.1 hbefore.symm).1] at hlength
  | cons character rest ih =>
      have positive := character.utf8Size_pos
      cases count with
      | zero =>
          simp only [dropBytes?, Option.some.injEq]
          constructor
          · rintro rfl
            exact ⟨[], rfl, rfl⟩
          · rintro ⟨before, hbefore, hlength⟩
            cases before with
            | nil => exact hbefore
            | cons first others =>
                have := first.utf8Size_pos
                simp only [byteLength_cons] at hlength
                omega
      | succ count =>
          simp only [dropBytes?]
          split
          next fits =>
            rw [ih]
            constructor
            · rintro ⟨before, rfl, hlength⟩
              exact ⟨character :: before, rfl, by simp only [byteLength_cons]; omega⟩
            · rintro ⟨before, hbefore, hlength⟩
              cases before with
              | nil => simp at hlength
              | cons first others =>
                  obtain ⟨rfl, rfl⟩ := List.cons.inj hbefore
                  simp only [byteLength_cons] at hlength
                  exact ⟨others, rfl, by omega⟩
          next long =>
            constructor
            · simp
            · rintro ⟨before, hbefore, hlength⟩
              cases before with
              | nil => simp at hlength
              | cons first others =>
                  obtain ⟨rfl, rfl⟩ := List.cons.inj hbefore
                  simp only [byteLength_cons] at hlength
                  omega

/-- A text begins with what is taken of it, and that is as long as asked. -/
theorem takeBytes?_eq_some_iff {count : Nat} {text before : Text} :
    takeBytes? count text = some before ↔ before <+: text ∧ byteLength before = count := by
  induction text generalizing count before with
  | nil =>
      cases count with
      | zero =>
          simp only [takeBytes?, Option.some.injEq, List.prefix_nil]
          constructor
          · rintro rfl
            exact ⟨rfl, rfl⟩
          · exact fun h => h.1.symm
      | succ count =>
          simp only [takeBytes?, List.prefix_nil, reduceCtorEq, false_iff, not_and]
          rintro rfl
          simp
  | cons character rest ih =>
      have positive := character.utf8Size_pos
      cases count with
      | zero =>
          simp only [takeBytes?, Option.some.injEq]
          constructor
          · rintro rfl
            exact ⟨List.nil_prefix, rfl⟩
          · rintro ⟨-, hlength⟩
            cases before with
            | nil => rfl
            | cons first others =>
                have := first.utf8Size_pos
                simp only [byteLength_cons] at hlength
                omega
      | succ count =>
          cases before with
          | nil =>
              simp only [takeBytes?]
              split <;> simp
          | cons first others =>
              simp only [takeBytes?, byteLength_cons, List.cons_prefix_cons]
              split
              next fits =>
                simp only [Option.map_eq_some_iff, List.cons.injEq, ih]
                constructor
                · rintro ⟨taken, ⟨hbegins, hlength⟩, rfl, rfl⟩
                  exact ⟨⟨rfl, hbegins⟩, by omega⟩
                · rintro ⟨⟨rfl, hbegins⟩, hlength⟩
                  exact ⟨others, ⟨hbegins, by omega⟩, rfl, rfl⟩
              next long =>
                simp only [reduceCtorEq, false_iff, not_and]
                rintro ⟨rfl, -⟩ hlength
                omega

end Text

/-- A stretch of source text: the bytes from `start` up to, but not including, `stop`. -/
structure Span where
  start : Nat
  stop : Nat
  deriving DecidableEq, Repr

namespace Span

def length (span : Span) : Nat :=
  span.stop - span.start

def isEmpty (span : Span) : Bool :=
  span.start == span.stop

/-- The text that a span covers; nothing when the span is reversed, reaches beyond the text or
ends inside a character. -/
def slice? (span : Span) (text : Text) : Option Text :=
  if span.start ≤ span.stop then
    (text.dropBytes? span.start).bind (Text.takeBytes? span.length)
  else
    none

theorem slice?_eq_some_iff {span : Span} {text covered : Text} :
    span.slice? text = some covered ↔
      ∃ before after, text = before ++ covered ++ after ∧ before.byteLength = span.start ∧
        span.start + covered.byteLength = span.stop := by
  simp only [slice?]
  split
  next ordered =>
    simp only [Option.bind_eq_some_iff, Text.dropBytes?_eq_some_iff, Text.takeBytes?_eq_some_iff,
      length]
    constructor
    · rintro ⟨tail, ⟨before, rfl, hstart⟩, ⟨after, rfl⟩, hlength⟩
      exact ⟨before, after, by simp, hstart, by omega⟩
    · rintro ⟨before, after, rfl, hstart, hstop⟩
      exact ⟨covered ++ after, ⟨before, by simp, hstart⟩, List.prefix_append .., by omega⟩
  next reversed =>
    simp only [reduceCtorEq, false_iff, not_exists, not_and]
    intro before after _ _ hstop
    omega

end Span

end FrontEnd
