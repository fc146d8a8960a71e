import FrontEnd.Proofs.Scan.Spelling
import FrontEnd.Text.Integer
import Mathlib.Data.Nat.Digits.Lemmas
import Mathlib.Tactic.Ring

namespace FrontEnd

namespace Grammar

open Scan

/-- The value of decimal digits, the first being the most significant. -/
def decimal (digits : Text) : Nat :=
  Nat.ofDigits 10 (digits.reverse.map fun digit => digit.toNat - '0'.toNat)

theorem foldl_digits (digits : Text) (initial : Nat) :
    digits.foldl (fun value digit => value * 10 + (digit.toNat - '0'.toNat)) initial =
      initial * 10 ^ digits.length + decimal digits := by
  induction digits generalizing initial with
  | nil => simp [decimal]
  | cons digit rest ih =>
      rw [List.foldl_cons, ih]
      simp only [decimal, List.reverse_cons, List.map_append, List.map_cons, List.map_nil,
        Nat.ofDigits_append, Nat.ofDigits_singleton, List.length_map, List.length_reverse,
        List.length_cons, pow_succ]
      ring

theorem digits?_of_isNumeral {text : Text} (h : IsNumeral text) :
    text.digits? = some (decimal text) := by
  have hall : text ≠ [] ∧ text.all Char.isDigit := ⟨h.1, List.all_eq_true.mpr h.2⟩
  rw [Text.digits?, if_pos hall, foldl_digits]
  simp

theorem integer?_of_isNumeral {text : Text} (h : IsNumeral text) :
    text.integer? = some (decimal text : Int) := by
  have hnatural : text.natural? = some (decimal text) := by
    rw [← digits?_of_isNumeral h]
    unfold Text.natural?
    split
    next digits => exact absurd (h.2 '+' List.mem_cons_self) (by decide)
    next => rfl
  unfold Text.integer?
  split
  next digits => exact absurd (h.2 '-' List.mem_cons_self) (by decide)
  next =>
    rw [hnatural]
    rfl

theorem int32?_of_isNumeral {text : Text} (h : IsNumeral text) :
    text.int32? = if decimal text ≤ 2 ^ 31 - 1 then some (decimal text : Int) else none := by
  rw [Text.int32?, integer?_of_isNumeral h, Option.filter_some]
  by_cases hfits : decimal text ≤ 2 ^ 31 - 1
  · rw [if_pos hfits, if_pos]
    simp only [decide_eq_true_eq]
    omega
  · rw [if_neg hfits, if_neg]
    simp only [decide_eq_true_eq]
    omega

end Grammar

end FrontEnd
