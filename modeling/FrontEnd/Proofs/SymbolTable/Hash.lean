import FrontEnd.SymbolTable.Basic
import Mathlib.Algebra.BigOperators.Fin
import Mathlib.Data.Nat.ModEq
import Mathlib.Tactic.Ring

namespace FrontEnd

namespace SymbolTable

/-- Takes in bytes from any value on. -/
def hashFrom (value : UInt32) (bytes : List UInt8) : UInt32 :=
  bytes.foldl (fun value byte => value * 33 + byte.toUInt32) value

theorem hash_append (bytes ending : List UInt8) :
    hash (bytes ++ ending) = hashFrom (hash bytes) ending :=
  List.foldl_append

/-- What the bytes add to a hash: the last one counts once, each one before it 33 times as much as
the next. -/
def weighted (bytes : List UInt8) : Nat :=
  ∑ index : Fin bytes.length, (bytes.get index).toNat * 33 ^ (bytes.length - 1 - index)

theorem weighted_cons (byte : UInt8) (rest : List UInt8) :
    weighted (byte :: rest) = byte.toNat * 33 ^ rest.length + weighted rest := by
  have hexponent (index : Fin rest.length) :
      (byte :: rest).length - 1 - index.succ = rest.length - 1 - index := by
    rw [List.length_cons, Fin.val_succ]
    omega
  calc
    weighted (byte :: rest)
        = byte.toNat * 33 ^ rest.length + ∑ index : Fin rest.length,
            (rest.get index).toNat * 33 ^ ((byte :: rest).length - 1 - index.succ) :=
          Fin.sum_univ_succ _
    _ = byte.toNat * 33 ^ rest.length + weighted rest := by simp only [hexponent, weighted]

theorem toNat_mul_add (value : UInt32) (byte : UInt8) :
    (value * 33 + byte.toUInt32).toNat = (value.toNat * 33 + byte.toNat) % 2 ^ 32 := by
  rw [UInt32.toNat_add, UInt32.toNat_mul, UInt8.toNat_toUInt32, Nat.mod_add_mod]
  rfl

theorem toNat_hashFrom (value : UInt32) (bytes : List UInt8) :
    (hashFrom value bytes).toNat = (value.toNat * 33 ^ bytes.length + weighted bytes) % 2 ^ 32 := by
  induction bytes generalizing value with
  | nil =>
      change value.toNat = (value.toNat * 33 ^ 0 + 0) % 2 ^ 32
      rw [pow_zero, Nat.mul_one, Nat.add_zero, Nat.mod_eq_of_lt value.toNat_lt]
  | cons byte rest ih =>
      -- The remainder taken at the first byte is lost in the one taken at the end.
      have hcut : (value.toNat * 33 + byte.toNat) % 2 ^ 32 * 33 ^ rest.length + weighted rest ≡
          (value.toNat * 33 + byte.toNat) * 33 ^ rest.length + weighted rest [MOD 2 ^ 32] :=
        ((Nat.mod_modEq _ _).mul_right _).add_right _
      calc
        (hashFrom value (byte :: rest)).toNat
            = (hashFrom (value * 33 + byte.toUInt32) rest).toNat := rfl
        _ = ((value.toNat * 33 + byte.toNat) % 2 ^ 32 * 33 ^ rest.length + weighted rest) %
              2 ^ 32 := by rw [ih, toNat_mul_add]
        _ = ((value.toNat * 33 + byte.toNat) * 33 ^ rest.length + weighted rest) % 2 ^ 32 := hcut
        _ = (value.toNat * 33 ^ (byte :: rest).length + weighted (byte :: rest)) % 2 ^ 32 := by
            rw [weighted_cons, List.length_cons, pow_succ]
            ring_nf

theorem hashFrom_inj {value other : UInt32} {bytes : List UInt8} :
    hashFrom value bytes = hashFrom other bytes ↔ value = other := by
  constructor
  · intro h
    have hsum : value.toNat * 33 ^ bytes.length + weighted bytes ≡
        other.toNat * 33 ^ bytes.length + weighted bytes [MOD 2 ^ 32] := by
      rw [Nat.ModEq, ← toNat_hashFrom, ← toNat_hashFrom, h]
    have hproduct := Nat.ModEq.add_right_cancel' _ hsum
    have hcoprime : Nat.Coprime (2 ^ 32) (33 ^ bytes.length) :=
      Nat.Coprime.pow _ _ (by decide)
    have hvalue := Nat.ModEq.cancel_right_of_coprime hcoprime hproduct
    exact UInt32.toNat_inj.mp (hvalue.eq_of_lt_of_lt value.toNat_lt other.toNat_lt)
  · intro h
    rw [h]

/-- The hash of bytes is a polynomial at 33 with the bytes as its coefficients, cut down to 32 bits;
and bytes before a common ending collide exactly if they do without it. -/
theorem toNat_hash_and_hash_append_inj :
    (∀ bytes : List UInt8, (hash bytes).toNat =
      (5381 * 33 ^ bytes.length +
        ∑ index : Fin bytes.length, (bytes.get index).toNat * 33 ^ (bytes.length - 1 - index)) %
          2 ^ 32) ∧
    ∀ first second ending : List UInt8,
      hash (first ++ ending) = hash (second ++ ending) ↔ hash first = hash second := by
  constructor
  · intro bytes
    exact toNat_hashFrom 5381 bytes
  · intro first second ending
    rw [hash_append, hash_append]
    exact hashFrom_inj

example : hash (Text.bytes "ab".toList) = hash (Text.bytes "bA".toList) := by decide

end SymbolTable

end FrontEnd
