import Mathlib.Data.Nat.ModEq
import Mathlib.Logic.Function.Basic

/-!
# Mixing steps of words

The steps from which bit mixers are composed lose nothing: a xor with a word shifted towards the low
end, and a multiplication by an odd number.
-/

namespace Lib

/-- A word is determined by its xor with itself shifted right. -/
theorem xorShiftRight_injective {amount : UInt64} (shifts : amount.toNat % 64 ≠ 0) :
    Function.Injective fun word : UInt64 => word ^^^ (word >>> amount) := by
  intro left right same
  -- What differs between the words is fixed by the shift, and the shift makes it smaller.
  have fixed : left ^^^ right = (left ^^^ right) >>> amount := by
    calc
      left ^^^ right = (left ^^^ left >>> amount) ^^^ (left >>> amount ^^^ right) := by
        rw [UInt64.xor_assoc, ← UInt64.xor_assoc (left >>> amount), UInt64.xor_self,
          UInt64.zero_xor]
      _ = (right ^^^ right >>> amount) ^^^ (left >>> amount ^^^ right) := by
        rw [show left ^^^ left >>> amount = right ^^^ right >>> amount from same]
      _ = (right >>> amount ^^^ right) ^^^ (right ^^^ left >>> amount) := by
        rw [UInt64.xor_comm right, UInt64.xor_comm right]
      _ = left >>> amount ^^^ right >>> amount := by
        rw [UInt64.xor_assoc, ← UInt64.xor_assoc right, UInt64.xor_self, UInt64.zero_xor,
          UInt64.xor_comm]
      _ = (left ^^^ right) >>> amount := UInt64.shiftRight_xor.symm
  have halved := congrArg UInt64.toNat fixed
  rw [UInt64.toNat_shiftRight, Nat.shiftRight_eq_div_pow] at halved
  have zero : (left ^^^ right).toNat = 0 := by
    by_contra positive
    have smaller := Nat.div_lt_self (Nat.pos_of_ne_zero positive) (Nat.one_lt_two_pow shifts)
    omega
  exact UInt64.xor_eq_zero_iff.mp (UInt64.toNat_inj.mp zero)

/-- Multiplication by an odd number loses nothing modulo a power of two. -/
theorem mul_odd_injective {factor : UInt64} (odd : factor.toNat % 2 = 1) :
    Function.Injective fun word : UInt64 => word * factor := by
  intro left right same
  have modular : left.toNat * factor.toNat ≡ right.toNat * factor.toNat [MOD 2 ^ 64] := by
    have values := congrArg UInt64.toNat same
    rwa [UInt64.toNat_mul, UInt64.toNat_mul] at values
  have coprime : Nat.gcd (2 ^ 64) factor.toNat = 1 := by
    apply Nat.Coprime.pow_left
    rw [Nat.Coprime, Nat.gcd_rec, odd, Nat.gcd_one_left]
  have equal := Nat.ModEq.cancel_right_of_coprime coprime modular
  apply UInt64.toNat_inj.mp
  exact Nat.ModEq.eq_of_lt_of_lt equal left.toNat_lt right.toNat_lt

end Lib
