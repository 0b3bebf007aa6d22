import ExperimentFabric.Lib.Codec
import Mathlib.Logic.Function.Iterate
import Mathlib.Data.BitVec

/-!
# Shift registers

A checksum register of any width loses one bit at a time, and the polynomial is added whenever a one
is lost.  The shift is linear and, when the polynomial has its top bit, injective; so a register
that has absorbed a byte string determines what it held before, and no change that is confined to a
window as wide as the register leaves it as it was.
-/

namespace Lib.Register

variable {w : Nat}

/-- One bit leaves the register. -/
def shift (poly value : BitVec w) : BitVec w :=
  if value.getLsbD 0 then poly ^^^ (value >>> 1) else value >>> 1

/-- A byte enters the register. -/
def absorb (poly state : BitVec w) (byte : UInt8) : BitVec w :=
  (shift poly)^[8] (state ^^^ BitVec.ofNat w byte.toNat)

/-- A byte string enters the register. -/
def run (poly state : BitVec w) (bytes : List UInt8) : BitVec w :=
  bytes.foldl (absorb poly) state

/-! ## One bit -/

theorem shift_xor (poly left right : BitVec w) :
    shift poly (left ^^^ right) = shift poly left ^^^ shift poly right := by
  unfold shift
  rw [BitVec.getLsbD_xor, BitVec.ushiftRight_xor_distrib]
  cases left.getLsbD 0 <;> cases right.getLsbD 0
  · rfl
  · simp only [Bool.false_bne, if_true, Bool.false_eq_true, if_false]
    ac_rfl
  · simp only [Bool.true_bne, Bool.not_false, if_true, Bool.false_eq_true, if_false]
    exact (BitVec.xor_assoc _ _ _).symm
  · simp only [bne_self_eq_false, if_true, Bool.false_eq_true, if_false]
    calc left >>> 1 ^^^ right >>> 1
        = (poly ^^^ poly) ^^^ (left >>> 1 ^^^ right >>> 1) := by
          rw [BitVec.xor_self, BitVec.zero_xor]
      _ = (poly ^^^ left >>> 1) ^^^ (poly ^^^ right >>> 1) := by ac_rfl

/-- A register that becomes empty was empty. -/
theorem eq_zero_of_shift {poly value : BitVec w} (top : poly.msb = true)
    (emptied : shift poly value = 0#w) : value = 0#w := by
  unfold shift at emptied
  split at emptied
  · have same : poly = value >>> 1 := BitVec.xor_eq_zero_iff.mp emptied
    have low : (value >>> 1).msb = false := by simp [BitVec.msb_ushiftRight]
    rw [same, low] at top
    cases top
  · rename_i even
    refine BitVec.eq_of_getLsbD_eq fun place inside => ?_
    rw [BitVec.getLsbD_zero]
    cases place with
    | zero => simpa using even
    | succ place =>
        have bit := congrArg (fun bits => bits.getLsbD place) emptied
        simpa [BitVec.getLsbD_ushiftRight, Nat.add_comm] using bit

theorem shift_injective {poly : BitVec w} (top : poly.msb = true) :
    Function.Injective (shift poly) := by
  intro left right same
  refine BitVec.xor_eq_zero_iff.mp (eq_zero_of_shift top ?_)
  rw [shift_xor, same, BitVec.xor_self]

/-- A zero that leaves the register halves it. -/
theorem shift_double (poly : BitVec w) {value : BitVec w} (small : 2 * value.toNat < 2 ^ w) :
    shift poly (value <<< 1) = value := by
  have even : (value <<< 1).getLsbD 0 = false := by simp
  rw [shift, if_neg (by rw [even]; exact Bool.false_ne_true)]
  apply BitVec.eq_of_toNat_eq
  rw [BitVec.toNat_ushiftRight, BitVec.toNat_shiftLeft, Nat.shiftLeft_eq, Nat.shiftRight_eq_div_pow,
    Nat.mod_eq_of_lt (by omega)]
  omega

/-! ## Several bits -/

theorem iterate_xor (poly : BitVec w) (count : Nat) (left right : BitVec w) :
    (shift poly)^[count] (left ^^^ right) =
      (shift poly)^[count] left ^^^ (shift poly)^[count] right := by
  induction count generalizing left right with
  | zero => rfl
  | succ count ih => rw [Function.iterate_succ_apply, shift_xor, ih]; rfl

/-- As many zeros leave as the value was moved up. -/
theorem iterate_shiftLeft (poly : BitVec w) {count : Nat} {value : BitVec w}
    (small : 2 ^ count * value.toNat < 2 ^ w) :
    (shift poly)^[count] (value <<< count) = value := by
  induction count with
  | zero => simp
  | succ count ih =>
      have bound : 2 ^ count * value.toNat * 2 < 2 ^ w := by
        rw [Nat.pow_succ, Nat.mul_right_comm] at small
        exact small
      have moved : (value <<< count).toNat = 2 ^ count * value.toNat := by
        rw [BitVec.toNat_shiftLeft, Nat.shiftLeft_eq, Nat.mul_comm, Nat.mod_eq_of_lt (by omega)]
      rw [Function.iterate_succ_apply, BitVec.shiftLeft_add, shift_double poly (by omega)]
      exact ih (by omega)

/-- The bits that leave act through a table; the others are moved down. -/
theorem iterate_eq_table (poly : BitVec w) {count : Nat} (value : BitVec w) :
    (shift poly)^[count] value =
      (shift poly)^[count] (value &&& BitVec.ofNat w (2 ^ count - 1)) ^^^ (value >>> count) := by
  have split : value =
      (value &&& BitVec.ofNat w (2 ^ count - 1)) ^^^ ((value >>> count) <<< count) := by
    refine BitVec.eq_of_getLsbD_eq fun place bound => ?_
    rw [BitVec.getLsbD_xor, BitVec.getLsbD_and, BitVec.getLsbD_shiftLeft,
      BitVec.getLsbD_ushiftRight, BitVec.getLsbD_ofNat, Nat.testBit_two_pow_sub_one]
    by_cases low : place < count
    · simp [low, bound]
    · have back : count + (place - count) = place := by omega
      simp [low, bound, back]
  have moved : 2 ^ count * (value >>> count).toNat < 2 ^ w := by
    rw [BitVec.toNat_ushiftRight, Nat.shiftRight_eq_div_pow]
    exact lt_of_le_of_lt (Nat.mul_div_le _ _) value.isLt
  conv_lhs => rw [split]
  rw [iterate_xor, iterate_shiftLeft poly moved]

theorem iterate_injective {poly : BitVec w} (top : poly.msb = true) (count : Nat) :
    Function.Injective (shift poly)^[count] :=
  (shift_injective top).iterate count

/-! ## Bytes -/

theorem run_append (poly state : BitVec w) (front back : List UInt8) :
    run poly state (front ++ back) = run poly (run poly state front) back :=
  List.foldl_append

theorem absorb_injective {poly : BitVec w} (top : poly.msb = true) (byte : UInt8) :
    Function.Injective fun state => absorb poly state byte := by
  intro left right same
  exact BitVec.xor_left_inj _ |>.mp (iterate_injective top 8 same)

/-- The register determines what it held before a byte string. -/
theorem run_injective {poly : BitVec w} (top : poly.msb = true) (bytes : List UInt8) :
    Function.Injective fun state => run poly state bytes := by
  induction bytes with
  | nil => exact fun _ _ same => same
  | cons byte rest ih => exact fun _ _ same => absorb_injective top byte (ih same)

/-- A low byte and what stands above it share no bit. -/
theorem xor_eq_add (byte : UInt8) (above : Nat) :
    byte.toNat ^^^ (2 ^ 8 * above) = byte.toNat + 256 * above := by
  apply Nat.eq_of_testBit_eq
  intro place
  rw [Nat.testBit_xor, Nat.add_comm, show (256 : Nat) = 2 ^ 8 from rfl,
    Nat.testBit_two_pow_mul_add above byte.toNat_lt, Nat.testBit_two_pow_mul]
  split
  · rename_i low
    simp [Nat.not_le.mpr low]
  · rename_i high
    have empty : byte.toNat.testBit place = false :=
      Nat.testBit_lt_two_pow (lt_of_lt_of_le byte.toNat_lt (Nat.pow_le_pow_right (by decide)
        (Nat.le_of_not_lt high)))
    simp [empty, Nat.le_of_not_lt high]

/-- Bytes that fit into the register enter it as one number. -/
theorem run_eq (poly state : BitVec w) {bytes : List UInt8} (short : 8 * bytes.length ≤ w) :
    run poly state bytes =
      (shift poly)^[8 * bytes.length] (state ^^^ BitVec.ofNat w (leValue bytes)) := by
  induction bytes generalizing state with
  | nil => simp [run, leValue]
  | cons byte rest ih =>
      rw [List.length_cons, Nat.mul_succ] at short
      have room : 2 ^ 8 * leValue rest < 2 ^ w := by
        have bound := leValue_lt rest
        rw [show (256 : Nat) = 2 ^ 8 from rfl, ← Nat.pow_mul] at bound
        calc 2 ^ 8 * leValue rest < 2 ^ 8 * 2 ^ (8 * rest.length) :=
              Nat.mul_lt_mul_of_pos_left bound (by decide)
          _ = 2 ^ (8 * rest.length + 8) := by rw [← Nat.pow_add, Nat.add_comm]
          _ ≤ 2 ^ w := Nat.pow_le_pow_right (by decide) short
      have value : (BitVec.ofNat w (leValue rest)).toNat = leValue rest := by
        rw [BitVec.toNat_ofNat, Nat.mod_eq_of_lt (by omega)]
      have later : BitVec.ofNat w (leValue rest) =
          (shift poly)^[8] (BitVec.ofNat w (leValue rest) <<< 8) :=
        (iterate_shiftLeft poly (by rw [value]; exact room)).symm
      have above : BitVec.ofNat w (leValue rest) <<< 8 = BitVec.ofNat w (2 ^ 8 * leValue rest) := by
        apply BitVec.eq_of_toNat_eq
        rw [BitVec.toNat_shiftLeft, value, BitVec.toNat_ofNat, Nat.shiftLeft_eq, Nat.mul_comm]
      have whole : BitVec.ofNat w (leValue (byte :: rest)) =
          BitVec.ofNat w byte.toNat ^^^ BitVec.ofNat w (2 ^ 8 * leValue rest) := by
        rw [leValue, ← xor_eq_add, BitVec.ofNat_xor]
      rw [show run poly state (byte :: rest) = run poly (absorb poly state byte) rest from rfl,
        ih _ (by omega), whole, later, above, absorb, ← iterate_xor, ← Function.iterate_add_apply,
        BitVec.xor_assoc, List.length_cons, Nat.mul_succ]

/-- A number of bytes is determined by their length and their value. -/
theorem leValue_injective {left right : List UInt8} (size : left.length = right.length)
    (same : leValue left = leValue right) : left = right := by
  rw [← leBytes_leValue left, ← leBytes_leValue right, size, same]

/-- A change within a window that fits into the register is seen. -/
theorem run_ne_of_window {poly : BitVec w} (top : poly.msb = true) (state : BitVec w)
    (front back : List UInt8) {window changed : List UInt8}
    (size : changed.length = window.length) (short : 8 * window.length ≤ w)
    (differs : changed ≠ window) :
    run poly state (front ++ changed ++ back) ≠ run poly state (front ++ window ++ back) := by
  intro same
  rw [run_append, run_append, run_append, run_append] at same
  have windows := run_injective top back same
  rw [run_eq _ _ (by omega), run_eq _ _ short, size] at windows
  have values := BitVec.xor_right_inj _ |>.mp (iterate_injective top _ windows)
  have bound : ∀ bytes : List UInt8, 8 * bytes.length ≤ w → leValue bytes < 2 ^ w := by
    intro bytes fits
    have bound := leValue_lt bytes
    rw [show (256 : Nat) = 2 ^ 8 from rfl, ← Nat.pow_mul] at bound
    exact lt_of_lt_of_le bound (Nat.pow_le_pow_right (by decide) fits)
  have numbers := congrArg BitVec.toNat values
  rw [BitVec.toNat_ofNat, BitVec.toNat_ofNat, Nat.mod_eq_of_lt (bound changed (by omega)),
    Nat.mod_eq_of_lt (bound window short)] at numbers
  exact differs (leValue_injective size numbers)

end Lib.Register
