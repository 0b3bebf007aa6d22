import Mathlib.Data.BitVec
import Mathlib.Data.List.GetD
import Mathlib.Data.Nat.NthRoot.Defs
import Mathlib.Data.Nat.Prime.Basic

/-!
# The secure hash standard

SHA-256 as FIPS 180-4 defines it, for messages of whole bytes.  The constants are fractions of roots of
primes, the message schedule is a recurrence, and a padded message is read as one sequence of words,
sixteen to a block.
-/

namespace Lib

namespace Fips180

/-- A 32-bit word. -/
abbrev Word := BitVec 32

/-! ## Functions and constants -/

/-- Choice between two words. -/
def ch (x y z : Word) : Word := (x &&& y) ^^^ (~~~x &&& z)

/-- Majority of three words. -/
def maj (x y z : Word) : Word := (x &&& y) ^^^ (x &&& z) ^^^ (y &&& z)

/-- The function of the working variable `a`. -/
def bigSigma0 (x : Word) : Word := x.rotateRight 2 ^^^ x.rotateRight 13 ^^^ x.rotateRight 22

/-- The function of the working variable `e`. -/
def bigSigma1 (x : Word) : Word := x.rotateRight 6 ^^^ x.rotateRight 11 ^^^ x.rotateRight 25

/-- The first function of the message schedule. -/
def smallSigma0 (x : Word) : Word := x.rotateRight 7 ^^^ x.rotateRight 18 ^^^ x >>> 3

/-- The second function of the message schedule. -/
def smallSigma1 (x : Word) : Word := x.rotateRight 17 ^^^ x.rotateRight 19 ^^^ x >>> 10

/-- The first 64 primes. -/
def primes : List Nat := (List.range 312).filter Nat.Prime

/-- The first 32 bits of the fractional part of a root. -/
def rootFraction (degree number : Nat) : Word :=
  BitVec.ofNat 32 (Nat.nthRoot degree (number * 2 ^ (32 * degree)))

/-- The round constants come from the cube roots of the primes. -/
def roundConstants : List Word := primes.map (rootFraction 3)

/-! ## Compression -/

/-- A hash value, or the working variables of a compression. -/
structure Value where
  a : Word
  b : Word
  c : Word
  d : Word
  e : Word
  f : Word
  g : Word
  h : Word
  deriving DecidableEq

/-- The words of a hash value in order. -/
def Value.words (value : Value) : List Word :=
  [value.a, value.b, value.c, value.d, value.e, value.f, value.g, value.h]

/-- The componentwise sum. -/
def Value.add (left right : Value) : Value :=
  ⟨left.a + right.a, left.b + right.b, left.c + right.c, left.d + right.d, left.e + right.e,
    left.f + right.f, left.g + right.g, left.h + right.h⟩

/-- The initial hash value comes from the square roots of the first eight primes. -/
def initial : Value :=
  ⟨rootFraction 2 2, rootFraction 2 3, rootFraction 2 5, rootFraction 2 7, rootFraction 2 11,
    rootFraction 2 13, rootFraction 2 17, rootFraction 2 19⟩

/-- The message schedule of a block. -/
def schedule (block : Nat → Word) (index : Nat) : Word :=
  if index < 16 then block index
  else
    smallSigma1 (schedule block (index - 2)) + schedule block (index - 7) +
      smallSigma0 (schedule block (index - 15)) + schedule block (index - 16)
termination_by index

/-- One round on the working variables. -/
def step (constant word : Word) (value : Value) : Value :=
  let temp1 := value.h + bigSigma1 value.e + ch value.e value.f value.g + constant + word
  let temp2 := bigSigma0 value.a + maj value.a value.b value.c
  ⟨temp1 + temp2, value.a, value.b, value.c, value.d + temp1, value.e, value.f, value.g⟩

/-- The first rounds of a compression. -/
def rounds (block : Nat → Word) (value : Value) : Nat → Value
  | 0 => value
  | index + 1 =>
      step (roundConstants.getD index 0) (schedule block index) (rounds block value index)

/-- The hash value after a block. -/
def compress (block : Nat → Word) (value : Value) : Value := value.add (rounds block value 64)

/-! ## Messages -/

/-- The word at a position of a byte string. -/
def wordAt (bytes : List UInt8) (index : Nat) : Word :=
  (bytes.getD (4 * index) 0).toBitVec ++ (bytes.getD (4 * index + 1) 0).toBitVec ++
    (bytes.getD (4 * index + 2) 0).toBitVec ++ (bytes.getD (4 * index + 3) 0).toBitVec

/-- The hash value after the first blocks of a byte string. -/
def absorb (bytes : List UInt8) : Nat → Value
  | 0 => initial
  | index + 1 => compress (fun word => wordAt bytes (16 * index + word)) (absorb bytes index)

/-- A message of whole bytes and fewer than `2 ^ 64` bits. -/
structure Message where
  bytes : List UInt8
  short : 8 * bytes.length < 2 ^ 64

/-- Number of zero bytes that bring a message with its end mark to eight bytes below a block. -/
def zeroCount (length : Nat) : Nat := (119 - length % 64) % 64

/-- The bytes of a word, the highest first. -/
def bytesOf {width : Nat} (word : BitVec width) (count : Nat) : List UInt8 :=
  (List.range count).map fun index => UInt8.ofBitVec (word.extractLsb' (8 * (count - 1 - index)) 8)

namespace Message

/-- The length in bits as a 64-bit number. -/
def bitLength (message : Message) : BitVec 64 := BitVec.ofNatLT (8 * message.bytes.length) message.short

/-- The message, a one bit, zero bits and the length, to a multiple of 512 bits. -/
def padded (message : Message) : List UInt8 :=
  message.bytes ++ 0x80 :: List.replicate (zeroCount message.bytes.length) 0 ++
    bytesOf message.bitLength 8

/-- The SHA-256 digest of a message. -/
def sha256 (message : Message) : List UInt8 :=
  (absorb message.padded (message.padded.length / 64)).words.flatMap (bytesOf · 4)

end Message

/-! ## Padding -/

/-- The padding is the shortest that leaves room for the length. -/
theorem zeroCount_spec (length : Nat) :
    (length + 1 + zeroCount length) % 64 = 56 ∧
      ∀ count, (length + 1 + count) % 64 = 56 → zeroCount length ≤ count := by
  unfold zeroCount
  constructor
  · omega
  · intro count fits
    omega

@[simp]
theorem bytesOf_length {width : Nat} (word : BitVec width) (count : Nat) :
    (bytesOf word count).length = count := by
  simp [bytesOf]

/-! ## Prefixes -/

theorem wordAt_append {front back : List UInt8} {index : Nat} (inside : 4 * index + 4 ≤ front.length) :
    wordAt (front ++ back) index = wordAt front index := by
  have same : ∀ offset < 4,
      (front ++ back).getD (4 * index + offset) 0 = front.getD (4 * index + offset) 0 := by
    intro offset small
    exact List.getD_append _ _ _ _ (by omega)
  have first := same 0 (by omega)
  rw [Nat.add_zero] at first
  rw [wordAt, wordAt, first, same 1 (by omega), same 2 (by omega), same 3 (by omega)]

theorem schedule_of_lt {block : Nat → Word} {index : Nat} (early : index < 16) :
    schedule block index = block index := by
  rw [schedule, if_pos early]

theorem schedule_of_ge {block : Nat → Word} {index : Nat} (late : 16 ≤ index) :
    schedule block index =
      smallSigma1 (schedule block (index - 2)) + schedule block (index - 7) +
        smallSigma0 (schedule block (index - 15)) + schedule block (index - 16) := by
  rw [schedule, if_neg (by omega)]

/-- Words after whole blocks. -/
theorem wordAt_drop (bytes : List UInt8) (blocks index : Nat) :
    wordAt (bytes.drop (64 * blocks)) index = wordAt bytes (16 * blocks + index) := by
  have moved : ∀ offset,
      (bytes.drop (64 * blocks)).getD (4 * index + offset) 0 =
        bytes.getD (4 * (16 * blocks + index) + offset) 0 := by
    intro offset
    rw [List.getD_eq_getElem?_getD, List.getD_eq_getElem?_getD, List.getElem?_drop]
    congr 2
    omega
  have first := moved 0
  rw [Nat.add_zero, Nat.add_zero] at first
  rw [wordAt, wordAt, first, moved 1, moved 2, moved 3]

/-- The schedule reads sixteen words. -/
theorem schedule_congr {block block' : Nat → Word} (same : ∀ index < 16, block index = block' index)
    (index : Nat) : schedule block index = schedule block' index := by
  induction index using Nat.strong_induction_on with
  | _ index ih =>
      rcases Nat.lt_or_ge index 16 with early | late
      · rw [schedule_of_lt early, schedule_of_lt early, same index early]
      · rw [schedule_of_ge late, schedule_of_ge late, ih (index - 2) (by omega),
          ih (index - 7) (by omega), ih (index - 15) (by omega), ih (index - 16) (by omega)]

theorem compress_congr {block block' : Nat → Word} (same : ∀ index < 16, block index = block' index)
    (value : Value) : compress block value = compress block' value := by
  have rounds_congr : ∀ count, rounds block value count = rounds block' value count := by
    intro count
    induction count with
    | zero => rfl
    | succ count ih => rw [rounds, rounds, ih, schedule_congr same]
  rw [compress, compress, rounds_congr]

/-- Whole blocks are absorbed independently of what follows them. -/
theorem absorb_append {front back : List UInt8} {count : Nat} (inside : 64 * count ≤ front.length) :
    absorb (front ++ back) count = absorb front count := by
  induction count with
  | zero => rfl
  | succ count ih =>
      rw [absorb, absorb, ih (by omega)]
      apply compress_congr
      intro index small
      exact wordAt_append (by omega)

end Fips180

end Lib
