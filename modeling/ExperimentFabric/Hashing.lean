import ExperimentFabric.Hash
import ExperimentFabric.Lib.Fips180

/-!
# The digest is SHA-256

The hasher of the runtime keeps eight words, a buffer of one block, the number of its bytes that are in
use and the number of bytes seen.  Absorbing a byte string in any pieces leaves the hash value of its
whole blocks in the words and the rest in the buffer, so closing the hasher gives the digest of the
standard.
-/

namespace ExperimentFabric

open Lib

namespace Sha256

/-! ## The hasher as it is laid out -/

/-- The hasher with its buffer of one block. -/
structure Engine where
  state : Words
  buffer : Vector UInt8 64
  bufferLength : Fin 64
  totalBytes : UInt64

namespace Engine

/-- Absorb one byte; a full buffer is compressed. -/
def updateByte (engine : Engine) (value : UInt8) : Engine :=
  let buffer := engine.buffer.set engine.bufferLength value
  let totalBytes := engine.totalBytes + 1
  if _full : engine.bufferLength.val + 1 = 64 then
    { state := compress engine.state buffer.toList, buffer, bufferLength := 0, totalBytes }
  else
    { state := engine.state, buffer, bufferLength := ⟨engine.bufferLength + 1, by omega⟩, totalBytes }

/-- Absorb a byte string. -/
def update (engine : Engine) (data : Text) : Engine := data.foldl updateByte engine

theorem updateByte_bufferLength (engine : Engine) (value : UInt8) :
    (engine.updateByte value).bufferLength.val = (engine.bufferLength.val + 1) % 64 := by
  unfold updateByte
  dsimp only
  split
  · rename_i full
    rw [full]
    rfl
  · exact (Nat.mod_eq_of_lt (by omega)).symm

/-- Absorb zeros until eight bytes of the block are left. -/
def padZeros (engine : Engine) : Engine :=
  if engine.bufferLength.val = 56 then engine else padZeros (engine.updateByte 0)
termination_by (120 - engine.bufferLength.val) % 64
decreasing_by
  rw [updateByte_bufferLength]
  omega

/-- Write bytes into the buffer from a position on. -/
def store (buffer : Vector UInt8 64) : Nat → Text → Vector UInt8 64
  | _, [] => buffer
  | position, byte :: rest => store (buffer.setIfInBounds position byte) (position + 1) rest

/-- The state of a new hasher. -/
def reset (engine : Engine) : Engine where
  state := Sha256.reset.state
  buffer := engine.buffer
  bufferLength := 0
  totalBytes := 0

/-- Close the hasher: its digest and what is left of it. -/
def finalize (engine : Engine) : Text × Engine :=
  let bitLength := engine.totalBytes * 8
  let padded := (engine.updateByte 0x80).padZeros
  let lengthBytes := ([56, 48, 40, 32, 24, 16, 8, 0] : List UInt64).map fun shift =>
    (bitLength >>> shift).toUInt8
  let buffer := store padded.buffer padded.bufferLength lengthBytes
  let state := compress padded.state buffer.toList
  let digest := [state.a, state.b, state.c, state.d, state.e, state.f, state.g, state.h].flatMap
    bigEndian
  (digest, reset { padded with state, buffer })

/-- A new hasher. -/
def new : Engine := reset ⟨⟨0, 0, 0, 0, 0, 0, 0, 0⟩, .replicate 64 0, 0, 0⟩

/-- A hasher that has absorbed nothing; the bytes of its buffer do not matter. -/
structure Initial (engine : Engine) : Prop where
  state : engine.state = Sha256.reset.state
  bufferLength : engine.bufferLength = 0
  totalBytes : engine.totalBytes = 0

end Engine

/-! ## Words of the standard -/

/-- Eight words of the runtime as a hash value of the standard. -/
def Words.value (words : Words) : Fips180.Value :=
  ⟨words.a.toBitVec, words.b.toBitVec, words.c.toBitVec, words.d.toBitVec, words.e.toBitVec,
    words.f.toBitVec, words.g.toBitVec, words.h.toBitVec⟩

theorem constants_eq : constants.map UInt32.toBitVec = Fips180.roundConstants := by
  decide +kernel

theorem reset_eq : Sha256.reset.state.value = Fips180.initial := by
  decide +kernel

/-- Rotation by two shifts is rotation. -/
theorem rotr32_toBitVec (value bits : UInt32) (positive : 0 < bits.toNat)
    (proper : bits.toNat < 32) :
    (rotr32 value bits).toBitVec = value.toBitVec.rotateRight bits.toNat := by
  have least : bits ≤ 32 := by
    rw [UInt32.le_iff_toNat_le]
    exact proper.le
  have left : (32 - bits).toNat = 32 - bits.toNat := UInt32.toNat_sub_of_le _ _ least
  rw [rotr32, UInt32.toBitVec_or, UInt32.toBitVec_shiftRight, UInt32.toBitVec_shiftLeft,
    BitVec.rotateRight_def, Nat.mod_eq_of_lt proper, BitVec.ushiftRight_eq', BitVec.shiftLeft_eq']
  have amount : (bits.toBitVec % 32).toNat = bits.toNat := by
    rw [BitVec.toNat_umod]
    exact Nat.mod_eq_of_lt proper
  have amount' : ((32 - bits).toBitVec % 32).toNat = 32 - bits.toNat := by
    rw [BitVec.toNat_umod, UInt32.toNat_toBitVec, left]
    exact Nat.mod_eq_of_lt (show 32 - bits.toNat < 32 by omega)
  rw [amount, amount']

theorem bigSigma0_eq (word : UInt32) :
    (rotr32 word 2 ^^^ rotr32 word 13 ^^^ rotr32 word 22).toBitVec =
      Fips180.bigSigma0 word.toBitVec := by
  rw [UInt32.toBitVec_xor, UInt32.toBitVec_xor, rotr32_toBitVec word 2 (by decide) (by decide),
    rotr32_toBitVec word 13 (by decide) (by decide), rotr32_toBitVec word 22 (by decide) (by decide)]
  rfl

theorem bigSigma1_eq (word : UInt32) :
    (rotr32 word 6 ^^^ rotr32 word 11 ^^^ rotr32 word 25).toBitVec =
      Fips180.bigSigma1 word.toBitVec := by
  rw [UInt32.toBitVec_xor, UInt32.toBitVec_xor, rotr32_toBitVec word 6 (by decide) (by decide),
    rotr32_toBitVec word 11 (by decide) (by decide), rotr32_toBitVec word 25 (by decide) (by decide)]
  rfl

theorem smallSigma0_eq (word : UInt32) :
    (rotr32 word 7 ^^^ rotr32 word 18 ^^^ (word >>> 3)).toBitVec =
      Fips180.smallSigma0 word.toBitVec := by
  rw [UInt32.toBitVec_xor, UInt32.toBitVec_xor, rotr32_toBitVec word 7 (by decide) (by decide),
    rotr32_toBitVec word 18 (by decide) (by decide)]
  rfl

theorem smallSigma1_eq (word : UInt32) :
    (rotr32 word 17 ^^^ rotr32 word 19 ^^^ (word >>> 10)).toBitVec =
      Fips180.smallSigma1 word.toBitVec := by
  rw [UInt32.toBitVec_xor, UInt32.toBitVec_xor, rotr32_toBitVec word 17 (by decide) (by decide),
    rotr32_toBitVec word 19 (by decide) (by decide)]
  rfl

/-- One round of the runtime is a round of the standard. -/
theorem round_eq (words : Words) (constant word : UInt32) :
    (round words (constant, word)).value =
      Fips180.step constant.toBitVec word.toBitVec words.value := by
  simp only [round, Words.value, Fips180.step, UInt32.toBitVec_add, bigSigma0_eq, bigSigma1_eq]
  rfl

/-! ## Compression -/

/-- The schedule of the runtime has the words of the standard. -/
theorem extendSchedule_eq {block : Nat → Fips180.Word} {words : List UInt32}
    (filled : 16 ≤ words.length)
    (scheduled : ∀ index < words.length,
      (words.getD index 0).toBitVec = Fips180.schedule block index) :
    (extendSchedule words).length = words.length + 1 ∧
      ∀ index < words.length + 1,
        ((extendSchedule words).getD index 0).toBitVec = Fips180.schedule block index := by
  obtain ⟨next, appended, value⟩ : ∃ next, extendSchedule words = words ++ [next] ∧
      next.toBitVec = Fips180.schedule block words.length := by
    refine ⟨_, rfl, ?_⟩
    simp only [UInt32.toBitVec_add, smallSigma0_eq, smallSigma1_eq]
    rw [Fips180.schedule_of_ge filled, scheduled (words.length - 2) (by omega),
      scheduled (words.length - 7) (by omega), scheduled (words.length - 15) (by omega),
      scheduled (words.length - 16) (by omega)]
    ac_rfl
  rw [appended]
  refine ⟨by simp, fun index bound => ?_⟩
  rcases Nat.lt_or_ge index words.length with early | late
  · rw [List.getD_append _ _ _ _ early]
    exact scheduled index early
  · obtain rfl : index = words.length := by omega
    rw [List.getD_append_right _ _ _ _ le_rfl, Nat.sub_self]
    exact value

theorem toUInt32_shiftLeft_toNat (byte : UInt8) {amount : UInt32} (small : amount.toNat ≤ 24) :
    (byte.toUInt32 <<< amount).toNat = byte.toNat <<< amount.toNat := by
  have bounded := byte.toNat_lt
  have fits : byte.toNat <<< amount.toNat < 2 ^ 32 := by
    rw [Nat.shiftLeft_eq]
    calc
      byte.toNat * 2 ^ amount.toNat ≤ byte.toNat * 2 ^ 24 :=
        Nat.mul_le_mul_left _ (Nat.pow_le_pow_right (by decide) small)
      _ < 2 ^ 32 := by omega
  rw [UInt32.toNat_shiftLeft, UInt8.toNat_toUInt32, Nat.mod_eq_of_lt (by omega : amount.toNat < 32),
    Nat.mod_eq_of_lt fits]

/-- Four bytes put together by shifts are the word of those bytes. -/
theorem bigEndianWord_eq (first second third fourth : UInt8) :
    ((first.toUInt32 <<< 24) ||| (second.toUInt32 <<< 16) ||| (third.toUInt32 <<< 8) |||
        fourth.toUInt32).toBitVec =
      first.toBitVec ++ second.toBitVec ++ third.toBitVec ++ fourth.toBitVec := by
  apply BitVec.eq_of_toNat_eq
  rw [UInt32.toNat_toBitVec, UInt32.toNat_or, UInt32.toNat_or, UInt32.toNat_or,
    toUInt32_shiftLeft_toNat first (by decide), toUInt32_shiftLeft_toNat second (by decide),
    toUInt32_shiftLeft_toNat third (by decide), UInt8.toNat_toUInt32]
  simp only [BitVec.toNat_append, Nat.shiftLeft_or_distrib, ← Nat.shiftLeft_add,
    UInt8.toNat_toBitVec]
  rfl

/-- A block of the runtime has the words of the standard. -/
theorem blockWords_eq (bytes : Text) :
    (blockWords bytes).length = bytes.length / 4 ∧
      ∀ index < bytes.length / 4,
        ((blockWords bytes).getD index 0).toBitVec = Fips180.wordAt bytes index := by
  induction bytes using blockWords.induct with
  | case1 first second third fourth rest ih =>
      obtain ⟨length, same⟩ := ih
      rw [blockWords]
      refine ⟨by simp only [List.length_cons, length]; omega, fun index bound => ?_⟩
      cases index with
      | zero => exact bigEndianWord_eq first second third fourth
      | succ index =>
          rw [List.getD_cons_succ, same index (by simp only [List.length_cons] at bound; omega)]
          rfl
  | case2 bytes short =>
      have few : bytes.length / 4 = 0 := by
        match bytes with
        | [] | [_] | [_, _] | [_, _, _] => simp
        | first :: second :: third :: fourth :: rest =>
            exact (short first second third fourth rest rfl).elim
      rw [blockWords, few]
      · exact ⟨rfl, fun index bound => absurd bound (Nat.not_lt_zero index)⟩
      · exact short

/-- The whole schedule of the runtime. -/
theorem schedule_eq {bytes : Text} (whole : bytes.length = 64) (count : Nat) :
    (extendSchedule^[count] (blockWords bytes)).length = 16 + count ∧
      ∀ index < 16 + count, ((extendSchedule^[count] (blockWords bytes)).getD index 0).toBitVec =
        Fips180.schedule (Fips180.wordAt bytes) index := by
  induction count with
  | zero =>
      obtain ⟨length, same⟩ := blockWords_eq bytes
      rw [whole] at length same
      refine ⟨length, fun index bound => ?_⟩
      rw [Fips180.schedule_of_lt bound]
      exact same index bound
  | succ count ih =>
      obtain ⟨length, same⟩ := ih
      rw [Function.iterate_succ_apply', ← Nat.add_assoc, ← length]
      exact extendSchedule_eq (by omega) (by rwa [length])

/-- The first rounds of the runtime are those of the standard. -/
theorem rounds_eq (state : Words) {block : Nat → Fips180.Word} {words : List UInt32}
    (length : words.length = 64)
    (scheduled : ∀ index < 64, (words.getD index 0).toBitVec = Fips180.schedule block index)
    {count : Nat} (bound : count ≤ 64) :
    (((constants.zip words).take count).foldl round state).value =
      Fips180.rounds block state.value count := by
  induction count with
  | zero => rfl
  | succ count ih =>
      have inside : count < (constants.zip words).length := by
        rw [List.length_zip, length]
        exact bound
      have constant : (constants.getD count 0).toBitVec = Fips180.roundConstants.getD count 0 := by
        rw [← constants_eq]
        exact (List.getD_map _ 0 UInt32.toBitVec).symm
      have entry : (constants.zip words)[count] = (constants.getD count 0, words.getD count 0) := by
        rw [List.getElem_zip, List.getD_eq_getElem, List.getD_eq_getElem]
      rw [List.take_add_one, List.getElem?_eq_getElem inside, Option.toList_some, List.foldl_append,
        List.foldl_cons, List.foldl_nil, entry, round_eq, ih (by omega), Fips180.rounds, constant,
        scheduled count (by omega)]

/-- Compression of the runtime is that of the standard. -/
theorem compress_eq (state : Words) {bytes : Text} (whole : bytes.length = 64) :
    (compress state bytes).value = Fips180.compress (Fips180.wordAt bytes) state.value := by
  obtain ⟨length, scheduled⟩ := schedule_eq whole 48
  rw [compress]
  generalize extendSchedule^[48] (blockWords bytes) = words at length scheduled ⊢
  have all := rounds_eq state length scheduled le_rfl
  have every : (constants.zip words).take 64 = constants.zip words := by
    apply List.take_of_length_le
    rw [List.length_zip, length]
    decide
  rw [every] at all
  have added (left right : Words) : (left.add right).value = left.value.add right.value := rfl
  rw [added, all, Fips180.compress]

/-! ## Absorption -/

/-- What a hasher that has absorbed a byte string holds. -/
structure Absorbed (hasher : Hasher) (bytes : Text) : Prop where
  state : hasher.state.value = Fips180.absorb bytes (bytes.length / 64)
  buffer : hasher.buffer = bytes.drop (64 * (bytes.length / 64))
  totalBytes : hasher.totalBytes = UInt64.ofNat bytes.length

theorem absorbed_reset : Absorbed Sha256.reset [] where
  state := reset_eq
  buffer := rfl
  totalBytes := rfl

namespace Absorbed

variable {hasher : Hasher} {bytes : Text}

theorem buffer_length (absorbed : Absorbed hasher bytes) :
    hasher.buffer.length = bytes.length % 64 := by
  rw [absorbed.buffer, List.length_drop]
  omega

theorem buffer_append (absorbed : Absorbed hasher bytes) (more : Text) :
    hasher.buffer ++ more = (bytes ++ more).drop (64 * (bytes.length / 64)) := by
  rw [absorbed.buffer, List.drop_append_of_le_length (by omega)]

/-- Compressing a buffer filled by more bytes absorbs one more block. -/
theorem compress (absorbed : Absorbed hasher bytes) {more : Text}
    (full : (hasher.buffer ++ more).length = 64) :
    (Sha256.compress hasher.state (hasher.buffer ++ more)).value =
      Fips180.absorb (bytes ++ more) (bytes.length / 64 + 1) := by
  rw [compress_eq hasher.state full, Fips180.absorb, Fips180.absorb_append (by omega),
    ← absorbed.state, absorbed.buffer_append]
  apply Fips180.compress_congr
  intro index _
  exact Fips180.wordAt_drop _ _ _

theorem updateByte (absorbed : Absorbed hasher bytes) (value : UInt8) :
    Absorbed (Sha256.updateByte hasher value) (bytes ++ [value]) := by
  have length : (bytes ++ [value]).length = bytes.length + 1 := by simp
  have total : hasher.totalBytes + 1 = UInt64.ofNat (bytes ++ [value]).length := by
    rw [absorbed.totalBytes, length, UInt64.ofNat_add]
    rfl
  have filled : (hasher.buffer ++ [value]).length = bytes.length % 64 + 1 := by
    rw [List.length_append, absorbed.buffer_length, List.length_singleton]
  rw [Sha256.updateByte]
  split
  · rename_i full
    have blocks : (bytes ++ [value]).length / 64 = bytes.length / 64 + 1 := by omega
    refine ⟨?_, ?_, total⟩
    · rw [blocks]
      exact absorbed.compress full
    · exact (List.drop_eq_nil_of_le (by omega)).symm
  · rename_i part
    have blocks : (bytes ++ [value]).length / 64 = bytes.length / 64 := by omega
    refine ⟨?_, ?_, total⟩
    · rw [blocks, Fips180.absorb_append (by omega)]
      exact absorbed.state
    · rw [blocks]
      exact absorbed.buffer_append [value]

theorem foldl (absorbed : Absorbed hasher bytes) (data : Text) :
    Absorbed (data.foldl Sha256.updateByte hasher) (bytes ++ data) := by
  induction data generalizing hasher bytes with
  | nil => simpa using absorbed
  | cons value rest ih =>
      rw [show bytes ++ value :: rest = bytes ++ [value] ++ rest by simp]
      exact ih (absorbed.updateByte value)

/-- The padding loop appends the zeros that leave eight bytes of a block. -/
theorem pad {fuel : Nat} (absorbed : Absorbed hasher bytes)
    (enough : (120 - bytes.length % 64) % 64 ≤ fuel) :
    Absorbed (Sha256.pad fuel hasher)
      (bytes ++ List.replicate ((120 - bytes.length % 64) % 64) 0) := by
  induction fuel generalizing hasher bytes with
  | zero =>
      rw [Nat.le_zero.mp enough, Sha256.pad]
      simpa using absorbed
  | succ fuel ih =>
      rw [Sha256.pad]
      split
      · rename_i done
        rw [absorbed.buffer_length] at done
        rw [done]
        simpa using absorbed
      · rename_i more
        rw [absorbed.buffer_length] at more
        have length : (bytes ++ [0]).length = bytes.length + 1 := by simp
        have fewer : (120 - bytes.length % 64) % 64 = (120 - (bytes ++ [0]).length % 64) % 64 + 1 := by
          omega
        have later := ih (absorbed.updateByte 0) (by omega)
        rw [fewer, List.replicate_succ]
        simpa using later

end Absorbed

/-! ## Digests -/

/-- The bytes of a word of the runtime are those of the standard. -/
theorem bigEndian_eq (word : UInt32) : bigEndian word = Fips180.bytesOf word.toBitVec 4 := by
  have byte : ∀ shift : UInt32, shift.toNat < 32 → (word >>> shift).toUInt8 =
      UInt8.ofBitVec (word.toBitVec.extractLsb' shift.toNat 8) := by
    intro shift small
    apply UInt8.toNat_inj.mp
    rw [UInt32.toNat_toUInt8, UInt32.toNat_shiftRight, Nat.mod_eq_of_lt small]
    exact (BitVec.extractLsb'_toNat _ _ _).symm
  rw [bigEndian, byte 24 (by decide), byte 16 (by decide), byte 8 (by decide)]
  have last := byte 0 (by decide)
  rw [UInt32.shiftRight_zero] at last
  rw [last]
  rfl

/-- The bytes of the length of the runtime are those of the standard. -/
theorem lengthBytes_eq (bitLength : UInt64) :
    (([56, 48, 40, 32, 24, 16, 8, 0] : List UInt64).map fun shift =>
      (bitLength >>> shift).toUInt8) = Fips180.bytesOf bitLength.toBitVec 8 := by
  have byte : ∀ shift : UInt64, shift.toNat < 64 → (bitLength >>> shift).toUInt8 =
      UInt8.ofBitVec (bitLength.toBitVec.extractLsb' shift.toNat 8) := by
    intro shift small
    apply UInt8.toNat_inj.mp
    rw [UInt64.toNat_toUInt8, UInt64.toNat_shiftRight, Nat.mod_eq_of_lt small]
    exact (BitVec.extractLsb'_toNat _ _ _).symm
  simp only [List.map_cons, List.map_nil]
  rw [byte 56 (by decide), byte 48 (by decide), byte 40 (by decide), byte 32 (by decide),
    byte 24 (by decide), byte 16 (by decide), byte 8 (by decide), byte 0 (by decide)]
  rfl

/-- The number of bits seen. -/
theorem bitLength_eq {hasher : Hasher} (message : Fips180.Message)
    (absorbed : Absorbed hasher message.bytes) :
    (hasher.totalBytes * 8).toBitVec = message.bitLength := by
  have short := message.short
  have eight : (8 : UInt64).toNat = 8 := rfl
  apply BitVec.eq_of_toNat_eq
  rw [UInt64.toNat_toBitVec, UInt64.toNat_mul, absorbed.totalBytes,
    UInt64.toNat_ofNat_of_lt' (show message.bytes.length < 2 ^ 64 by omega), eight,
    Nat.mod_eq_of_lt (by omega), Fips180.Message.bitLength, BitVec.toNat_ofNatLT]
  omega

/-- Closing a hasher gives the digest of what it has absorbed. -/
theorem finalize_eq {hasher : Hasher} (message : Fips180.Message)
    (absorbed : Absorbed hasher message.bytes) : finalize hasher = message.sha256 := by
  have marked : (message.bytes ++ [0x80]).length = message.bytes.length + 1 := by simp
  have zeros : (120 - (message.bytes ++ [0x80]).length % 64) % 64 =
      Fips180.zeroCount message.bytes.length := by
    rw [marked, Fips180.zeroCount]
    omega
  have padded : Absorbed (pad 64 (updateByte hasher 0x80)) (message.bytes ++ [0x80] ++
      List.replicate (Fips180.zeroCount message.bytes.length) 0) := by
    rw [← zeros]
    exact (absorbed.updateByte 0x80).pad (by omega)
  have fits := (Fips180.zeroCount_spec message.bytes.length).1
  have length : (message.bytes ++ [0x80] ++
      List.replicate (Fips180.zeroCount message.bytes.length) 0).length =
        message.bytes.length + 1 + Fips180.zeroCount message.bytes.length := by
    rw [List.length_append, marked, List.length_replicate]
  have whole : message.padded = message.bytes ++ [0x80] ++
      List.replicate (Fips180.zeroCount message.bytes.length) 0 ++
        Fips180.bytesOf message.bitLength 8 := by
    simp [Fips180.Message.padded]
  have full : ((pad 64 (updateByte hasher 0x80)).buffer ++
      Fips180.bytesOf message.bitLength 8).length = 64 := by
    rw [List.length_append, padded.buffer_length, Fips180.bytesOf_length, length, fits]
  have final := padded.compress full
  have blocks : message.padded.length / 64 = (message.bytes ++ [0x80] ++
      List.replicate (Fips180.zeroCount message.bytes.length) 0).length / 64 + 1 := by
    rw [whole, List.length_append, Fips180.bytesOf_length, length]
    omega
  rw [← whole, ← blocks] at final
  rw [finalize, lengthBytes_eq, bitLength_eq message absorbed, Fips180.Message.sha256, ← final]
  simp only [List.flatMap_cons, List.flatMap_nil, bigEndian_eq, Fips180.Value.words, Words.value]

/-- The digest of a byte string is its SHA-256 digest. -/
theorem digestOf_eq (message : Fips180.Message) : digestOf message.bytes = message.sha256 :=
  finalize_eq message (absorbed_reset.foldl message.bytes)

example : digestOf (text "abc") =
    [0xba, 0x78, 0x16, 0xbf, 0x8f, 0x01, 0xcf, 0xea, 0x41, 0x41, 0x40, 0xde, 0x5d, 0xae, 0x22, 0x23,
      0xb0, 0x03, 0x61, 0xa3, 0x96, 0x17, 0x7a, 0x9c, 0xb4, 0x10, 0xff, 0x61, 0xf2, 0x00, 0x15, 0xad] := by
  decide +kernel

/-! ## The hasher of the runtime -/

namespace Engine

/-- The part of a hasher that its operations read. -/
def view (engine : Engine) : Hasher where
  state := engine.state
  buffer := engine.buffer.toList.take engine.bufferLength
  totalBytes := engine.totalBytes

theorem view_initial {engine : Engine} (initial : engine.Initial) : engine.view = Sha256.reset := by
  rw [view, initial.state, initial.bufferLength, initial.totalBytes]
  rfl

theorem view_buffer_length (engine : Engine) :
    engine.view.buffer.length = engine.bufferLength.val := by
  rw [view, List.length_take, Vector.length_toList]
  omega

/-- The bytes up to one that is written. -/
theorem take_set_succ {bytes : Text} {position : Nat} (inside : position < bytes.length)
    (value : UInt8) :
    (bytes.set position value).take (position + 1) = bytes.take position ++ [value] := by
  have front : (bytes.take position).length = position := by
    rw [List.length_take]
    omega
  rw [List.set_eq_take_append_cons_drop, if_pos inside, List.take_append, front]
  simp

theorem view_updateByte (engine : Engine) (value : UInt8) :
    (engine.updateByte value).view = Sha256.updateByte engine.view value := by
  have written : (engine.buffer.set engine.bufferLength value).toList.take
      (engine.bufferLength.val + 1) = engine.view.buffer ++ [value] := by
    rw [Vector.toList_set]
    exact take_set_succ (by rw [Vector.length_toList]; omega) value
  have length : (engine.view.buffer ++ [value]).length = engine.bufferLength.val + 1 := by
    rw [List.length_append, view_buffer_length]
    rfl
  rw [Engine.updateByte, Sha256.updateByte, length]
  split
  · rename_i full
    rw [full, List.take_of_length_le (by rw [Vector.length_toList])] at written
    rw [view, written]
    rfl
  · rw [view, written]
    rfl

theorem view_update (engine : Engine) (data : Text) :
    (engine.update data).view = data.foldl Sha256.updateByte engine.view := by
  induction data generalizing engine with
  | nil => rfl
  | cons value rest ih =>
      rw [update, List.foldl_cons, List.foldl_cons, ← view_updateByte]
      exact ih (engine.updateByte value)

theorem view_chunks (engine : Engine) (chunks : List Text) :
    (chunks.foldl update engine).view = chunks.flatten.foldl Sha256.updateByte engine.view := by
  induction chunks generalizing engine with
  | nil => rfl
  | cons chunk rest ih =>
      rw [List.foldl_cons, ih, view_update, List.flatten_cons, List.foldl_append]

/-- The padding loop ends with eight bytes of the block left. -/
theorem padZeros_spec {fuel : Nat} (engine : Engine)
    (enough : (120 - engine.bufferLength.val) % 64 ≤ fuel) :
    engine.padZeros.bufferLength.val = 56 ∧ engine.padZeros.view = pad fuel engine.view := by
  induction fuel generalizing engine with
  | zero =>
      have done : engine.bufferLength.val = 56 := by omega
      rw [padZeros, if_pos done]
      exact ⟨done, rfl⟩
  | succ fuel ih =>
      rw [padZeros, pad, view_buffer_length]
      split
      · rename_i done
        exact ⟨done, rfl⟩
      · rw [← view_updateByte]
        apply ih
        rw [updateByte_bufferLength]
        omega

theorem store_toList (buffer : Vector UInt8 64) {position : Nat} {bytes : Text}
    (room : position + bytes.length ≤ 64) :
    (store buffer position bytes).toList =
      buffer.toList.take position ++ bytes ++ buffer.toList.drop (position + bytes.length) := by
  induction bytes generalizing buffer position with
  | nil => simp [store]
  | cons byte rest ih =>
      rw [List.length_cons] at room
      rw [store, ih _ (by omega), Vector.toList_setIfInBounds,
        take_set_succ (by rw [Vector.length_toList]; omega), List.drop_set_of_lt (by omega),
        List.length_cons, show position + 1 + rest.length = position + (rest.length + 1) by omega]
      simp

/-- Closing the hasher gives the digest of its view and leaves an initial hasher. -/
theorem finalize_spec (engine : Engine) :
    engine.finalize.1 = Sha256.finalize engine.view ∧ engine.finalize.2.Initial := by
  refine ⟨?_, ⟨rfl, rfl, rfl⟩⟩
  obtain ⟨length, padded⟩ := padZeros_spec (engine.updateByte 0x80)
    (show (120 - (engine.updateByte 0x80).bufferLength.val) % 64 ≤ 64 by omega)
  rw [view_updateByte] at padded
  have stored (bytes : Text) (eight : bytes.length = 8) :
      (store (engine.updateByte 0x80).padZeros.buffer
        (engine.updateByte 0x80).padZeros.bufferLength bytes).toList =
          (pad 64 (Sha256.updateByte engine.view 0x80)).buffer ++ bytes := by
    rw [store_toList _ (by omega), List.drop_eq_nil_of_le, List.append_nil, ← padded]
    · rfl
    · rw [Vector.length_toList]
      omega
  rw [finalize, Sha256.finalize]
  dsimp only
  rw [stored _ rfl, ← padded]
  rfl

end Engine

/-- Every way of absorbing a message gives its SHA-256 digest, and the hasher can be used again. -/
theorem sha256_incremental (engine : Engine) (initial : engine.Initial) (chunks : List Text)
    (short : chunks.flatten.length < 2 ^ 61) :
    let absorbed := chunks.foldl Engine.update engine
    absorbed.finalize.1 = Fips180.Message.sha256 ⟨chunks.flatten, by omega⟩ ∧
      (absorbed.updateByte 0x80).padZeros.bufferLength.val = 56 ∧
      absorbed.finalize.2.Initial := by
  intro absorbed
  have view : absorbed.view = chunks.flatten.foldl updateByte Sha256.reset := by
    rw [engine.view_chunks chunks, Engine.view_initial initial]
  obtain ⟨digest, initial'⟩ := absorbed.finalize_spec
  refine ⟨?_, ?_, initial'⟩
  · rw [digest, view]
    exact digestOf_eq ⟨chunks.flatten, by omega⟩
  · exact (Engine.padZeros_spec (absorbed.updateByte 0x80) le_rfl).1

theorem Engine.new_initial : Engine.new.Initial := ⟨rfl, rfl, rfl⟩

/-- Three letters in three pieces, one of them empty. -/
theorem sha256_incremental_abc :
    ([text "ab", [], text "c"].foldl Engine.update Engine.new).finalize.1 =
      Fips180.Message.sha256 ⟨text "abc", by decide⟩ :=
  (sha256_incremental Engine.new Engine.new_initial [text "ab", [], text "c"] (by decide)).1

end Sha256

end ExperimentFabric
