import ExperimentFabric.Identity

/-!
# Checksums

CRC-32 protects frames and persisted records, SHA-256 the body of a state image.  Both work on the
32-bit words of the runtime.
-/

namespace ExperimentFabric

/-! ## CRC-32 -/

/-- One bit of a table entry. -/
def crcBit (value : UInt32) : UInt32 :=
  if value &&& 1 ≠ 0 then (0xEDB88320 : UInt32) ^^^ (value >>> 1) else value >>> 1

/-- The table entry of a byte. -/
def crcTable (index : UInt32) : UInt32 := crcBit^[8] index

/-- The checksum of a byte string. -/
def crc32 (bytes : Text) : UInt32 :=
  bytes.foldl (fun state byte => crcTable ((state ^^^ byte.toUInt32) &&& 0xFF) ^^^ (state >>> 8))
    0xFFFFFFFF ^^^ 0xFFFFFFFF

/-! ## SHA-256 -/

namespace Sha256

/-- Round constants. -/
def constants : List UInt32 :=
  [0x428a2f98, 0x71374491, 0xb5c0fbcf, 0xe9b5dba5, 0x3956c25b, 0x59f111f1, 0x923f82a4, 0xab1c5ed5,
    0xd807aa98, 0x12835b01, 0x243185be, 0x550c7dc3, 0x72be5d74, 0x80deb1fe, 0x9bdc06a7, 0xc19bf174,
    0xe49b69c1, 0xefbe4786, 0x0fc19dc6, 0x240ca1cc, 0x2de92c6f, 0x4a7484aa, 0x5cb0a9dc, 0x76f988da,
    0x983e5152, 0xa831c66d, 0xb00327c8, 0xbf597fc7, 0xc6e00bf3, 0xd5a79147, 0x06ca6351, 0x14292967,
    0x27b70a85, 0x2e1b2138, 0x4d2c6dfc, 0x53380d13, 0x650a7354, 0x766a0abb, 0x81c2c92e, 0x92722c85,
    0xa2bfe8a1, 0xa81a664b, 0xc24b8b70, 0xc76c51a3, 0xd192e819, 0xd6990624, 0xf40e3585, 0x106aa070,
    0x19a4c116, 0x1e376c08, 0x2748774c, 0x34b0bcb5, 0x391c0cb3, 0x4ed8aa4a, 0x5b9cca4f, 0x682e6ff3,
    0x748f82ee, 0x78a5636f, 0x84c87814, 0x8cc70208, 0x90befffa, 0xa4506ceb, 0xbef9a3f7, 0xc67178f2]

/-- Rotation to the right. -/
def rotr32 (value bits : UInt32) : UInt32 := (value >>> bits) ||| (value <<< (32 - bits))

/-- The eight working words. -/
structure Words where
  a : UInt32
  b : UInt32
  c : UInt32
  d : UInt32
  e : UInt32
  f : UInt32
  g : UInt32
  h : UInt32
  deriving DecidableEq

/-- Componentwise sum. -/
def Words.add (left right : Words) : Words :=
  ⟨left.a + right.a, left.b + right.b, left.c + right.c, left.d + right.d, left.e + right.e,
    left.f + right.f, left.g + right.g, left.h + right.h⟩

/-- A block as big-endian words. -/
def blockWords : Text → List UInt32
  | first :: second :: third :: fourth :: rest =>
      ((first.toUInt32 <<< 24) ||| (second.toUInt32 <<< 16) ||| (third.toUInt32 <<< 8) |||
        fourth.toUInt32) :: blockWords rest
  | _ => []

/-- Append one word of the message schedule. -/
def extendSchedule (words : List UInt32) : List UInt32 :=
  let index := words.length
  let early := words.getD (index - 15) 0
  let late := words.getD (index - 2) 0
  let s0 := rotr32 early 7 ^^^ rotr32 early 18 ^^^ (early >>> 3)
  let s1 := rotr32 late 17 ^^^ rotr32 late 19 ^^^ (late >>> 10)
  words ++ [words.getD (index - 16) 0 + s0 + words.getD (index - 7) 0 + s1]

/-- One round with its constant and its word. -/
def round (words : Words) (input : UInt32 × UInt32) : Words :=
  let bigS1 := rotr32 words.e 6 ^^^ rotr32 words.e 11 ^^^ rotr32 words.e 25
  let choose := (words.e &&& words.f) ^^^ ((~~~ words.e) &&& words.g)
  let temp1 := words.h + bigS1 + choose + input.1 + input.2
  let bigS0 := rotr32 words.a 2 ^^^ rotr32 words.a 13 ^^^ rotr32 words.a 22
  let majority := (words.a &&& words.b) ^^^ (words.a &&& words.c) ^^^ (words.b &&& words.c)
  let temp2 := bigS0 + majority
  ⟨temp1 + temp2, words.a, words.b, words.c, words.d + temp1, words.e, words.f, words.g⟩

/-- Absorb one block. -/
def compress (state : Words) (block : Text) : Words :=
  let schedule := extendSchedule^[48] (blockWords block)
  state.add ((constants.zip schedule).foldl round state)

/-- A running hash: words, the bytes of the open block and the number of bytes seen. -/
structure Hasher where
  state : Words
  buffer : Text
  totalBytes : UInt64

/-- The hash of nothing. -/
def reset : Hasher where
  state := ⟨0x6a09e667, 0xbb67ae85, 0x3c6ef372, 0xa54ff53a, 0x510e527f, 0x9b05688c, 0x1f83d9ab,
    0x5be0cd19⟩
  buffer := []
  totalBytes := 0

/-- Absorb one byte. -/
def updateByte (hasher : Hasher) (value : UInt8) : Hasher :=
  let buffer := hasher.buffer ++ [value]
  if buffer.length = 64 then
    { state := compress hasher.state buffer, buffer := [], totalBytes := hasher.totalBytes + 1 }
  else { hasher with buffer := buffer, totalBytes := hasher.totalBytes + 1 }

/-- Absorb zeros until the length of the message fits behind them; a block has at most 64. -/
def pad : Nat → Hasher → Hasher
  | 0, hasher => hasher
  | remaining + 1, hasher =>
      if hasher.buffer.length = 56 then hasher else pad remaining (updateByte hasher 0)

/-- A word as big-endian bytes. -/
def bigEndian (value : UInt32) : Text :=
  [(value >>> 24).toUInt8, (value >>> 16).toUInt8, (value >>> 8).toUInt8, value.toUInt8]

/-- Close a running hash. -/
def finalize (hasher : Hasher) : Text :=
  let bitLength := hasher.totalBytes * 8
  let padded := pad 64 (updateByte hasher 0x80)
  let lengthBytes := ([56, 48, 40, 32, 24, 16, 8, 0] : List UInt64).map fun shift =>
    (bitLength >>> shift).toUInt8
  let final := compress padded.state (padded.buffer ++ lengthBytes)
  [final.a, final.b, final.c, final.d, final.e, final.f, final.g, final.h].flatMap bigEndian

/-- The digest of a byte string. -/
def digestOf (data : Text) : Text := finalize (data.foldl updateByte reset)

@[simp]
theorem digestOf_length (data : Text) : (digestOf data).length = 32 := by
  simp [digestOf, finalize, bigEndian]

end Sha256

end ExperimentFabric
