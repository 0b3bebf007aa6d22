import ExperimentFabric.Lib.Codec
import ExperimentFabric.State

/-!
# Payload primitives

The writers and readers that every payload is made of: little-endian words, booleans, reals by
their bit patterns, enumerators, bounded text, digests and counted sequences.  Writers return the
bytes they append.  A writer shortens a text beyond its bound and writes a count beyond its bound as
it is; the readers refuse both.

Identities and counters are natural numbers here and 64-bit words on the wire, so that a value fits
only when its numbers do.
-/

namespace ExperimentFabric

open Lib

/-- Reals as their 64-bit patterns. -/
class BitPattern (R : Type) where
  /-- The pattern of a value. -/
  toBits : R → UInt64
  /-- The value of a pattern. -/
  ofBits : UInt64 → R
  ofBits_toBits : ∀ value, ofBits (toBits value) = value
  toBits_ofBits : ∀ bits, toBits (ofBits bits) = bits

/-- Enumerations stored as one byte. -/
class Enumeration (E : Type) [DecidableEq E] where
  /-- Enumerators in the order of their stable numbers, from zero to the last one. -/
  values : List E
  complete : ∀ value, value ∈ values
  distinct : values.Nodup := by decide
  small : values.length ≤ 256 := by decide

/-- A refusal of malformed bytes. -/
def Payload.protocolError (reason : Text) : Status := ⟨.protocolError, .validation, reason⟩

/-- A reader of payload bytes. -/
abbrev PayloadReader (α : Type) := Reader Status α

/-- The refusal of a payload that ends too early. -/
def payloadTruncated : Status := Payload.protocolError "payload truncated"

/-- The refusal of a payload that goes on. -/
def trailingPayloadBytes : Status := Payload.protocolError "trailing payload bytes"

/-! ## Writers -/

/-- Append one byte. -/
def writeU8 (value : Nat) : Text := leBytes 1 value

/-- Append a 16-bit word. -/
def writeU16 (value : Nat) : Text := leBytes 2 value

/-- Append a 32-bit word. -/
def writeU32 (value : Nat) : Text := leBytes 4 value

/-- Append a 64-bit word. -/
def writeU64 (value : Nat) : Text := leBytes 8 value

/-- Append a boolean. -/
def writeBoolean (value : Bool) : Text := writeU8 (if value then 1 else 0)

/-- Append the pattern of a real. -/
def writeReal {R : Type} [BitPattern R] (value : R) : Text :=
  writeU64 (BitPattern.toBits value).toNat

/-- Append a signed integer in two's complement. -/
def writeInteger (value : Int) : Text := writeU64 (value % 2 ^ 64).toNat

/-- Append a text, shortened to its bound. -/
def writeText (maximum : Nat) (value : Text) : Text :=
  writeU32 (min value.length maximum) ++ value.take maximum

/-- Append an enumerator. -/
def writeEnum {E : Type} [DecidableEq E] [Enumeration E] (value : E) : Text :=
  writeU8 ((Enumeration.values).idxOf value)

/-- Append an identity. -/
def writeId {tag : Tag} (id : StrongId tag) : Text := writeU64 id.value

/-- Append an optional value. -/
def writeOptional {α : Type} (write : α → Text) : Option α → Text
  | none => writeBoolean false
  | some value => writeBoolean true ++ write value

/-- Append a seed. -/
def writeSeed (value : UInt64) : Text := writeU64 value.toNat

/-- Append a digest. -/
def writeDigest (digest : Digest) : Text := digest

/-- Append a sequence after its length; the bound is the reader's. -/
def writeVector {α : Type} (write : α → Text) (values : List α) : Text :=
  writeU32 values.length ++ (values.map write).flatten

/-! ## Readers -/

/-- The next byte. -/
def readU8 : PayloadReader Nat := readWord payloadTruncated 1

/-- The next 16-bit word. -/
def readU16 : PayloadReader Nat := readWord payloadTruncated 2

/-- The next 32-bit word. -/
def readU32 : PayloadReader Nat := readWord payloadTruncated 4

/-- The next 64-bit word. -/
def readU64 : PayloadReader Nat := readWord payloadTruncated 8

/-- The next boolean. -/
def readBoolean : PayloadReader Bool := do
  let raw ← readU8
  ensure (raw ≤ 1) (Payload.protocolError "boolean out of range")
  pure (raw != 0)

/-- The next real. -/
def readReal {R : Type} [BitPattern R] : PayloadReader R := do
  let raw ← readU64
  pure (BitPattern.ofBits (UInt64.ofNat raw))

/-- The next signed integer. -/
def readInteger : PayloadReader Int := do
  let raw ← readU64
  pure (if raw < 2 ^ 63 then raw else raw - 2 ^ 64)

/-- The next text, of bounded length. -/
def readText (limits : Limits) (maximum : Nat) : PayloadReader Text := do
  let length ← readU32
  ensure (length ≤ maximum && length ≤ limits.maxPersistedStringBytes)
    (Payload.protocolError "declared string length exceeds bound")
  takeBytes payloadTruncated length

/-- The next enumerator. -/
def readEnum {E : Type} [DecidableEq E] [Enumeration E] (what : Text) : PayloadReader E := do
  let raw ← readU8
  match (Enumeration.values : List E)[raw]? with
  | some value => pure value
  | none => throw (Payload.protocolError (text "impossible " ++ what ++ text " value"))

/-- The next identity. -/
def readId {tag : Tag} : PayloadReader (StrongId tag) := do
  let raw ← readU64
  pure ⟨raw⟩

/-- The next optional value. -/
def readOptional {α : Type} (read : PayloadReader α) : PayloadReader (Option α) := do
  let present ← readBoolean
  match present with
  | false => pure none
  | true => do
      let value ← read
      pure (some value)

/-- The next seed. -/
def readSeed : PayloadReader UInt64 := do
  let raw ← readU64
  pure (UInt64.ofNat raw)

/-- The next digest. -/
def readDigest : PayloadReader Digest := takeBytes payloadTruncated 32

/-- The next count, of bounded size. -/
def readCount (maximum : Nat) : PayloadReader Nat := do
  let value ← readU32
  ensure (value ≤ maximum) ⟨.resourceExhausted, .limits, "declared count exceeds bound"⟩
  pure value

/-- The next counted sequence. -/
def readVector {α : Type} (maximum : Nat) (read : PayloadReader α) : PayloadReader (List α) := do
  let count ← readCount maximum
  readItems read count

/-! ## What fits -/

/-- A 32-bit number. -/
def FitsU32 (value : Nat) : Prop := value < 2 ^ 32

/-- A 64-bit number. -/
def FitsU64 (value : Nat) : Prop := value < 2 ^ 64

/-- A signed 64-bit number. -/
def FitsInteger (value : Int) : Prop := -2 ^ 63 ≤ value ∧ value < 2 ^ 63

/-- An identity of 64 bits. -/
def StrongId.Fits {tag : Tag} (id : StrongId tag) : Prop := FitsU64 id.value

/-- A text the writer keeps and the reader takes. -/
def FitsText (limits : Limits) (maximum : Nat) (value : Text) : Prop :=
  value.length ≤ maximum ∧ value.length ≤ limits.maxPersistedStringBytes

/-- A digest of 32 bytes. -/
def FitsDigest (digest : Digest) : Prop := digest.length = 32

/-- A sequence of bounded length whose items fit. -/
def FitsVector {α : Type} (maximum : Nat) (fits : α → Prop) (values : List α) : Prop :=
  values.length ≤ maximum ∧ ∀ value ∈ values, fits value

instance : DecidablePred FitsU32 := fun value => inferInstanceAs (Decidable (value < 2 ^ 32))

instance : DecidablePred FitsU64 := fun value => inferInstanceAs (Decidable (value < 2 ^ 64))

instance : DecidablePred FitsInteger := fun value =>
  inferInstanceAs (Decidable (-2 ^ 63 ≤ value ∧ value < 2 ^ 63))

instance {tag : Tag} : DecidablePred (@StrongId.Fits tag) := fun id =>
  inferInstanceAs (Decidable (FitsU64 id.value))

instance (limits : Limits) (maximum : Nat) : DecidablePred (FitsText limits maximum) := fun value =>
  inferInstanceAs (Decidable (value.length ≤ maximum ∧ value.length ≤ limits.maxPersistedStringBytes))

instance : DecidablePred FitsDigest := fun digest => inferInstanceAs (Decidable (digest.length = 32))

instance {α : Type} (maximum : Nat) (fits : α → Prop) [DecidablePred fits] :
    DecidablePred (FitsVector maximum fits) := fun values =>
  inferInstanceAs (Decidable (values.length ≤ maximum ∧ ∀ value ∈ values, fits value))

/-! ## Laws of the primitives -/

theorem codes_u8 : Codes (fun value => value < 256) readU8 writeU8 :=
  Codes.readWord payloadTruncated 1

theorem codes_u16 : Codes (fun value => value < 2 ^ 16) readU16 writeU16 :=
  Codes.readWord payloadTruncated 2

theorem codes_u32 : Codes FitsU32 readU32 writeU32 := Codes.readWord payloadTruncated 4

theorem codes_u64 : Codes FitsU64 readU64 writeU64 := Codes.readWord payloadTruncated 8

theorem codes_id {tag : Tag} : Codes (@StrongId.Fits tag) readId writeId := by
  refine codes_u64.map StrongId.value fun value id => ?_
  constructor
  · rintro ⟨fit, rfl⟩
    exact ⟨fit, rfl⟩
  · rintro ⟨fit, rfl⟩
    exact ⟨fit, rfl⟩

theorem codes_seed : Codes (fun _ => True) readSeed writeSeed := by
  refine codes_u64.map UInt64.toNat fun value word => ?_
  constructor
  · rintro ⟨fit, rfl⟩
    exact ⟨trivial, UInt64.toNat_ofNat_of_lt fit⟩
  · rintro ⟨-, rfl⟩
    exact ⟨word.toNat_lt, UInt64.ofNat_toNat⟩

theorem codes_real {R : Type} [BitPattern R] :
    Codes (fun _ : R => True) readReal writeReal := by
  refine codes_u64.map (fun real => (BitPattern.toBits real).toNat) fun value real => ?_
  constructor
  · rintro ⟨fit, rfl⟩
    exact ⟨trivial, by rw [BitPattern.toBits_ofBits]; exact UInt64.toNat_ofNat_of_lt fit⟩
  · rintro ⟨-, rfl⟩
    exact ⟨UInt64.toNat_lt _, by rw [UInt64.ofNat_toNat]; exact BitPattern.ofBits_toBits real⟩

theorem codes_integer : Codes FitsInteger readInteger writeInteger := by
  refine codes_u64.map (fun integer : Int => (integer % 2 ^ 64).toNat) fun value integer => ?_
  simp only [FitsU64, FitsInteger]
  constructor
  · rintro ⟨fit, rfl⟩
    split <;> omega
  · rintro ⟨⟨low, high⟩, rfl⟩
    split <;> omega

theorem codes_boolean : Codes (fun _ => True) readBoolean writeBoolean := by
  refine codes_u8.translate (fun value : Bool => if value then 1 else 0) fun raw value bytes rest => ?_
  simp only [reader_bind_eq_ok, ensure_eq_ok, reader_pure_eq_ok, decide_eq_true_eq, true_and]
  constructor
  · rintro ⟨-, -, middle, ⟨small, rfl⟩, rfl, rfl⟩
    obtain rfl | rfl : raw = 0 ∨ raw = 1 := by omega
    · simp
    · simp
  · rintro ⟨rfl, rfl⟩
    refine ⟨?_, (), bytes, ⟨?_, rfl⟩, ?_, rfl⟩ <;> cases value <;> decide

theorem codes_enum {E : Type} [DecidableEq E] [Enumeration E] (what : Text) :
    Codes (fun _ : E => True) (readEnum what) writeEnum := by
  refine codes_u8.translate Enumeration.values.idxOf fun raw value bytes rest => ?_
  have position : (Enumeration.values : List E)[raw]? = some value ↔
      (Enumeration.values : List E).idxOf value = raw := by
    constructor
    · intro found
      obtain ⟨inside, rfl⟩ := List.getElem?_eq_some_iff.mp found
      exact Enumeration.distinct.idxOf_getElem raw inside
    · rintro rfl
      exact List.getElem?_idxOf (Enumeration.complete value)
  rw [true_and, ← position]
  cases found : (Enumeration.values : List E)[raw]? with
  | none => simp [throw, throwThe, MonadExceptOf.throw, StateT.lift, bind, Except.bind]
  | some other =>
      obtain ⟨inside, -⟩ := List.getElem?_eq_some_iff.mp found
      have small := Enumeration.small (E := E)
      have byte : raw < 256 := by omega
      simp only [reader_pure_eq_ok, Option.some.injEq, byte, true_and]

theorem codes_optional {α : Type} {fits : α → Prop} {read : PayloadReader α} {write : α → Text}
    (law : Codes fits read write) :
    Codes (fun value => ∀ found ∈ value, fits found) (readOptional read) (writeOptional write) := by
  intro bytes value rest
  unfold readOptional
  rw [reader_bind_eq_ok]
  constructor
  · rintro ⟨present, middle, run, others⟩
    obtain ⟨-, rfl⟩ := (codes_boolean _ _ _).mp run
    cases present with
    | false =>
        obtain ⟨rfl, rfl⟩ := reader_pure_eq_ok.mp others
        exact ⟨by simp, rfl⟩
    | true =>
        obtain ⟨found, after, more, ended⟩ := reader_bind_eq_ok.mp others
        obtain ⟨fit, rfl⟩ := (law _ _ _).mp more
        obtain ⟨rfl, rfl⟩ := reader_pure_eq_ok.mp ended
        exact ⟨by simpa using fit, by simp [writeOptional]⟩
  · rintro ⟨each, rfl⟩
    cases value with
    | none => exact ⟨false, rest, codes_boolean.read_write trivial rest, reader_pure_eq_ok.mpr ⟨rfl, rfl⟩⟩
    | some found =>
        refine ⟨true, write found ++ rest, (codes_boolean _ _ _).mpr ⟨trivial, ?_⟩, ?_⟩
        · simp [writeOptional]
        · exact reader_bind_eq_ok.mpr ⟨found, rest, law.read_write (each found rfl) rest,
            reader_pure_eq_ok.mpr ⟨rfl, rfl⟩⟩

/-- An optional value whose content always fits. -/
theorem codes_optional_free {α : Type} {read : PayloadReader α} {write : α → Text}
    (law : Codes (fun _ => True) read write) :
    Codes (fun _ => True) (readOptional read) (writeOptional write) := by
  intro bytes value rest
  rw [codes_optional law bytes value rest]
  simp

theorem codes_digest : Codes FitsDigest readDigest writeDigest :=
  Codes.takeBytes payloadTruncated 32

theorem codes_text (limits : Limits) {maximum : Nat} (small : maximum < 2 ^ 32) :
    Codes (FitsText limits maximum) (readText limits maximum) (writeText maximum) := by
  have fields : Fields (fun _ => True)
      (fun value => FitsU32 value.length ∧ FitsText limits maximum value ∧ True)
      (readText limits maximum) fun value => [writeU32 value.length, id value] := by
    refine Fields.field codes_u32 fun length => Fields.guard (fun value known => ?_) ?_
    · rw [← known.2, Bool.and_eq_true, decide_eq_true_eq, decide_eq_true_eq, FitsText]
    · exact Fields.tail (Codes.takeBytes payloadTruncated length) fun value => by simp
  refine fields.codes (fun value => ?_) fun value fit => ?_
  · exact ⟨fun fit => ⟨lt_of_le_of_lt fit.1 small, fit, trivial⟩, fun fit => fit.2.1⟩
  · rw [writeText, min_eq_left fit.1, List.take_of_length_le fit.1]
    simp

theorem codes_count {maximum : Nat} (small : maximum < 2 ^ 32) :
    Codes (fun count => count ≤ maximum) (readCount maximum) writeU32 := by
  refine codes_u32.translate id fun raw value bytes rest => ?_
  simp only [reader_bind_eq_ok, ensure_eq_ok, reader_pure_eq_ok, decide_eq_true_eq]
  constructor
  · rintro ⟨-, -, middle, ⟨bounded, rfl⟩, rfl, rfl⟩
    exact ⟨⟨bounded, rfl⟩, rfl⟩
  · rintro ⟨⟨bounded, rfl⟩, rfl⟩
    exact ⟨lt_of_le_of_lt bounded small, (), bytes, ⟨bounded, rfl⟩, rfl, rfl⟩

theorem codes_vector {α : Type} {maximum : Nat} (small : maximum < 2 ^ 32) {fits : α → Prop}
    {read : PayloadReader α} {write : α → Text} (law : Codes fits read write) :
    Codes (FitsVector maximum fits) (readVector maximum read) (writeVector write) := by
  have fields : Fields (fun _ => True)
      (fun values => values.length ≤ maximum ∧ ∀ value ∈ values, fits value)
      (readVector maximum read)
      fun values => [writeU32 values.length, (values.map write).flatten] := by
    refine Fields.field (codes_count small) fun count => ?_
    exact Fields.tail (law.readItems count) fun values => by simp
  refine fields.codes (fun values => Iff.rfl) fun values fit => ?_
  simp [writeVector]

end ExperimentFabric
