import ExperimentFabric.Lib.Checks
import Mathlib.Algebra.Group.Nat.Defs
import Mathlib.Data.List.Infix

/-!
# Binary codecs

A reader consumes bytes from the front of its input or fails.  `Codes` says that a reader accepts
exactly the encodings of the values that fit, each followed by anything; `Fields` is the same law
for the fields of a record that are still to be read.  The rules follow the shape of a reader: one
rule per field, one for the record that ends it, one for counted sequences.  From the law follow the
round trip, the refusal of prefixes and extensions, and canonicity.

`Reads` is the one direction that a round trip needs, for readers that accept more than one
encoding of a value.
-/

namespace Lib

variable {ε α β γ : Type}

/-- Consumes bytes from the front of the input, or fails. -/
abbrev Reader (ε α : Type) := StateT (List UInt8) (Except ε) α

/-! ## Words -/

/-- The low bytes of a number, least significant first. -/
def leBytes : Nat → Nat → List UInt8
  | 0, _ => []
  | width + 1, value => UInt8.ofNat value :: leBytes width (value / 256)

/-- The number of a byte string, least significant first. -/
def leValue : List UInt8 → Nat
  | [] => 0
  | byte :: rest => byte.toNat + 256 * leValue rest

@[simp]
theorem leBytes_length (width value : Nat) : (leBytes width value).length = width := by
  induction width generalizing value with
  | zero => rfl
  | succ width ih => simp [leBytes, ih]

theorem leValue_lt (bytes : List UInt8) : leValue bytes < 256 ^ bytes.length := by
  induction bytes with
  | nil => simp [leValue]
  | cons byte rest ih =>
      have small := byte.toNat_lt
      simp only [leValue, List.length_cons, Nat.pow_succ]
      omega

theorem leValue_leBytes (width value : Nat) :
    leValue (leBytes width value) = value % 256 ^ width := by
  induction width generalizing value with
  | zero => simp [leBytes, leValue, Nat.mod_one]
  | succ width ih =>
      have digits : value % 256 ^ (width + 1) = value % 256 + 256 * (value / 256 % 256 ^ width) := by
        rw [Nat.pow_succ', Nat.mod_mul]
      rw [leBytes, leValue, ih, digits, UInt8.toNat_ofNat']

theorem leBytes_leValue (bytes : List UInt8) : leBytes bytes.length (leValue bytes) = bytes := by
  induction bytes with
  | nil => rfl
  | cons byte rest ih =>
      have small := byte.toNat_lt
      have quotient : (byte.toNat + 256 * leValue rest) / 256 = leValue rest := by omega
      have low : UInt8.ofNat (byte.toNat + 256 * leValue rest) = byte := by
        apply UInt8.toNat_inj.mp
        rw [UInt8.toNat_ofNat']
        omega
      simp only [List.length_cons, leValue, leBytes, quotient, low, ih]

/-! ## Readers -/

/-- The next bytes. -/
def takeBytes (truncated : ε) (count : Nat) : Reader ε (List UInt8) := fun bytes =>
  if count > bytes.length then .error truncated else .ok (bytes.take count, bytes.drop count)

/-- The next number of a width in bytes. -/
def readWord (truncated : ε) (width : Nat) : Reader ε Nat := do
  let bytes ← takeBytes truncated width
  pure (leValue bytes)

/-- Refuse unless a condition holds. -/
def ensure (condition : Bool) (failure : ε) : Reader ε Unit := fun bytes =>
  if condition then .ok ((), bytes) else .error failure

/-- Read a number of items. -/
def readItems (read : Reader ε α) : Nat → Reader ε (List α)
  | 0 => pure []
  | count + 1 => do
      let item ← read
      let rest ← readItems read count
      pure (item :: rest)

/-- Run a reader that has to consume its whole input. -/
def decodeAll (trailing : ε) (read : Reader ε α) (bytes : List UInt8) : Except ε α := do
  let (value, rest) ← read bytes
  if rest.isEmpty then pure value else .error trailing

/-- A bind of readers succeeds when both of its halves do. -/
theorem reader_bind_eq_ok {first : Reader ε α} {next : α → Reader ε β} {bytes rest : List UInt8}
    {result : β} :
    (first >>= next) bytes = .ok (result, rest) ↔
      ∃ value middle, first bytes = .ok (value, middle) ∧ next value middle = .ok (result, rest) := by
  change (first bytes >>= fun read => next read.1 read.2) = _ ↔ _
  rw [bind_eq_ok]
  simp only [Prod.exists]

@[simp]
theorem reader_pure_eq_ok {value result : α} {bytes rest : List UInt8} :
    (pure value : Reader ε α) bytes = .ok (result, rest) ↔ value = result ∧ bytes = rest := by
  change (Except.ok (value, bytes) : Except ε _) = _ ↔ _
  simp

@[simp]
theorem reader_lift_eq_ok {result : Except ε α} {value : α} {bytes rest : List UInt8} :
    (StateT.lift result : Reader ε α) bytes = .ok (value, rest) ↔
      result = .ok value ∧ bytes = rest := by
  cases result <;> simp [StateT.lift, bind, Except.bind, pure, Except.pure]

@[simp]
theorem ensure_eq_ok {condition : Bool} {failure : ε} {bytes rest : List UInt8} {result : Unit} :
    ensure condition failure bytes = .ok (result, rest) ↔ condition = true ∧ bytes = rest := by
  cases condition <;> simp [ensure]

theorem takeBytes_eq_ok {truncated : ε} {count : Nat} {bytes front rest : List UInt8} :
    takeBytes truncated count bytes = .ok (front, rest) ↔
      front.length = count ∧ bytes = front ++ rest := by
  unfold takeBytes
  split
  · rename_i short
    simp only [reduceCtorEq, false_iff, not_and]
    rintro rfl rfl
    rw [List.length_append] at short
    omega
  · rename_i enough
    simp only [Except.ok.injEq, Prod.mk.injEq]
    constructor
    · rintro ⟨rfl, rfl⟩
      exact ⟨List.length_take_of_le (Nat.le_of_not_lt enough), (List.take_append_drop _ _).symm⟩
    · rintro ⟨rfl, rfl⟩
      simp

theorem decodeAll_eq_ok {trailing : ε} {read : Reader ε α} {bytes : List UInt8} {value : α} :
    decodeAll trailing read bytes = .ok value ↔ read bytes = .ok (value, []) := by
  unfold decodeAll
  rw [bind_eq_ok]
  constructor
  · rintro ⟨⟨result, rest⟩, run, ended⟩
    cases rest with
    | nil =>
        obtain rfl : result = value := by simpa [pure, Except.pure] using ended
        exact run
    | cons byte rest => simp at ended
  · intro run
    exact ⟨(value, []), run, rfl⟩

/-! ## The law of a codec -/

/-- The reader accepts exactly the encodings of fitting values, each followed by anything. -/
def Codes (fits : α → Prop) (read : Reader ε α) (write : α → List UInt8) : Prop :=
  ∀ bytes value rest,
    read bytes = .ok (value, rest) ↔ fits value ∧ bytes = write value ++ rest

/-- The law for the fields of a record still to be read; `known` says what the fields before have
fixed. -/
def Fields (known fits : α → Prop) (read : Reader ε α) (pieces : α → List (List UInt8)) : Prop :=
  ∀ bytes value rest,
    read bytes = .ok (value, rest) ↔
      known value ∧ fits value ∧ bytes = (pieces value).flatten ++ rest

/-- What a message codec owes its callers. -/
structure Bijective (fits : α → Prop) (encode : α → List UInt8)
    (decode : List UInt8 → Except ε α) : Prop where
  /-- A fitting value comes back. -/
  decode_encode : ∀ value, fits value → decode (encode value) = .ok value
  /-- No strict prefix of an encoding is accepted. -/
  refuses_prefix : ∀ value, fits value → ∀ bytes, bytes <+: encode value → bytes ≠ encode value →
    ∀ other, decode bytes ≠ .ok other
  /-- No proper extension of an encoding is accepted. -/
  refuses_extension : ∀ value, fits value → ∀ bytes, bytes ≠ [] →
    ∀ other, decode (encode value ++ bytes) ≠ .ok other
  /-- Every accepted byte string is the encoding of its value. -/
  encode_decode : ∀ bytes value, decode bytes = .ok value → encode value = bytes

namespace Codes

variable {fits : α → Prop} {read : Reader ε α} {write : α → List UInt8}

/-- An encoding followed by anything reads back. -/
theorem read_write (law : Codes fits read write) {value : α} (fit : fits value)
    (rest : List UInt8) : read (write value ++ rest) = .ok (value, rest) :=
  (law _ _ _).mpr ⟨fit, rfl⟩

/-- No encoding is followed by more bytes in another one. -/
theorem prefix_free (law : Codes fits read write) {value other : α} (fit : fits value)
    (otherFit : fits other) {rest : List UInt8} (extended : write other ++ rest = write value) :
    rest = [] := by
  have here := law.read_write otherFit rest
  have whole := law.read_write fit []
  rw [List.append_nil] at whole
  rw [extended, whole] at here
  simp only [Except.ok.injEq, Prod.mk.injEq] at here
  exact here.2.symm

/-- The codec of a whole message. -/
theorem decodeAll_iff (law : Codes fits read write) (trailing : ε) (bytes : List UInt8)
    (value : α) :
    decodeAll trailing read bytes = .ok value ↔ fits value ∧ bytes = write value := by
  rw [decodeAll_eq_ok, law, List.append_nil]

/-- A reader with the law, run to the end of its input, is bijective. -/
theorem bijective (law : Codes fits read write) {decode : List UInt8 → Except ε α}
    (complete : ∀ bytes value, decode bytes = .ok value ↔ fits value ∧ bytes = write value) :
    Bijective fits write decode where
  decode_encode value fit := (complete _ _).mpr ⟨fit, rfl⟩
  refuses_prefix value fit bytes shorter strict other accepted := by
    obtain ⟨otherFit, rfl⟩ := (complete _ _).mp accepted
    obtain ⟨rest, extended⟩ := shorter
    have ended := law.prefix_free fit otherFit extended
    subst ended
    exact strict (by simpa using extended)
  refuses_extension value fit bytes more other accepted := by
    obtain ⟨otherFit, extended⟩ := (complete _ _).mp accepted
    exact more (law.prefix_free otherFit fit extended)
  encode_decode bytes value accepted := ((complete _ _).mp accepted).2.symm

/-- The law of a reader whose value is translated without reading more. -/
theorem translate {fitsImage : β → Prop} {next : α → Reader ε β} (law : Codes fits read write)
    (back : β → α)
    (translated : ∀ value image bytes rest, fits value ∧ next value bytes = .ok (image, rest) ↔
      (fitsImage image ∧ back image = value) ∧ bytes = rest) :
    Codes fitsImage (read >>= next) fun image => write (back image) := by
  intro bytes image rest
  rw [reader_bind_eq_ok]
  constructor
  · rintro ⟨value, middle, run, ended⟩
    obtain ⟨fit, rfl⟩ := (law _ _ _).mp run
    obtain ⟨⟨fitImage, rfl⟩, rfl⟩ := (translated _ _ _ _).mp ⟨fit, ended⟩
    exact ⟨fitImage, rfl⟩
  · rintro ⟨fitImage, rfl⟩
    obtain ⟨fit, ended⟩ := (translated (back image) image rest rest).mpr ⟨⟨fitImage, rfl⟩, rfl⟩
    exact ⟨back image, rest, law.read_write fit rest, ended⟩

/-- The law of a reader whose value is mapped. -/
theorem map {fitsImage : β → Prop} {forth : α → β} (law : Codes fits read write) (back : β → α)
    (mapped : ∀ value image, fits value ∧ forth value = image ↔
      fitsImage image ∧ back image = value) :
    Codes fitsImage (do let value ← read; pure (forth value)) fun image => write (back image) := by
  refine law.translate back fun value image bytes rest => ?_
  rw [reader_pure_eq_ok, ← and_assoc, mapped]

theorem takeBytes (truncated : ε) (count : Nat) :
    Codes (fun bytes => bytes.length = count) (Lib.takeBytes truncated count) id :=
  fun _ _ _ => takeBytes_eq_ok

/-- Numbers of a width. -/
theorem readWord (truncated : ε) (width : Nat) :
    Codes (fun value => value < 256 ^ width) (Lib.readWord truncated width) (leBytes width) := by
  refine (Codes.takeBytes truncated width).map (leBytes width) fun bytes value => ?_
  constructor
  · rintro ⟨rfl, rfl⟩
    exact ⟨leValue_lt bytes, leBytes_leValue bytes⟩
  · rintro ⟨small, rfl⟩
    exact ⟨leBytes_length width value, by rw [leValue_leBytes, Nat.mod_eq_of_lt small]⟩

/-- The items of a counted sequence. -/
theorem readItems (law : Codes fits read write) (count : Nat) :
    Codes (fun items => items.length = count ∧ ∀ item ∈ items, fits item)
      (Lib.readItems read count) fun items => (items.map write).flatten := by
  induction count with
  | zero =>
      intro bytes items rest
      simp only [Lib.readItems, reader_pure_eq_ok, List.length_eq_zero_iff]
      constructor
      · rintro ⟨rfl, rfl⟩
        simp
      · rintro ⟨⟨rfl, -⟩, rfl⟩
        simp
  | succ count ih =>
      intro bytes items rest
      simp only [Lib.readItems]
      rw [reader_bind_eq_ok]
      constructor
      · rintro ⟨item, middle, run, others⟩
        obtain ⟨fit, rfl⟩ := (law _ _ _).mp run
        obtain ⟨later, after, more, ended⟩ := reader_bind_eq_ok.mp others
        obtain ⟨⟨rfl, fitLater⟩, rfl⟩ := (ih _ _ _).mp more
        obtain ⟨rfl, rfl⟩ := reader_pure_eq_ok.mp ended
        refine ⟨⟨rfl, ?_⟩, by simp⟩
        intro other member
        rcases List.mem_cons.mp member with rfl | there
        · exact fit
        · exact fitLater other there
      · rintro ⟨⟨size, each⟩, rfl⟩
        cases items with
        | nil => simp at size
        | cons item later =>
            have fitLater : ∀ other ∈ later, fits other :=
              fun other there => each other (List.mem_cons_of_mem _ there)
            have more := (ih _ later rest).mpr ⟨⟨by simpa using size, fitLater⟩, rfl⟩
            refine ⟨item, (later.map write).flatten ++ rest, ?_, ?_⟩
            · exact (law _ _ _).mpr ⟨each item List.mem_cons_self, by simp⟩
            · exact reader_bind_eq_ok.mpr ⟨later, rest, more, reader_pure_eq_ok.mpr ⟨rfl, rfl⟩⟩

end Codes

namespace Fields

variable {known fits later : γ → Prop} {fitsField : α → Prop} {read : Reader ε α}
  {write : α → List UInt8} {next : α → Reader ε γ} {part : γ → α}
  {pieces : γ → List (List UInt8)} {final : γ}

/-- A field that has to fit. -/
theorem field (law : Codes fitsField read write)
    (rest : ∀ value, Fields (fun record => known record ∧ part record = value) later
      (next value) pieces) :
    Fields known (fun record => fitsField (part record) ∧ later record) (read >>= next)
      fun record => write (part record) :: pieces record := by
  intro bytes record after
  rw [reader_bind_eq_ok]
  constructor
  · rintro ⟨value, middle, run, others⟩
    obtain ⟨fit, rfl⟩ := (law _ _ _).mp run
    obtain ⟨⟨holds, rfl⟩, fitLater, rfl⟩ := (rest value _ _ _).mp others
    exact ⟨holds, ⟨fit, fitLater⟩, by simp⟩
  · rintro ⟨holds, ⟨fit, fitLater⟩, rfl⟩
    refine ⟨part record, (pieces record).flatten ++ after, (law _ _ _).mpr ⟨fit, by simp⟩, ?_⟩
    exact (rest _ _ _ _).mpr ⟨⟨holds, rfl⟩, fitLater, rfl⟩

/-- The last field that has to fit. -/
theorem only (law : Codes fitsField read write)
    (rest : ∀ value, Fields (fun record => known record ∧ part record = value) (fun _ => True)
      (next value) pieces) :
    Fields known (fun record => fitsField (part record)) (read >>= next)
      fun record => write (part record) :: pieces record := by
  intro bytes record after
  rw [Fields.field law rest bytes record after]
  simp

/-- A field that always fits. -/
theorem free (law : Codes (fun _ => True) read write)
    (rest : ∀ value, Fields (fun record => known record ∧ part record = value) later
      (next value) pieces) :
    Fields known later (read >>= next) fun record => write (part record) :: pieces record := by
  intro bytes record after
  rw [Fields.field law rest bytes record after]
  simp

/-- A check on what has been read. -/
theorem guard {condition : Bool} {failure : ε} {holds : γ → Prop} {reader : Reader ε γ}
    (agrees : ∀ record, known record → (condition = true ↔ holds record))
    (rest : Fields known later reader pieces) :
    Fields known (fun record => holds record ∧ later record)
      (ensure condition failure >>= fun _ => reader) pieces := by
  intro bytes record after
  rw [reader_bind_eq_ok]
  constructor
  · rintro ⟨_, middle, checked, others⟩
    obtain ⟨passed, rfl⟩ := ensure_eq_ok.mp checked
    obtain ⟨before, fitLater, rfl⟩ := (rest _ _ _).mp others
    exact ⟨before, ⟨(agrees record before).mp passed, fitLater⟩, rfl⟩
  · rintro ⟨before, ⟨passed, fitLater⟩, rfl⟩
    exact ⟨(), _, ensure_eq_ok.mpr ⟨(agrees record before).mpr passed, rfl⟩,
      (rest _ _ _).mpr ⟨before, fitLater, rfl⟩⟩

/-- What is left to read has a codec of its own. -/
theorem tail {whole : γ → Prop} {reader : Reader ε γ} {encode : γ → List UInt8}
    (law : Codes whole reader encode)
    (split : ∀ record, whole record ↔ known record ∧ later record) :
    Fields known later reader fun record => [encode record] := by
  intro bytes record after
  rw [law bytes record after, split, and_assoc]
  simp

/-- The record that its fields determine. -/
theorem done (determined : ∀ record, known record ↔ record = final) :
    Fields known (fun _ => True) (pure final : Reader ε γ) fun _ => [] := by
  intro bytes record after
  rw [reader_pure_eq_ok, determined]
  simp only [List.flatten_nil, List.nil_append, true_and]
  exact ⟨fun ⟨same, ended⟩ => ⟨same.symm, ended⟩, fun ⟨same, ended⟩ => ⟨same.symm, ended⟩⟩

/-- The law of a record reader, from the law of its fields. -/
theorem codes {encode : γ → List UInt8} {reader : Reader ε γ}
    (law : Fields (fun _ => True) later reader pieces)
    (fitting : ∀ record, fits record ↔ later record)
    (written : ∀ record, fits record → encode record = (pieces record).flatten) :
    Codes fits reader encode := by
  intro bytes record after
  rw [law bytes record after, true_and, ← fitting]
  refine and_congr_right fun fit => ?_
  rw [written record fit]

end Fields

/-! ## What is read -/

/-- Every value that the reader returns has a property. -/
def Yields (read : Reader ε α) (property : α → Prop) : Prop :=
  ∀ bytes value rest, read bytes = .ok (value, rest) → property value

namespace Yields

variable {first : Reader ε α} {next : α → Reader ε β} {holds : α → Prop} {property : β → Prop}

/-- What a codec accepts fits it. -/
theorem of_codes {fits : α → Prop} {read : Reader ε α} {write : α → List UInt8}
    (law : Codes fits read write) : Yields read fits :=
  fun bytes value rest run => ((law bytes value rest).mp run).1

/-- A value that has been read, then the others. -/
theorem bind (here : Yields first holds) (later : ∀ value, holds value → Yields (next value) property) :
    Yields (first >>= next) property := by
  intro bytes result rest run
  obtain ⟨value, middle, read, others⟩ := reader_bind_eq_ok.mp run
  exact later value (here _ _ _ read) _ _ _ others

/-- Any value, then the others. -/
theorem skip (later : ∀ value, Yields (next value) property) : Yields (first >>= next) property :=
  bind (fun _ _ _ _ => trivial) fun value _ => later value

theorem pure {value : α} (known : holds value) : Yields (Pure.pure value : Reader ε α) holds := by
  intro bytes result rest run
  obtain ⟨rfl, rfl⟩ := reader_pure_eq_ok.mp run
  exact known

theorem lift {result : Except ε α} (known : ∀ value, result = .ok value → holds value) :
    Yields (StateT.lift result : Reader ε α) holds := by
  intro bytes value rest run
  exact known value (reader_lift_eq_ok.mp run).1

theorem readItems {read : Reader ε α} (law : Yields read holds) (count : Nat) :
    Yields (Lib.readItems read count) fun items => ∀ item ∈ items, holds item := by
  induction count with
  | zero => exact pure fun item member => absurd member List.not_mem_nil
  | succ count ih =>
      refine bind law fun item here => bind ih fun rest later => pure fun other member => ?_
      rcases List.mem_cons.mp member with rfl | there
      · exact here
      · exact later other there

/-- What a decoder returns was read. -/
theorem decodeAll {read : Reader ε α} (law : Yields read holds) {trailing : ε} {bytes : List UInt8}
    {value : α} (decoded : Lib.decodeAll trailing read bytes = .ok value) : holds value :=
  law _ _ _ (decodeAll_eq_ok.mp decoded)

end Yields

/-- The reader returns a value from its encoding, whatever follows. -/
def Reads (read : Reader ε α) (encoding : List UInt8) (value : α) : Prop :=
  ∀ rest, read (encoding ++ rest) = .ok (value, rest)

namespace Reads

variable {first : Reader ε α} {next : α → Reader ε β} {piece : List UInt8}
  {pieces : List (List UInt8)} {value : α} {result : β}

/-- A fitting value of a codec is read back. -/
theorem of_codes {fits : α → Prop} {read : Reader ε α} {write : α → List UInt8}
    (law : Codes fits read write) (fit : fits value) : Reads read (write value) value :=
  law.read_write fit

/-- One part of an encoding is read, then the other. -/
theorem append {other : List UInt8} (here : Reads first piece value)
    (later : Reads (next value) other result) : Reads (first >>= next) (piece ++ other) result := by
  intro rest
  rw [List.append_assoc]
  exact reader_bind_eq_ok.mpr ⟨value, _, here _, later rest⟩

/-- The next piece of an encoding is read, then the others. -/
theorem field (here : Reads first piece value) (later : Reads (next value) pieces.flatten result) :
    Reads (first >>= next) (piece :: pieces).flatten result :=
  here.append later

/-- The last piece of an encoding is read. -/
theorem last (here : Reads first piece value) (later : Reads (next value) [] result) :
    Reads (first >>= next) piece result := by
  simpa using here.append later

/-- Nothing is left to read. -/
theorem done : Reads (pure value : Reader ε α) (List.flatten []) value :=
  fun _ => reader_pure_eq_ok.mpr ⟨rfl, rfl⟩

/-- A check that holds reads nothing. -/
theorem ensure {condition : Bool} {failure : ε} {reader : Reader ε β} {encoding : List UInt8}
    (holds : condition = true) (later : Reads reader encoding result) :
    Reads (Lib.ensure condition failure >>= fun _ => reader) encoding result :=
  fun rest => reader_bind_eq_ok.mpr ⟨(), _, ensure_eq_ok.mpr ⟨holds, rfl⟩, later rest⟩

/-- A value that is read back to the end of its encoding. -/
theorem decodeAll {read : Reader ε α} {encoding : List UInt8} (reads : Reads read encoding value)
    (trailing : ε) : Lib.decodeAll trailing read encoding = .ok value := by
  rw [decodeAll_eq_ok]
  simpa using reads []

end Reads

end Lib
