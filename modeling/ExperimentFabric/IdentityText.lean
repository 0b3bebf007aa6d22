import Mathlib.Data.Nat.Digits.Lemmas
import ExperimentFabric.Identity

/-!
# The text of identities

Identities are written by a loop of divisions into a buffer filled from its end, and read by a loop
of multiplications that stops before a word overflows.  Both are compared with the decimal numeral of
a natural number.
-/

namespace ExperimentFabric

/-- A decimal digit. -/
def IsDigit (character : UInt8) : Prop := 48 ≤ character ∧ character ≤ 57

/-- The number a digit stands for. -/
def digitValue (character : UInt8) : Nat := character.toNat - 48

/-- Read further digits of a number. -/
def extend (value : Nat) (digits : Text) : Nat :=
  digits.foldl (fun value character => value * 10 + digitValue character) value

/-- The value of a string of digits. -/
def numeral (digits : Text) : Nat := extend 0 digits

namespace StrongId

variable {tag : Tag}

/-- The identity with a 64-bit value. -/
def fromValue (word : UInt64) : StrongId tag := ⟨word.toNat⟩

/-- Write the digits of `remaining` in front of those written. -/
def writeDigits (remaining : UInt64) (written : Text) : Text :=
  if remaining = 0 then written
  else writeDigits (remaining / 10) ((48 + (remaining % 10).toUInt8) :: written)
termination_by remaining.toNat
decreasing_by
  rename_i nonzero
  have positive : remaining.toNat ≠ 0 := fun zero => nonzero (UInt64.toNat_inj.mp zero)
  rw [UInt64.toNat_div]
  exact Nat.div_lt_self (Nat.pos_of_ne_zero positive) (by decide)

/-- Canonical decimal text, as the loop of the runtime writes it. -/
def toString (id : StrongId tag) : Text :=
  if id.value = 0 then text "0" else writeDigits (UInt64.ofNat id.value) []

/-- Read the remaining digits of a word; stop at another character and before an overflow. -/
def parseDigits (value : UInt64) : Text → Option UInt64
  | [] => some value
  | character :: rest =>
      if character < 48 || character > 57 then none
      else
        let digit := (character - 48).toUInt64
        if value > (0xFFFFFFFFFFFFFFFF - digit) / 10 then none
        else parseDigits (value * 10 + digit) rest

/-- Read canonical decimal text. -/
def parse (characters : Text) : Option (StrongId tag) :=
  if characters.isEmpty || characters.length > 20 then none
  else if characters.length > 1 && characters.head? = some 48 then none
  else (parseDigits 0 characters).map fromValue

end StrongId

/-! ## Numerals -/

theorem isDigit_iff (character : UInt8) :
    IsDigit character ↔ 48 ≤ character.toNat ∧ character.toNat ≤ 57 := by
  rw [IsDigit, UInt8.le_iff_toNat_le, UInt8.le_iff_toNat_le]
  rfl

theorem IsDigit.value_lt {character : UInt8} (digit : IsDigit character) :
    digitValue character < 10 := by
  obtain ⟨low, high⟩ := (isDigit_iff character).mp digit
  rw [digitValue]
  omega

/-- A digit is the character of its value. -/
theorem IsDigit.ofNat_value {character : UInt8} (digit : IsDigit character) :
    UInt8.ofNat (48 + digitValue character) = character := by
  obtain ⟨low, high⟩ := (isDigit_iff character).mp digit
  rw [digitValue, show 48 + (character.toNat - 48) = character.toNat by omega]
  exact UInt8.ofNat_toNat

theorem toNat_digit {digit : Nat} (small : digit < 10) :
    (UInt8.ofNat (48 + digit)).toNat = 48 + digit := by
  rw [UInt8.toNat_ofNat', Nat.mod_eq_of_lt (by omega)]

theorem isDigit_ofNat {digit : Nat} (small : digit < 10) : IsDigit (UInt8.ofNat (48 + digit)) := by
  rw [isDigit_iff, toNat_digit small]
  omega

/-- One more digit at the end of a numeral. -/
theorem decimal_snoc {value digit : Nat} (positive : 0 < value) (small : digit < 10) :
    decimal (value * 10 + digit) = decimal value ++ [UInt8.ofNat (48 + digit)] := by
  have digits := Nat.digits_add 10 (by decide) digit value small (.inr positive.ne')
  rw [show digit + 10 * value = value * 10 + digit by ring] at digits
  rw [decimal, if_neg (by omega), digits, decimal, if_neg positive.ne', List.reverse_cons,
    List.map_append]
  rfl

theorem decimal_digit {digit : Nat} (small : digit < 10) :
    decimal digit = [UInt8.ofNat (48 + digit)] := by
  rw [decimal]
  split
  · subst digit
    rfl
  · rw [Nat.digits_of_lt 10 digit (by assumption) small]
    rfl

/-- A numeral is a digit, or a shorter numeral and a digit. -/
theorem decimal_cases (value : Nat) :
    (value < 10 ∧ decimal value = [UInt8.ofNat (48 + value)]) ∨
      (10 ≤ value ∧ decimal value = decimal (value / 10) ++ [UInt8.ofNat (48 + value % 10)]) := by
  rcases Nat.lt_or_ge value 10 with small | large
  · exact .inl ⟨small, decimal_digit small⟩
  · refine .inr ⟨large, ?_⟩
    rw [← decimal_snoc (by omega) (by omega), show value / 10 * 10 + value % 10 = value by omega]

theorem decimal_isDigit (value : Nat) : ∀ character ∈ decimal value, IsDigit character := by
  induction value using Nat.strong_induction_on with
  | _ value ih =>
      intro character member
      rcases decimal_cases value with ⟨small, written⟩ | ⟨large, written⟩
      · rw [written, List.mem_singleton] at member
        exact member ▸ isDigit_ofNat small
      · rw [written, List.mem_append, List.mem_singleton] at member
        rcases member with front | rfl
        · exact ih (value / 10) (by omega) character front
        · exact isDigit_ofNat (by omega)

/-- The first digit of a positive number is not zero. -/
theorem decimal_head {value : Nat} (positive : 0 < value) :
    ∃ first rest, decimal value = first :: rest ∧ first ≠ 48 := by
  induction value using Nat.strong_induction_on with
  | _ value ih =>
      rcases decimal_cases value with ⟨small, written⟩ | ⟨large, written⟩
      · refine ⟨_, [], written, fun zero => ?_⟩
        have same := congrArg UInt8.toNat zero
        rw [toNat_digit small] at same
        have : 48 + value = 48 := same
        omega
      · obtain ⟨first, rest, shorter, nonzero⟩ := ih (value / 10) (by omega) (by omega)
        exact ⟨first, _, by rw [written, shorter]; rfl, nonzero⟩

/-- A numeral denotes its number. -/
theorem numeral_decimal (value : Nat) : numeral (decimal value) = value := by
  induction value using Nat.strong_induction_on with
  | _ value ih =>
      rcases decimal_cases value with ⟨small, written⟩ | ⟨large, written⟩
      · rw [written, numeral, extend, List.foldl_cons, List.foldl_nil, digitValue,
          toNat_digit small]
        omega
      · have front := ih (value / 10) (by omega)
        rw [numeral, extend] at front
        rw [written, numeral, extend, List.foldl_append, front, List.foldl_cons, List.foldl_nil,
          digitValue, toNat_digit (by omega)]
        omega

/-- Digits read after a positive number are written after its numeral. -/
theorem decimal_extend {value : Nat} (positive : 0 < value) {digits : Text}
    (all : ∀ character ∈ digits, IsDigit character) :
    decimal (extend value digits) = decimal value ++ digits := by
  induction digits generalizing value with
  | nil => exact (List.append_nil _).symm
  | cons character rest ih =>
      obtain ⟨digit, all⟩ := List.forall_mem_cons.mp all
      have next : 0 < value * 10 + digitValue character := by omega
      calc
        decimal (extend value (character :: rest)) =
            decimal (value * 10 + digitValue character) ++ rest := ih next all
        _ = (decimal value ++ [character]) ++ rest := by
          rw [decimal_snoc positive digit.value_lt, digit.ofNat_value]
        _ = decimal value ++ character :: rest := by simp

/-- Digits without a leading zero are a numeral. -/
theorem decimal_numeral {first : UInt8} {rest : Text} (digit : IsDigit first)
    (all : ∀ character ∈ rest, IsDigit character) (leading : rest = [] ∨ first ≠ 48) :
    decimal (numeral (first :: rest)) = first :: rest := by
  have single : decimal (digitValue first) = [first] := by
    rw [decimal_digit digit.value_lt, digit.ofNat_value]
  have value : numeral (first :: rest) = extend (digitValue first) rest := by
    rw [numeral, extend, List.foldl_cons, Nat.zero_mul, Nat.zero_add]
    rfl
  rcases leading with rfl | nonzero
  · rw [value]
    exact single
  · have positive : 0 < digitValue first := by
      obtain ⟨low, high⟩ := (isDigit_iff first).mp digit
      have apart : first.toNat ≠ 48 := fun same => nonzero (UInt8.toNat_inj.mp same)
      rw [digitValue]
      omega
    rw [value, decimal_extend positive all, single]
    rfl

theorem le_extend (value : Nat) (digits : Text) : value ≤ extend value digits := by
  induction digits generalizing value with
  | nil => exact le_rfl
  | cons character rest ih =>
      have later := ih (value * 10 + digitValue character)
      rw [extend, List.foldl_cons]
      exact le_trans (by omega) later

/-- A number has at most `length` digits when it is below that power of ten. -/
theorem decimal_length {value length : Nat} (below : value < 10 ^ length) (some_ : 0 < length) :
    (decimal value).length ≤ length := by
  rw [decimal]
  split
  · exact some_
  · rw [List.length_map, List.length_reverse, Nat.digits_length_le_iff (by decide)]
    exact below

/-! ## The two loops -/

namespace StrongId

variable {tag : Tag}

/-- The loop of divisions writes the numeral. -/
theorem writeDigits_eq (word : UInt64) (written : Text) (positive : word.toNat ≠ 0) :
    writeDigits word written = decimal word.toNat ++ written := by
  obtain ⟨value, value_eq⟩ : ∃ value, word.toNat = value := ⟨_, rfl⟩
  induction value using Nat.strong_induction_on generalizing word written with
  | _ value ih =>
      have ten : (10 : UInt64).toNat = 10 := rfl
      have quotient : (word / 10).toNat = value / 10 := by rw [UInt64.toNat_div, ten, value_eq]
      have digit : 48 + (word % 10).toUInt8 = UInt8.ofNat (48 + value % 10) := by
        apply UInt8.toNat_inj.mp
        rw [toNat_digit (by omega), UInt8.toNat_add, UInt64.toNat_toUInt8, UInt64.toNat_mod, ten,
          value_eq]
        have character : (48 : UInt8).toNat = 48 := rfl
        omega
      have nonzero : word ≠ 0 := fun zero => positive (zero ▸ rfl)
      rw [writeDigits, if_neg nonzero, digit, value_eq]
      rcases decimal_cases value with ⟨small, numeral⟩ | ⟨large, numeral⟩
      · have done : word / 10 = 0 := UInt64.toNat_inj.mp (by rw [quotient]; exact Nat.div_eq_of_lt small)
        rw [done, writeDigits, if_pos rfl, numeral, Nat.mod_eq_of_lt small]
        rfl
      · rw [ih (value / 10) (by omega) (word / 10) _ (by omega) quotient, quotient, numeral,
          List.append_assoc]
        rfl

/-- The text of an identity is the numeral of its value. -/
theorem toString_fromValue (word : UInt64) :
    (fromValue word : StrongId tag).toString = decimal word.toNat := by
  rw [toString, fromValue]
  split
  · rename_i zero
    rw [show word.toNat = 0 from zero]
    rfl
  · rename_i positive
    rw [UInt64.ofNat_toNat, writeDigits_eq word [] positive, List.append_nil]

/-- The loop writes the canonical text of every identity of the runtime. -/
theorem toString_eq_toText {id : StrongId tag} (word : id.value < 2 ^ 64) :
    id.toString = id.toText := by
  have same : id = fromValue (UInt64.ofNat id.value) := by
    rw [fromValue, UInt64.toNat_ofNat_of_lt' word]
  rw [same, toString_fromValue]
  rfl

/-- The buffer of the loop has room for every identity. -/
theorem toString_length (word : UInt64) :
    (fromValue word : StrongId tag).toString.length ≤ 20 := by
  rw [toString_fromValue]
  exact decimal_length (lt_trans word.toNat_lt (by norm_num)) (by decide)

/-- The guard stops exactly before a digit that would overflow the word. -/
theorem guard_iff (value : UInt64) {digit : UInt64} (small : digit.toNat < 10) :
    value > (0xFFFFFFFFFFFFFFFF - digit) / 10 ↔ 2 ^ 64 ≤ value.toNat * 10 + digit.toNat := by
  have bound : (0xFFFFFFFFFFFFFFFF : UInt64).toNat = 2 ^ 64 - 1 := rfl
  have ten : (10 : UInt64).toNat = 10 := rfl
  have room : digit ≤ 0xFFFFFFFFFFFFFFFF := by
    rw [UInt64.le_iff_toNat_le]
    omega
  rw [gt_iff_lt, UInt64.lt_iff_toNat_lt, UInt64.toNat_div, UInt64.toNat_sub_of_le _ _ room, bound,
    ten]
  omega

/-- The loop of multiplications after a digit. -/
theorem parseDigits_cons (value : UInt64) {character : UInt8} (digit : IsDigit character)
    (rest : Text) :
    parseDigits value (character :: rest) =
      if 2 ^ 64 ≤ extend value.toNat [character] then none
      else parseDigits (UInt64.ofNat (extend value.toNat [character])) rest := by
  obtain ⟨low, high⟩ := digit
  have digitWord : (character - 48).toUInt64.toNat = digitValue character := by
    rw [UInt8.toNat_toUInt64, UInt8.toNat_sub_of_le _ _ low]
    rfl
  have inRange : (character < 48 || character > 57) = false := by
    simpa using ⟨low, high⟩
  have next : extend value.toNat [character] =
      value.toNat * 10 + (character - 48).toUInt64.toNat := by
    rw [digitWord]
    rfl
  have small : (character - 48).toUInt64.toNat < 10 := digitWord ▸ IsDigit.value_lt ⟨low, high⟩
  rw [parseDigits, inRange, next, if_neg Bool.false_ne_true]
  simp only [guard_iff value small]
  have word : value * 10 + (character - 48).toUInt64 =
      UInt64.ofNat (value.toNat * 10 + (character - 48).toUInt64.toNat) := by
    rw [UInt64.ofNat_add, UInt64.ofNat_mul, UInt64.ofNat_toNat, UInt64.ofNat_toNat]
    rfl
  rw [word]

/-- The loop of multiplications reads a string of digits unless its value overflows the word. -/
theorem parseDigits_eq (value : UInt64) {digits : Text}
    (all : ∀ character ∈ digits, IsDigit character) :
    parseDigits value digits =
      if 2 ^ 64 ≤ extend value.toNat digits then none
      else some (UInt64.ofNat (extend value.toNat digits)) := by
  induction digits generalizing value with
  | nil =>
      have bounded := value.toNat_lt
      rw [parseDigits, extend, List.foldl_nil, if_neg (by omega), UInt64.ofNat_toNat]
  | cons character rest ih =>
      obtain ⟨digit, all⟩ := List.forall_mem_cons.mp all
      have split_ : extend value.toNat (character :: rest) =
          extend (extend value.toNat [character]) rest := rfl
      rw [parseDigits_cons value digit, split_]
      by_cases overflow : 2 ^ 64 ≤ extend value.toNat [character]
      · rw [if_pos overflow, if_pos (overflow.trans (le_extend _ rest))]
      · rw [if_neg overflow, ih _ all, UInt64.toNat_ofNat_of_lt' (by simpa using overflow)]

/-- Only digits are read. -/
theorem parseDigits_isDigit {value result : UInt64} {characters : Text}
    (read : parseDigits value characters = some result) :
    ∀ character ∈ characters, IsDigit character := by
  induction characters generalizing value with
  | nil => simp
  | cons character rest ih =>
      rw [parseDigits] at read
      split at read
      · cases read
      · rename_i inRange
        have digit : IsDigit character := by simpa [IsDigit] using inRange
        dsimp only at read
        split at read
        · cases read
        · exact List.forall_mem_cons.mpr ⟨digit, ih read⟩

/-- Reading succeeds on numerals of words. -/
theorem parse_decimal {value : Nat} (word : value < 2 ^ 64) :
    (parse (decimal value) : Option (StrongId tag)) = some (fromValue (UInt64.ofNat value)) := by
  have short : (decimal value).length ≤ 20 :=
    decimal_length (lt_trans word (by norm_num)) (by decide)
  have leading : (decimal value ≠ []) ∧
      ¬ ((decimal value).length > 1 ∧ (decimal value).head? = some 48) := by
    rcases Nat.eq_zero_or_pos value with rfl | positive
    · exact ⟨by decide, by decide⟩
    · obtain ⟨first, rest, written, nonzero⟩ := decimal_head positive
      rw [written]
      exact ⟨List.cons_ne_nil _ _, fun ⟨_, zero⟩ => nonzero (Option.some.inj zero)⟩
  have read : parseDigits 0 (decimal value) = some (UInt64.ofNat value) := by
    have denotes : extend (0 : UInt64).toNat (decimal value) = value := numeral_decimal value
    rw [parseDigits_eq 0 (decimal_isDigit value), denotes, if_neg (by omega)]
  rw [parse, if_neg (by simpa using ⟨leading.1, short⟩), if_neg (by simpa using leading.2), read]
  rfl

/-- What is read is the numeral of its value. -/
theorem decimal_of_parse {characters : Text} {id : StrongId tag}
    (read : parse characters = some id) :
    ∃ word, id = fromValue word ∧ characters = decimal word.toNat := by
  rw [parse] at read
  split at read
  · cases read
  rename_i nonempty
  split at read
  · cases read
  rename_i leading
  obtain ⟨word, parsed, rfl⟩ := Option.map_eq_some_iff.mp read
  refine ⟨word, rfl, ?_⟩
  have all := parseDigits_isDigit parsed
  have value : extend (0 : UInt64).toNat characters = word.toNat := by
    rw [parseDigits_eq 0 all] at parsed
    split at parsed
    · cases parsed
    · rename_i bounded
      rw [← Option.some.inj parsed, UInt64.toNat_ofNat_of_lt' (by simpa using bounded)]
  cases characters with
  | nil => simp at nonempty
  | cons first rest =>
      obtain ⟨digit, others⟩ := List.forall_mem_cons.mp all
      have unpadded : rest = [] ∨ first ≠ 48 := by
        rw [or_iff_not_imp_left]
        rintro more rfl
        have long := List.length_pos_iff.mpr more
        simp [long] at leading
      rw [← value]
      exact (decimal_numeral digit others unpadded).symm

/-- Identity text is canonical: reading accepts the numerals of words without leading zeros and
nothing else, writing is its inverse, and the guard refuses the digits of larger numbers. -/
theorem identity_text_canonical :
    (∀ characters, (parse characters : Option (StrongId tag)).isSome = true ↔
      ∃ value < 2 ^ 64, characters = decimal value) ∧
    (∀ (characters : Text) (id : StrongId tag), parse characters = some id →
      id.toString = characters) ∧
    (∀ word, parse (fromValue word : StrongId tag).toString = some (fromValue word : StrongId tag)) ∧
    ∀ digits, (∀ character ∈ digits, IsDigit character) →
      (parseDigits 0 digits = none ↔ 2 ^ 64 ≤ numeral digits) := by
  refine ⟨fun characters => ⟨fun accepted => ?_, ?_⟩, fun characters id read => ?_, fun word => ?_,
    fun digits all => ?_⟩
  · obtain ⟨id, read⟩ := Option.isSome_iff_exists.mp accepted
    obtain ⟨word, -, written⟩ := decimal_of_parse read
    exact ⟨word.toNat, word.toNat_lt, written⟩
  · rintro ⟨value, word, rfl⟩
    rw [parse_decimal word]
    rfl
  · obtain ⟨word, rfl, written⟩ := decimal_of_parse read
    rw [toString_fromValue, written]
  · rw [toString_fromValue, parse_decimal word.toNat_lt, UInt64.ofNat_toNat]
  · have start : extend (0 : UInt64).toNat digits = numeral digits := rfl
    rw [parseDigits_eq 0 all, start]
    split <;> simp_all

end StrongId

end ExperimentFabric
