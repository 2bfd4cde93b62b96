import Mathlib.Data.Rat.Floor

namespace Everest.Ocpp.V2.DeviceModel

inductive SetVariableStatusEnum
  | accepted
  | rejected
  | unknownComponent
  | unknownVariable
  | notSupportedAttributeType
  | rebootRequired
deriving DecidableEq, Repr

inductive MutabilityEnum
  | readOnly
  | writeOnly
  | readWrite
deriving DecidableEq, Repr

inductive DataEnum
  | string
  | integer
  /-- A data type without limits, or with limits that are compared as they are. -/
  | other
deriving DecidableEq, Repr

structure VariableCharacteristics where
  dataType : DataEnum
  minLimit : Option ℚ
  maxLimit : Option ℚ

structure VariableAttribute where
  mutability : Option MutabilityEnum
  persistent : Option Bool

structure VariableMetaData where
  characteristics : VariableCharacteristics
  /-- What `read_attribute` finds. -/
  variableAttribute : Option VariableAttribute
  isHeldInMemory : Bool

def splitSign : List Char → Bool × List Char
  | '-' :: digits => (true, digits)
  | '+' :: digits => (false, digits)
  | digits => (false, digits)

def isInteger (value : List Char) : Bool :=
  !value.isEmpty && (splitSign value).2.all Char.isDigit

def number (digits : List Char) : ℤ :=
  digits.foldl (fun n digit => 10 * n + (digit.toNat - '0'.toNat : ℕ)) 0

/-- `std::stoi` of what `is_integer` lets through, or its exception. -/
def stoi (value : List Char) : Option ℤ :=
  let (minus, digits) := splitSign value
  let i := if minus then -number digits else number digits
  if digits = [] ∨ i < -2 ^ 31 ∨ 2 ^ 31 ≤ i then none else some i

def toSizeT (value : ℤ) : ℕ := (value % 2 ^ 64).toNat

/-- Out of the range of `long long` the result is LLONG_MIN. -/
def llround (value : ℤ) : ℤ := if value < 2 ^ 63 then value else -2 ^ 63

/-- `clamp_to` compares without signs, so that it is no more than the conversion. -/
def convertToPositiveSizeT (value : ℚ) : ℕ :=
  if value < 0 then 0 else toSizeT (llround ⌈value⌉)

/-- `none` is an exception, `validateOther` the check of the other data types. -/
def validateValue (validateOther : List Char → Bool) (characteristics : VariableCharacteristics)
    (value : List Char) (allowZero : Bool) : Option Bool :=
  let within (size : ℕ) : Bool :=
    characteristics.minLimit.all (fun limit => convertToPositiveSizeT limit ≤ size) &&
      characteristics.maxLimit.all fun limit => size ≤ convertToPositiveSizeT limit
  match characteristics.dataType with
  | .string => some (within value.length)
  | .integer =>
    if isInteger value then
      (stoi value).map fun i => allowZero && i == 0 || within (toSizeT i)
    else some false
  | .other => some (validateOther value)

/-- `metaData` is what the device model has for the component and its variable, `stored` the
answer of the storage. -/
def setValue (validateOther : List Char → Bool) (metaData : Option (Option VariableMetaData))
    (allowZero : Bool) (stored : SetVariableStatusEnum) (value : List Char)
    (allowReadOnly : Bool) : SetVariableStatusEnum :=
  match metaData with
  | none => .unknownComponent
  | some none => .unknownVariable
  | some (some metaData) =>
    if validateValue validateOther metaData.characteristics value allowZero ≠ some true then
      .rejected
    else
      match metaData.variableAttribute with
      | none => .notSupportedAttributeType
      | some found =>
        if found.mutability = none ∨ found.mutability = some .readOnly ∧ allowReadOnly = false then
          .rejected
        else if (metaData.isHeldInMemory = false ∨ found.persistent.getD true = true) ∧
            stored ≠ .accepted then stored
        else .accepted

def decimalValue (sign : Option Bool) (digits : List (Fin 10)) : ℤ :=
  let n := digits.foldl (fun (n : ℤ) digit => 10 * n + digit.val) 0
  if sign = some true then -n else n

/-- An integer of 32 bits in writing. The sign, if there is one, is a minus or a plus. -/
structure Decimal where
  sign : Option Bool
  digits : List (Fin 10)
  nonempty : digits ≠ []
  inRange : -2 ^ 31 ≤ decimalValue sign digits ∧ decimalValue sign digits < 2 ^ 31

namespace Decimal

def value (d : Decimal) : ℤ := decimalValue d.sign d.digits

def digitChars (d : Decimal) : List Char := d.digits.map fun digit => .ofNat (48 + digit.val)

def text (d : Decimal) : List Char :=
  (d.sign.map fun minus => if minus then '-' else '+').toList ++ d.digitChars

lemma splitSign_text (d : Decimal) : splitSign d.text = (d.sign == some true, d.digitChars) := by
  have hdigit : ∀ digit : Fin 10, Char.ofNat (48 + digit.val) ≠ '-' ∧
      Char.ofNat (48 + digit.val) ≠ '+' := by decide
  obtain ⟨sign, digits, hne, -⟩ := d
  match sign, digits, hne with
  | some true, _, _ | some false, _, _ => rfl
  | none, digit :: digits, _ => simp [text, digitChars, splitSign, hdigit]

lemma number_digitChars (d : Decimal) :
    number d.digitChars = d.digits.foldl (fun (n : ℤ) digit => 10 * n + digit.val) 0 := by
  have hdigit : ∀ digit : Fin 10, (Char.ofNat (48 + digit.val)).toNat - '0'.toNat = digit.val := by
    decide
  simp only [number, digitChars, List.foldl_map, hdigit]

lemma stoi_text (d : Decimal) : isInteger d.text = true ∧ stoi d.text = some d.value := by
  have hdigit : ∀ digit : Fin 10, (Char.ofNat (48 + digit.val)).isDigit = true := by decide
  constructor
  · rw [isInteger, splitSign_text]
    simp [text, digitChars, hdigit, d.nonempty]
  · rw [stoi, splitSign_text]
    have hvalue : (if d.sign == some true then -number d.digitChars else number d.digitChars) =
        d.value := by simp [value, decimalValue, number_digitChars]
    have hin : -2 ^ 31 ≤ d.value ∧ d.value < 2 ^ 31 := d.inRange
    have hne : d.digitChars ≠ [] := by simp [digitChars, d.nonempty]
    simp only [hvalue, hne, false_or]
    rw [if_neg (by omega)]

end Decimal

variable (minLimit maxLimit : Option ℚ) (i : ℤ)

def Within : Prop := (∀ limit ∈ minLimit, limit ≤ i) ∧ ∀ limit ∈ maxLimit, i ≤ limit

/-- A negative value is within the limits exactly if there is no `maxLimit`. Any other value that
`minLimit` admits is not above a `maxLimit` that would round up to it. -/
def Enforced : Prop :=
  if i < 0 then Within minLimit maxLimit i ↔ maxLimit = none
  else (∀ limit ∈ minLimit, limit ≤ i) → ∀ limit ∈ maxLimit, i = ⌈limit⌉₊ → i ≤ limit

lemma convertToPositiveSizeT_eq (limit : ℚ) :
    convertToPositiveSizeT limit = min ⌈limit⌉₊ (2 ^ 63) := by
  unfold convertToPositiveSizeT llround toSizeT
  split_ifs with hneg hlt
  · simp [Nat.ceil_eq_zero.2 hneg.le]
  · rw [← Int.ceil_toNat]
    have hceil : 0 ≤ ⌈limit⌉ := Int.ceil_nonneg (not_lt.1 hneg)
    omega
  · rw [← Int.ceil_toNat]
    omega

variable {i}

lemma compared_iff (hi : -2 ^ 31 ≤ i ∧ i < 2 ^ 31) :
    ((∀ limit ∈ minLimit, convertToPositiveSizeT limit ≤ toSizeT i) ∧
      ∀ limit ∈ maxLimit, toSizeT i ≤ convertToPositiveSizeT limit) ↔
    if i < 0 then maxLimit = none
    else (∀ limit ∈ minLimit, limit ≤ i) ∧ ∀ limit ∈ maxLimit, i ≤ ⌈limit⌉₊ := by
  simp only [convertToPositiveSizeT_eq, toSizeT]
  split_ifs with hneg
  · have hlow (n : ℕ) : min n (2 ^ 63) ≤ (i % 2 ^ 64).toNat := by omega
    have hhigh (n : ℕ) : ¬(i % 2 ^ 64).toNat ≤ min n (2 ^ 63) := by omega
    simp only [hlow, hhigh]
    cases maxLimit <;> simp
  · obtain ⟨n, rfl⟩ := Int.eq_ofNat_of_zero_le (not_lt.1 hneg)
    have hmod : ((n : ℤ) % 2 ^ 64).toNat = n := by omega
    have hlow (limit : ℚ) : min ⌈limit⌉₊ (2 ^ 63) ≤ n ↔ limit ≤ (n : ℤ) := by
      rw [min_le_iff, Nat.ceil_le, Int.cast_natCast]
      exact or_iff_left (by omega)
    have hhigh (m : ℕ) : n ≤ min m (2 ^ 63) ↔ (n : ℤ) ≤ m := by omega
    simp only [hmod, hlow, hhigh]

/-- A limit that rounds up lets one value more through. -/
theorem le_limit_iff (hi : 0 ≤ i) (limit : ℚ) :
    i ≤ limit ↔ i ≤ ⌈limit⌉₊ ∧ (i = ⌈limit⌉₊ → i ≤ limit) := by
  obtain ⟨n, rfl⟩ := Int.eq_ofNat_of_zero_le hi
  simp only [Int.cast_natCast, Nat.cast_le, Nat.cast_inj]
  refine ⟨fun h => ⟨Nat.cast_le.1 (h.trans (Nat.le_ceil limit)), fun _ => h⟩, ?_⟩
  rintro ⟨hle, hround⟩
  rcases hle.eq_or_lt with heq | hlt
  · exact hround heq
  · exact (Nat.lt_ceil.1 hlt).le

structure WritableAttribute extends VariableAttribute where
  writable : mutability = some .writeOnly ∨ mutability = some .readWrite

/-- Setting an integer is accepted exactly if it is within the limits, if and only if the limits
can be enforced on it. -/
theorem set_value_within_limits_iff (validateOther : List Char → Bool)
    (minLimit maxLimit : Option ℚ) (writable : WritableAttribute)
    (isHeldInMemory allowReadOnly : Bool) (d : Decimal) :
    (setValue validateOther (some (some
        { characteristics := { dataType := .integer, minLimit, maxLimit }
          variableAttribute := some writable.toVariableAttribute, isHeldInMemory }))
        false .accepted d.text allowReadOnly = .accepted ↔ Within minLimit maxLimit d.value) ↔
      Enforced minLimit maxLimit d.value := by
  obtain ⟨hinteger, hstoi⟩ := d.stoi_text
  have hmutable : ¬(writable.mutability = none ∨
      writable.mutability = some .readOnly ∧ allowReadOnly = false) := by
    rcases writable.writable with h | h <;> simp [h]
  refine Iff.trans (iff_congr (Iff.trans ?_ (compared_iff minLimit maxLimit d.inRange)) .rfl) ?_
  · simp only [setValue, validateValue, hinteger, hstoi, hmutable, if_false]
    simp [Option.all_eq_true, Decimal.value]
  · unfold Enforced Within Decimal.value
    split_ifs with hneg
    · exact iff_comm
    · have hle := le_limit_iff (not_lt.1 hneg)
      cases maxLimit <;> grind

/-- A minimum of 5 admits -1, a maximum of 5/2 admits 3, and a maximum of 10 refuses -1. -/
theorem integer_limits_missed :
    let accepts (minLimit maxLimit : Option ℚ) (value : String) := setValue (fun _ => true)
      (some (some ⟨⟨.integer, minLimit, maxLimit⟩, some ⟨some .readWrite, none⟩, true⟩))
      false .accepted value.toList false = .accepted
    accepts (some 5) none "-1" ∧ accepts none (some (5 / 2)) "3" ∧
      ¬accepts none (some 10) "-1" := by
  decide +kernel

end Everest.Ocpp.V2.DeviceModel
