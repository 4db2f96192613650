import AnglerHal.CString
import Mathlib.Data.List.TakeWhile
import Mathlib.Data.Nat.Digits.Lemmas

namespace AnglerHal.Strtol

open CString

/-!
# Numbers in strings

A pointer into a string is what remains of the string without its NUL.  `strtol` of
a text without a number is 0 and leaves the text where it begins.
-/

/-- `isdigit`. -/
def isDigit (byte : UInt8) : Bool :=
  48 ≤ byte && byte ≤ 57

/-- The number that some digits stand for. -/
def natOf (digits : Bytes) : Nat :=
  digits.foldl (fun value byte => 10 * value + (byte.toNat - 48)) 0

/-- Whether a text begins with a minus, and the text without its sign. -/
def withoutSign : Bytes → Bool × Bytes
  | 45 :: rest => (true, rest)
  | 43 :: rest => (false, rest)
  | text => (false, text)

/-- The number at the begin of a text, and what is behind it: white space, a sign, digits. -/
def numeral (text : Bytes) : Option (Int × Bytes) :=
  let signed := withoutSign (text.dropWhile isSpace)
  let digits := signed.2.takeWhile isDigit
  if digits = [] then
    none
  else
    some (if signed.1 then -natOf digits else natOf digits, signed.2.dropWhile isDigit)

/-- The size of a `long`. -/
inductive LongSize where
  | ilp32
  | lp64
  deriving DecidableEq

/-- `LONG_MAX`. -/
def LongSize.max : LongSize → Int
  | .ilp32 => 2147483647
  | .lp64 => 9223372036854775807

/-- `strtol` with base 10, and what it leaves `endptr` at. -/
def strtol (long : LongSize) (text : Bytes) : Int × Bytes :=
  match numeral text with
  | none => (0, text)
  | some (value, rest) => (Max.max (-long.max - 1) (Min.min value long.max), rest)

/-- `(int) strtol`. -/
def strtolInt (long : LongSize) (text : Bytes) : Int32 × Bytes :=
  (Int32.ofInt (strtol long text).1, (strtol long text).2)

/-- The decimal digits of a number. -/
def decimalNat (number : Nat) : Bytes :=
  if number = 0 then [48] else (Nat.digits 10 number).reverse.map fun digit => .ofNat (48 + digit)

/-- The conversion `%d`. -/
def decimal (number : Int32) : Bytes :=
  if number.toInt < 0 then
    45 :: decimalNat number.toInt.natAbs
  else
    decimalNat number.toInt.natAbs

/-! ## Reading -/

/-- A number that an `int` holds. -/
def FitsInt (value : Int) : Prop :=
  -2147483648 ≤ value ∧ value ≤ 2147483647

instance (value : Int) : Decidable (FitsInt value) :=
  inferInstanceAs (Decidable (_ ∧ _))

section Reading

variable {long : LongSize} {text rest : Bytes} {value : Int}

theorem strtolInt_of_none (noNumber : numeral text = none) : strtolInt long text = (0, text) := by
  simp [strtolInt, strtol, noNumber]

theorem strtolInt_snd (isNumber : numeral text = some (value, rest)) :
    (strtolInt long text).2 = rest := by
  simp [strtolInt, strtol, isNumber]

/-- A number is read as it stands exactly when an `int` holds it. -/
theorem strtolInt_fst_iff (isNumber : numeral text = some (value, rest)) :
    (strtolInt long text).1.toInt = value ↔ FitsInt value := by
  have lower := (strtolInt long text).1.le_toInt
  have upper := (strtolInt long text).1.toInt_lt
  constructor
  · intro same
    unfold FitsInt
    omega
  · rintro ⟨atLeast, atMost⟩
    have kept : Max.max (-long.max - 1) (Min.min value long.max) = value := by
      cases long with
      | ilp32 => simp only [LongSize.max]; omega
      | lp64 => simp only [LongSize.max]; omega
    simp only [strtolInt, strtol, isNumber, kept]
    exact Int32.toInt_ofInt_of_le (by omega) (by omega)

theorem strtolInt_of_fits (isNumber : numeral text = some (value, rest)) (fits : FitsInt value) :
    strtolInt long text = (.ofInt value, rest) := by
  refine Prod.ext ?_ (strtolInt_snd isNumber)
  apply Int32.toInt_inj.mp
  rw [(strtolInt_fst_iff isNumber).mpr fits]
  exact (Int32.toInt_ofInt_of_le (by have := fits.1; omega) (by have := fits.2; omega)).symm

theorem length_withoutSign_le (text : Bytes) : (withoutSign text).2.length ≤ text.length := by
  unfold withoutSign
  split
  · exact Nat.le_succ _
  · exact Nat.le_succ _
  · exact Nat.le_refl _

/-- A number takes something from the text. -/
theorem length_of_numeral (isNumber : numeral text = some (value, rest)) :
    rest.length < text.length := by
  simp only [numeral] at isNumber
  split at isNumber
  next => cases isNumber
  next nonempty =>
    obtain rfl := (Prod.mk.inj (Option.some.inj isNumber)).2
    have spaces := (List.dropWhile_suffix isSpace (l := text)).length_le
    have sign := length_withoutSign_le (text.dropWhile isSpace)
    have split := congrArg List.length (List.takeWhile_append_dropWhile
      (p := isDigit) (l := (withoutSign (text.dropWhile isSpace)).2))
    have some := List.length_pos_of_ne_nil nonempty
    rw [List.length_append] at split
    omega

/-- What is in front of the rest is white space, a sign or digits. -/
theorem mem_of_numeral (isNumber : numeral text = some (value, rest)) {byte : UInt8}
    (member : byte ∈ text) :
    byte ∈ rest ∨ isSpace byte = true ∨ byte = 45 ∨ byte = 43 ∨ isDigit byte = true := by
  simp only [numeral] at isNumber
  split at isNumber
  next => cases isNumber
  next =>
    obtain rfl := (Prod.mk.inj (Option.some.inj isNumber)).2
    rw [← List.takeWhile_append_dropWhile (p := isSpace) (l := text), List.mem_append] at member
    rcases member with space | behind
    · exact .inr (.inl (List.mem_takeWhile_imp space))
    generalize text.dropWhile isSpace = signed at behind ⊢
    have unsigned : byte = 45 ∨ byte = 43 ∨ byte ∈ (withoutSign signed).2 := by
      unfold withoutSign
      split
      · exact (List.mem_cons.mp behind).imp_right .inr
      · exact .inr (List.mem_cons.mp behind)
      · exact .inr (.inr behind)
    rcases unsigned with minus | plus | digits
    · exact .inr (.inr (.inl minus))
    · exact .inr (.inr (.inr (.inl plus)))
    rw [← List.takeWhile_append_dropWhile (p := isDigit) (l := (withoutSign signed).2),
      List.mem_append] at digits
    rcases digits with digit | after
    · exact .inr (.inr (.inr (.inr (List.mem_takeWhile_imp digit))))
    · exact .inl after

end Reading

/-! ## Writing -/

section Writing

variable {number : Nat} {rest : Bytes}

theorem isDigit_of_lt {digit : Nat} (isDecimal : digit < 10) :
    isDigit (.ofNat (48 + digit)) = true ∧ (UInt8.ofNat (48 + digit)).toNat - 48 = digit := by
  interval_cases digit <;> decide

theorem decimalNat_digits (number : Nat) : ∀ byte ∈ decimalNat number, isDigit byte = true := by
  intro byte member
  unfold decimalNat at member
  split at member
  · obtain rfl := List.mem_singleton.mp member
    rfl
  · obtain ⟨digit, inDigits, rfl⟩ := List.mem_map.mp member
    exact (isDigit_of_lt (Nat.digits_lt_base (by decide) (List.mem_reverse.mp inDigits))).1

theorem decimalNat_ne_nil (number : Nat) : decimalNat number ≠ [] := by
  unfold decimalNat
  split
  · exact List.cons_ne_nil _ _
  · next notZero => simpa [Nat.digits_eq_nil_iff_eq_zero] using notZero

theorem natOf_decimalNat (number : Nat) : natOf (decimalNat number) = number := by
  unfold decimalNat
  split
  · next zero => simp [zero, natOf]
  · rw [natOf, List.foldl_map, List.foldl_reverse]
    have read : (Nat.digits 10 number).foldr
        (fun digit value => 10 * value + ((UInt8.ofNat (48 + digit)).toNat - 48)) 0 =
          (Nat.digits 10 number).foldr (fun digit value => digit + 10 * value) 0 := by
      refine List.foldr_ext _ _ _ fun digit member value => ?_
      rw [(isDigit_of_lt (Nat.digits_lt_base (by decide) member)).2, Nat.add_comm]
    rw [read]
    exact (Nat.ofDigits_eq_foldr 10 _).symm.trans (Nat.ofDigits_digits 10 number)

theorem length_decimalNat_le {width : Nat} (positive : 0 < width) (bound : number < 10 ^ width) :
    (decimalNat number).length ≤ width := by
  unfold decimalNat
  split
  · exact positive
  · rw [List.length_map, List.length_reverse]
    exact (Nat.digits_length_le_iff (by decide) number).mpr bound

/-- A number that is written is read again, up to what is no digit. -/
theorem numeral_decimalNat (number : Nat)
    (stops : ∀ byte ∈ rest.head?, isDigit byte = false) :
    numeral (decimalNat number ++ rest) = some ((number : Int), rest) := by
  have digits := decimalNat_digits number
  have value := natOf_decimalNat number
  have nonempty := decimalNat_ne_nil number
  generalize decimalNat number = text at *
  have takes : (text ++ rest).takeWhile isDigit = text := by
    rw [List.takeWhile_append_of_pos digits]
    cases rest with
    | nil => simp
    | cons byte rest => simp [stops byte (by simp)]
  have drops : (text ++ rest).dropWhile isDigit = rest := by
    rw [List.dropWhile_append_of_pos digits]
    cases rest with
    | nil => rfl
    | cons byte rest => simp [stops byte (by simp)]
  obtain ⟨first, later, rfl⟩ := List.exists_cons_of_ne_nil nonempty
  have isFirst := digits first (by simp)
  have noSpace : isSpace first = false := by
    revert isFirst
    simp only [isDigit, isSpace, Bool.and_eq_true, decide_eq_true_eq, UInt8.le_iff_toNat_le,
      Bool.or_eq_false_iff, Bool.and_eq_false_iff, decide_eq_false_iff_not, beq_eq_false_iff_ne,
      ne_eq, ← UInt8.toNat_inj]
    intro range
    have lower : 48 ≤ first.toNat := range.1
    refine ⟨?_, .inr ?_⟩
    · show first.toNat ≠ 32
      omega
    · show ¬ first.toNat ≤ 13
      omega
  have noSign : withoutSign (first :: later ++ rest) = (false, first :: later ++ rest) := by
    unfold withoutSign
    split
    · next same =>
      obtain rfl := (List.cons.inj same).1
      cases isFirst
    · next same =>
      obtain rfl := (List.cons.inj same).1
      cases isFirst
    · rfl
  have spaces : (first :: later ++ rest).dropWhile isSpace = first :: later ++ rest := by
    simp [noSpace]
  simp only [numeral, spaces, noSign, takes, drops, nonempty, if_false, value, Bool.false_eq_true]

theorem numeral_decimal {number : Int32} (nonneg : 0 ≤ number.toInt)
    (stops : ∀ byte ∈ rest.head?, isDigit byte = false) :
    numeral (decimal number ++ rest) = some (number.toInt, rest) := by
  rw [decimal, if_neg (by omega), numeral_decimalNat _ stops, Int.natAbs_of_nonneg nonneg]

end Writing

end AnglerHal.Strtol
