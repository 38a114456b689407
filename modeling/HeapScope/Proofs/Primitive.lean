import HeapScope.Primitive
import HeapScope.Proofs.Text.Numeral
import Mathlib.Algebra.Group.Nat.Defs

/-!
# Bytes and texts of primitive values

The bytes of a number give the number back, as far as there are enough of them, and its front bytes
give its remainder. The texts `true` and `false` are those of the two Booleans alone: no number is
written with the letter e, and a character stands between single quotes.
-/

namespace HeapScope

/-- A number is written with as many bytes as were asked for. -/
theorem length_toLittleEndian (size n : Nat) : (toLittleEndian size n).length = size := by
  induction size generalizing n with
  | zero => rfl
  | succ size ih => rw [toLittleEndian, List.length_cons, ih]

/-- The bytes of a number stand for the number, if there are enough of them. -/
theorem littleEndian_toLittleEndian {size n : Nat} (fits : n < 256 ^ size) :
    littleEndian (toLittleEndian size n) = n := by
  induction size generalizing n with
  | zero => exact (Nat.lt_one_iff.1 fits).symm
  | succ size ih =>
    have low : (UInt8.ofNat (n % 256)).toNat = n % 256 :=
      UInt8.toNat_ofNat_of_lt' (Nat.mod_lt n (by decide))
    rw [toLittleEndian, littleEndian, low, ih (Nat.div_lt_of_lt_mul (by rwa [← Nat.pow_succ'])),
      Nat.mod_add_div]

/-- Bytes are those of the number that they stand for. -/
theorem toLittleEndian_littleEndian (bytes : List UInt8) :
    toLittleEndian bytes.length (littleEndian bytes) = bytes := by
  induction bytes with
  | nil => rfl
  | cons b rest ih =>
    have small : b.toNat < 256 := b.toNat_lt
    rw [List.length_cons, littleEndian, toLittleEndian, Nat.add_mul_mod_self_left,
      Nat.mod_eq_of_lt small, Nat.add_mul_div_left _ _ (by decide), Nat.div_eq_of_lt small,
      Nat.zero_add, ih, UInt8.ofNat_toNat]

/-- The front bytes of a number stand for its remainder. -/
theorem littleEndian_take (bytes : List UInt8) (size : Nat) :
    littleEndian (bytes.take size) = littleEndian bytes % 256 ^ size := by
  induction bytes generalizing size with
  | nil => rw [List.take_nil, littleEndian, Nat.zero_mod]
  | cons b rest ih =>
    cases size with
    | zero => rw [List.take_zero, Nat.pow_zero, Nat.mod_one, littleEndian]
    | succ size =>
      have small : b.toNat < 256 := b.toNat_lt
      rw [List.take_succ_cons, littleEndian, littleEndian, ih, Nat.pow_succ', Nat.mod_mul,
        Nat.add_mul_mod_self_left, Nat.mod_eq_of_lt small, Nat.add_mul_div_left _ _ (by decide),
        Nat.div_eq_of_lt small, Nat.zero_add]

namespace Text

/-- No decimal is written with the letter e. -/
theorem e_not_mem_writeDigits (n : Nat) : 'e' ∉ writeDigits 10 n := by
  have digits : ∀ d < 10, 'e' ≠ digitChar d := by decide
  exact not_mem_writeDigits (by decide) digits n

/-- No decimal digit is the letter of an exponent. -/
theorem e_not_mem_decimal (n : Nat) : 'e' ∉ (decimal n).toList := by
  rw [decimal, String.toList_ofList]
  exact e_not_mem_writeDigits n

/-- Nor is a sign. -/
theorem e_not_mem_signed (n : Int) : 'e' ∉ (signed n).toList := by
  rw [signed]
  split
  · rw [String.toList_append, List.mem_append]
    exact not_or.2 ⟨by decide, e_not_mem_decimal _⟩
  · exact e_not_mem_decimal _

end Text

namespace Decimal

/-- What a decimal is written with is written with its digits, with zeros, or it is the point. -/
theorem e_not_mem_positional (d : Dec) : 'e' ∉ d.positional := by
  have digits := Text.e_not_mem_writeDigits d.digits
  have zeros : ∀ n, 'e' ∉ List.replicate n '0' := fun n mem =>
    absurd (List.eq_of_mem_replicate mem) (by decide)
  have padded : ∀ n, 'e' ∉ List.replicate n '0' ++ Text.writeDigits 10 d.digits := fun n => by
    rw [List.mem_append]
    exact not_or.2 ⟨zeros n, digits⟩
  rw [Dec.positional]
  split
  · rw [List.mem_append]
    exact not_or.2 ⟨digits, zeros _⟩
  · dsimp only
    split
    · exact fun mem => padded _ (List.mem_of_mem_take mem)
    · rw [List.mem_append, List.mem_cons, List.mem_reverse]
      refine not_or.2 ⟨fun mem => padded _ (List.mem_of_mem_take mem), not_or.2 ⟨by decide, ?_⟩⟩
      intro mem
      have kept := List.mem_reverse.1 ((List.dropWhile_sublist _).mem mem)
      exact padded _ (List.mem_of_mem_drop kept)

/-- No floating-point number is written with the letter e. -/
theorem e_not_mem_text (f : BinaryFormat) (bits : Nat) : 'e' ∉ (f.text bits).toList := by
  rw [BinaryFormat.text]
  cases f.read bits with
  | notANumber => decide
  | infinite negative => cases negative <;> decide
  | finite negative x =>
    have digits : 'e' ∉ if x.m = 0 then ['0'] else x.shortest.positional := by
      split
      · decide
      · exact e_not_mem_positional _
    cases negative with
    | false => simpa using digits
    | true => simpa using digits

end Decimal

namespace PrimitiveValue

variable {value : PrimitiveValue} {b : Bool}

/-- The text of a truth value is that of no other value. -/
theorem text_ne_of_asBool_eq_none (other : value.asBool = none) (b : Bool) :
    value.text ≠ (boolean b).text := by
  have named : 'e' ∈ (boolean b).text.toList := by cases b <;> decide
  have without (h : 'e' ∉ value.text.toList) : value.text ≠ (boolean b).text := fun same =>
    h (same ▸ named)
  cases value with
  | boolean => cases other
  | char unit =>
    -- a single quote opens the text
    intro same
    have opens : (boolean b).text.toList.head? ≠ some '\'' := by cases b <;> decide
    refine opens ?_
    rw [← same]
    show (unitText unit).toList.head? = _
    rw [unitText, String.toList_ofList]
    split <;> rfl
  | float | double => exact without (Decimal.e_not_mem_text _ _)
  | byte | short | int | long => exact without (Text.e_not_mem_signed _)
  | ubyte | ushort | uint | ulong => exact without (Text.e_not_mem_decimal _)

/-- The two truth values are shown differently. -/
theorem text_boolean_inj {a b : Bool} : (boolean a).text = (boolean b).text ↔ a = b := by
  cases a <;> cases b <;> decide

/-- A value is true or false exactly if its text says so. -/
theorem asBool_eq_some_iff : value.asBool = some b ↔ value.text = (boolean b).text := by
  cases value with
  | boolean a => rw [asBool, Option.some_inj, text_boolean_inj]
  | _ => exact ⟨nofun, fun same => absurd same (text_ne_of_asBool_eq_none rfl b)⟩

end PrimitiveValue

end HeapScope
