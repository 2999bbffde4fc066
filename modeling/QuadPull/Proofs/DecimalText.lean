import Mathlib.Algebra.Field.Rat
import Mathlib.Tactic.FieldSimp
import Mathlib.Tactic.Ring
import QuadPull.Number.Decimal
import QuadPull.Proofs.LexicalSpace
/-!
The lexical space of `xsd:decimal` has no exponents, so it holds the texts of just those decimals that are
written without one.
-/

namespace QuadPull

namespace Lexical

inductive UnsignedText : List Char → ℚ → Prop
  | whole {width n : Nat} {ds : List Char} (digits : Text.Digits width ds n) (some_digit : 0 < width) :
      UnsignedText ds n
  | pointed {width places n m : Nat} {ds fs : List Char} (before : Text.Digits width ds n)
      (after : Text.Digits places fs m) (some_digit : 0 < width + places) :
      UnsignedText (ds ++ '.' :: fs) (n + m / 10 ^ places)

inductive DecimalText : List Char → ℚ → Prop
  | plain {cs : List Char} {q : ℚ} (unsigned : UnsignedText cs q) : DecimalText cs q
  | plus {cs : List Char} {q : ℚ} (unsigned : UnsignedText cs q) : DecimalText ('+' :: cs) q
  | minus {cs : List Char} {q : ℚ} (unsigned : UnsignedText cs q) : DecimalText ('-' :: cs) (-q)

inductive ScientificText : List Char → ℚ → Prop
  | mk {cs es : List Char} {q : ℚ} {e : Int} (numeral : DecimalText cs q) (exponent : IntegerText es e) :
      ScientificText (cs ++ 'E' :: es) (q * 10 ^ e)

theorem not_exponentMark_of_digits {width n : Nat} {ds : List Char} (digits : Text.Digits width ds n) :
    'E' ∉ ds := fun member => absurd (digits.all 'E' member) (by decide)

theorem UnsignedText.no_exponent {cs : List Char} {q : ℚ} (spelled : UnsignedText cs q) : 'E' ∉ cs := by
  cases spelled with
  | whole digits => exact not_exponentMark_of_digits digits
  | pointed before after =>
    simp [not_exponentMark_of_digits before, not_exponentMark_of_digits after]

theorem DecimalText.no_exponent {cs : List Char} {q : ℚ} (spelled : DecimalText cs q) : 'E' ∉ cs := by
  cases spelled with
  | plain unsigned => exact unsigned.no_exponent
  | plus unsigned | minus unsigned => simp [unsigned.no_exponent]

theorem ScientificText.exponent {cs : List Char} {q : ℚ} (spelled : ScientificText cs q) : 'E' ∈ cs := by
  cases spelled with
  | mk => simp

end Lexical

namespace Number.Decimal

open Lexical

theorem cast_tenTo (k : Nat) : (tenTo k : ℚ) = 10 ^ k := by simp [Nat.pow_eq]

def scaled (coefficient : Nat) (exponent : Int) : ℚ := coefficient * 10 ^ exponent

theorem scaled_up (n k : Nat) : scaled n k = (n * tenTo k : Nat) := by
  rw [scaled, zpow_natCast, Nat.cast_mul, cast_tenTo]

theorem scaled_down (n m k : Nat) : scaled (n * tenTo k + m) (-(k : Int)) = n + m / 10 ^ k := by
  rw [scaled, zpow_neg, zpow_natCast]
  push_cast [cast_tenTo]
  field_simp

theorem scaled_add (n : Nat) (d e : Int) : scaled n (d + e) = scaled n d * 10 ^ e := by
  rw [scaled, scaled, zpow_add₀ (by decide), mul_assoc]

def rational? : Decimal → Option ℚ
  | .finite negative c e => some (if negative then -scaled c e else scaled c e)
  | _ => none

/-- Finite decimals whose last digit is behind the point or at it, and whose first is before the point or
among the six places behind it. -/
def IsPositional : Decimal → Prop
  | .finite _ c e => e ≤ 0 ∧ -6 < e + (Text.digits c).length
  | _ => False

variable {width n c : Nat} {ds : List Char} {e : Int}

/-- Digits with a point put in denote what the digits do, scaled by the place of the point. -/
theorem pointed_spelled (digits : Text.Digits width ds n) (some_digit : 0 < width) (point : Int) :
    UnsignedText (pointed ds point) (scaled n (point - width)) := by
  have length := digits.length
  unfold pointed
  split
  · -- Zeros stand between the point and the digits.
    have fraction := (Text.digits_zeros point.natAbs).append digits
    have place : point - width = -((point.natAbs + width : Nat) : Int) := by omega
    have value := scaled_down 0 (0 * tenTo width + n) (point.natAbs + width)
    rw [Nat.zero_mul, Nat.zero_mul, Nat.zero_add, Nat.zero_add] at value
    rw [Nat.zero_mul, Nat.zero_add] at fraction
    rw [place, value]
    exact .pointed (Text.digits_zeros 1) fraction (by omega)
  · split
    · -- The point stands among the digits.
      have whole : Text.Digits width (ds.take point.natAbs ++ ds.drop point.natAbs) n := by
        rwa [List.take_append_drop]
      obtain ⟨before, after, value⟩ := whole.split
      rw [List.length_drop, length] at after value
      have place : point - width = -((width - point.natAbs : Nat) : Int) := by omega
      rw [place, value, scaled_down]
      exact .pointed before after (by omega)
    · -- Zeros stand behind the digits, and no point.
      have filled := digits.append (Text.digits_zeros (point.natAbs - ds.length))
      have place : point - width = ((point.natAbs - ds.length : Nat) : Int) := by omega
      rw [place, scaled_up]
      exact .whole filled (by omega)

theorem exponentText_spelled (e : Int) :
    exponentText e = [] ∧ e = 0 ∨ ∃ es, exponentText e = 'E' :: es ∧ IntegerText es e := by
  unfold exponentText
  by_cases zero : e = 0
  · exact .inl ⟨if_pos zero, zero⟩
  rw [if_neg zero]
  refine .inr ⟨_, rfl, ?_⟩
  have digits := Text.digits_self e.natAbs
  have some_digit := Text.length_digits_pos e.natAbs
  by_cases negative : e < 0
  · have value : e = -(e.natAbs : Int) := by omega
    have spelled := IntegerText.minus digits some_digit
    rw [← value] at spelled
    rwa [if_pos negative]
  · have value : e = (e.natAbs : Int) := by omega
    have spelled := IntegerText.plus digits some_digit
    rw [← value] at spelled
    rwa [if_neg negative]

def signText (negative : Bool) : List Char := if negative then ['-'] else []

theorem toList_toText (negative : Bool) (c : Nat) (e : Int) :
    (finite negative c e).toText.toList = signText negative ++ magnitude c e := by
  cases negative <;> simp [toText, signText]

theorem signed_spelled {cs : List Char} {q : ℚ} (spelled : UnsignedText cs q) (negative : Bool) :
    DecimalText (signText negative ++ cs) (if negative then -q else q) := by
  cases negative with
  | false => exact .plain spelled
  | true => exact .minus spelled

theorem magnitude_positional {negative : Bool} (positional : (finite negative c e).IsPositional) :
    magnitude c e = pointed (Text.digits c) (e + (Text.digits c).length) := by
  obtain ⟨small, large⟩ := positional
  have among : (decide (e ≤ 0) && decide (-6 < e + ((Text.digits c).length : Int))) = true := by
    simp [small, large]
  simp [magnitude, among, exponentText]

theorem magnitude_scientific {negative : Bool} (scientific : ¬ (finite negative c e).IsPositional) :
    ∃ es, magnitude c e = pointed (Text.digits c) 1 ++ 'E' :: es ∧
      IntegerText es (e + (Text.digits c).length - 1) := by
  have some_digit := Text.length_digits_pos c
  have outside : ¬ (e ≤ 0 ∧ -6 < e + ((Text.digits c).length : Int)) := scientific
  have among : (decide (e ≤ 0) && decide (-6 < e + ((Text.digits c).length : Int))) = false := by
    rw [← Bool.not_eq_true, Bool.and_eq_true, decide_eq_true_iff, decide_eq_true_iff]
    exact outside
  rcases exponentText_spelled (e + (Text.digits c).length - 1) with ⟨-, none⟩ | ⟨es, written, spelled⟩
  · omega
  · refine ⟨es, ?_, spelled⟩
    simp [magnitude, among, written]

theorem toText_spelled {d : Decimal} {q : ℚ} (value : d.rational? = some q) :
    (d.IsPositional → DecimalText d.toText.toList q) ∧
      (¬ d.IsPositional → ScientificText d.toText.toList q) := by
  cases d with
  | infinity | nan => cases value
  | finite negative c e =>
    obtain rfl := Option.some.inj value
    have digits := Text.digits_self c
    have some_digit := Text.length_digits_pos c
    rw [toList_toText]
    refine ⟨fun positional => ?_, fun scientific => ?_⟩
    · have spelled := pointed_spelled digits some_digit (e + (Text.digits c).length)
      rw [Int.add_sub_cancel] at spelled
      rw [magnitude_positional positional]
      exact signed_spelled spelled negative
    · have spelled := pointed_spelled digits some_digit 1
      obtain ⟨es, written, exponent⟩ := magnitude_scientific scientific
      have whole := ScientificText.mk (signed_spelled spelled negative) exponent
      have value : scaled c e =
          scaled c (1 - (Text.digits c).length) * 10 ^ (e + (Text.digits c).length - 1) := by
        rw [← scaled_add]
        congr 1
        omega
      rw [written, ← List.append_assoc, value]
      cases negative with
      | false => exact whole
      | true => rwa [if_pos rfl, neg_mul] at whole

end Number.Decimal

end QuadPull
