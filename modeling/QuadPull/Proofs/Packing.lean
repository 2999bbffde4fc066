import Mathlib.Data.Int.Bitwise
import QuadPull.Graph.TermId

namespace QuadPull.TermId

def kindShift : ℕ := 62

def kindMask : ℤ := 3

def payloadMask : ℤ := (1 : ℤ) <<< kindShift - 1

/-- The bits of a kind, with the last bits of a payload below them. -/
def packed (k : TermKind) (payload : ℤ) : ℤ :=
  Int.lor ((k.code : ℤ) <<< kindShift) (Int.land payload payloadMask)

def tag (id : ℤ) : ℤ := Int.land (id >>> kindShift) kindMask

theorem ldiff_mask (m width : ℕ) :
    Nat.ldiff (2 ^ width - 1) m = 2 ^ width - (m % 2 ^ width + 1) := by
  have below : m % 2 ^ width < 2 ^ width := Nat.mod_lt m (Nat.two_pow_pos width)
  apply Nat.eq_of_testBit_eq
  intro i
  rw [Nat.testBit_ldiff, Nat.testBit_two_pow_sub_one, Nat.testBit_two_pow_sub_succ below,
    Nat.testBit_mod_two_pow]
  by_cases low : i < width
  · simp [low]
  · simp [low]

/-- The last bits of an integer are its remainder, also when it is negative. -/
theorem land_mask (n : ℤ) (width : ℕ) :
    Int.land n ((2 ^ width - 1 : ℕ) : ℤ) = n % ((2 ^ width : ℕ) : ℤ) := by
  cases n with
  | ofNat m =>
    have bits : Int.land (Int.ofNat m) ((2 ^ width - 1 : ℕ) : ℤ) = ((m &&& (2 ^ width - 1) : ℕ) : ℤ) := rfl
    rw [bits, Nat.and_two_pow_sub_one_eq_mod]
    exact Int.natCast_mod m (2 ^ width)
  | negSucc m =>
    have bits : Int.land (Int.negSucc m) ((2 ^ width - 1 : ℕ) : ℤ) = (Nat.ldiff (2 ^ width - 1) m : ℤ) := rfl
    have positive : (0 : ℤ) < ((2 ^ width : ℕ) : ℤ) := Int.natCast_pos.2 (Nat.two_pow_pos width)
    have below : m % 2 ^ width + 1 ≤ 2 ^ width := Nat.mod_lt m (Nat.two_pow_pos width)
    rw [bits, ldiff_mask, Int.negSucc_emod m positive, Int.natCast_sub below, Int.natCast_add,
      Int.natCast_mod]
    omega

theorem land_payloadMask (n : ℤ) : Int.land n payloadMask = n % 2 ^ 62 := land_mask n 62

theorem make_eq_packed (k : TermKind) (payload : ℤ) : (make k payload : ℤ) = packed k payload := by
  have size : (payloadSize : ℤ) = 2 ^ 62 := rfl
  obtain ⟨low, rest⟩ := Int.eq_ofNat_of_zero_le (Int.emod_nonneg payload (b := 2 ^ 62) (by decide))
  have below : low < 2 ^ 62 := by omega
  have joined : Int.lor ((k.code : ℤ) <<< kindShift) (low : ℤ) = ((k.code <<< 62 ||| low : ℕ) : ℤ) := rfl
  rw [packed, land_payloadMask, rest, joined, ← Nat.shiftLeft_add_eq_or_of_lt below, Nat.shiftLeft_eq, make,
    size, rest, Int.toNat_natCast]
  rfl

theorem code_kind_eq_tag (id : ℤ) : ((kind id).code : ℤ) = tag id := by
  have shifted : id >>> kindShift = id / payloadSize := Int.shiftRight_eq_div_pow id 62
  rw [tag, code_kind, shifted]
  exact (land_mask _ 2).symm

theorem land_payloadMask_make (k : TermKind) (payload : ℤ) :
    Int.land (make k payload : ℤ) payloadMask = payload % 2 ^ 62 := by
  have size : (payloadSize : ℤ) = 2 ^ 62 := rfl
  rw [land_payloadMask, make]
  push_cast
  rw [size]
  omega

theorem make_eq_iff (k l : TermKind) (m n : ℤ) :
    make k m = make l n ↔ k = l ∧ m % 2 ^ 62 = n % 2 ^ 62 := by
  refine ⟨fun same => ⟨?_, ?_⟩, ?_⟩
  · rw [← kind_make k m, same, kind_make]
  · rw [← land_payloadMask_make k m, same, land_payloadMask_make]
  · rintro ⟨rfl, rests⟩
    have size : (payloadSize : ℤ) = 2 ^ 62 := rfl
    rw [make, make, size, rests]

/-- Every kind and every integer make an identifier of sixty-four bits, from which the kind and the last
bits of the integer are read and nothing else. The bits above the payload are the number of the kind, and
the range of a kind holds the identifiers of that kind. -/
theorem packing_exact :
    (∀ (k : TermKind) (payload : ℤ),
      (make k payload : ℤ) = packed k payload ∧ make k payload < 2 ^ 64 ∧ kind (make k payload) = k ∧
      Int.land (make k payload) payloadMask = payload % 2 ^ 62) ∧
    (∀ (k l : TermKind) (m n : ℤ), make k m = make l n ↔ k = l ∧ m % 2 ^ 62 = n % 2 ^ 62) ∧
    (∀ id : ℤ, ((kind id).code : ℤ) = tag id) ∧
    ∀ (k : TermKind) (id : TermId), id < 2 ^ 64 → (inRange k id = true ↔ kind id = k) := by
  refine ⟨?_, make_eq_iff, code_kind_eq_tag, ?_⟩
  · intro k payload
    exact ⟨make_eq_packed k payload, make_lt k payload, kind_make k payload, land_payloadMask_make k payload⟩
  · intro k id bound
    exact inRange_iff k bound

theorem packing_of_minus_one :
    make .blank (-1) + 1 = make .quoted 0 ∧ make .blank (-1) < 2 ^ 64 ∧
    inRange .blank (make .blank (-1)) = true ∧ inRange .quoted (make .blank (-1)) = false := by
  obtain ⟨made, -, -, ranges⟩ := packing_exact
  obtain ⟨-, bound, named, -⟩ := made .blank (-1)
  refine ⟨rfl, bound, (ranges .blank _ bound).2 named, ?_⟩
  rw [← Bool.not_eq_true, ranges .quoted _ bound, named]
  decide

end QuadPull.TermId
