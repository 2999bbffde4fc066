import QuadPull.Number.Natural
import QuadPull.Term.Basic
/-!
Identifiers of stored terms (`make_term_id`, `get_term_kind`): two bits for the kind of term above
sixty-two bits of payload. Zero is the default graph.
-/

namespace QuadPull

inductive TermKind where
  | iri
  | literal
  | blank
  | quoted
  deriving DecidableEq, Repr

namespace TermKind

def code : TermKind → Nat
  | .iri => 0
  | .literal => 1
  | .blank => 2
  | .quoted => 3

def ofCode (n : Nat) : TermKind :=
  match n % 4 with
  | 0 => .iri
  | 1 => .literal
  | 2 => .blank
  | _ => .quoted

def label : TermKind → String
  | .iri => "IRI"
  | .literal => "LITERAL"
  | .blank => "BNODE"
  | .quoted => "QUOTED_TRIPLE"

def all : List TermKind := [.iri, .literal, .blank, .quoted]

theorem code_lt (k : TermKind) : k.code < 4 := by cases k <;> decide

@[simp] theorem ofCode_code (k : TermKind) : ofCode k.code = k := by cases k <;> rfl

theorem code_inj {k l : TermKind} : k.code = l.code ↔ k = l := by
  refine ⟨fun same => ?_, congrArg code⟩
  rw [← ofCode_code k, same, ofCode_code]

@[simp] theorem code_ofCode (n : Nat) : (ofCode n).code = n % 4 := by
  have bound : n % 4 < 4 := Nat.mod_lt n (by decide)
  unfold ofCode
  split
  · rename_i rest
    exact rest.symm
  · rename_i rest
    exact rest.symm
  · rename_i rest
    exact rest.symm
  · rename_i iri literal blank
    have rest : n % 4 ≠ 0 ∧ n % 4 ≠ 1 ∧ n % 4 ≠ 2 := ⟨iri, literal, blank⟩
    change 3 = n % 4
    omega

end TermKind

def Term.kind? : Term → Option TermKind
  | .iri _ => some .iri
  | .literal _ => some .literal
  | .blank _ => some .blank
  | .quoted .. => some .quoted
  | .loose (.iri _) => some .iri
  | .loose (.literal ..) => some .literal
  | .loose (.blank _) => some .blank
  | .var _ | .defaultGraph | .loose .nothing => none

/-- An identifier below `2 ^ 64`. -/
abbrev TermId := Nat

namespace TermId

def payloadSize : Nat := 0x4000000000000000

def defaultGraph : TermId := 0

/-- The identifier of a kind and a payload (`make_term_id`), of which the last sixty-two bits count. -/
def make (kind : TermKind) (payload : Int) : TermId :=
  kind.code * payloadSize + (payload % payloadSize).toNat

def kind (id : Int) : TermKind := .ofCode (id / payloadSize % 4).toNat

/-- Whether an identifier lies between the first of a kind and the first of the next (`_kind_range`); the
last kind has no upper end. -/
def inRange (k : TermKind) (id : TermId) : Bool :=
  make k 0 ≤ id && (k = .quoted || id < make (.ofCode (k.code + 1)) 0)

theorem make_of_lt (k : TermKind) {n : Nat} (h : n < payloadSize) :
    make k n = k.code * payloadSize + n := by
  have payload : ((n : Int) % payloadSize).toNat = n := by
    rw [Int.emod_eq_of_lt (by omega) (by omega), Int.toNat_natCast]
  rw [make, payload]

theorem make_lt (k : TermKind) (payload : Int) : make k payload < Number.twoTo 64 := by
  have code := k.code_lt
  have two : Number.twoTo 64 = 4 * 0x4000000000000000 := rfl
  change k.code * 0x4000000000000000 + (payload % 0x4000000000000000).toNat < Number.twoTo 64
  rw [two]
  omega

@[simp] theorem kind_make (k : TermKind) (payload : Int) : kind (make k payload) = k := by
  have code := k.code_lt
  have high : ((make k payload : Int) / payloadSize % 4).toNat = k.code := by
    have size : (payloadSize : Int) = 0x4000000000000000 := rfl
    rw [size, make, Int.natCast_add, Int.natCast_mul, size]
    omega
  rw [kind, high, TermKind.ofCode_code]

theorem make_zero (k : TermKind) : make k 0 = k.code * payloadSize := by
  rw [make, Int.zero_emod, Int.toNat_zero, Nat.add_zero]

theorem code_kind (id : Int) : ((kind id).code : Int) = id / payloadSize % 4 := by
  have size : (payloadSize : Int) = 0x4000000000000000 := rfl
  rw [kind, TermKind.code_ofCode, size]
  omega

theorem inRange_iff (k : TermKind) {id : Nat} (bound : id < Number.twoTo 64) :
    inRange k id = true ↔ kind id = k := by
  have two : Number.twoTo 64 = 4 * 0x4000000000000000 := rfl
  have size : payloadSize = 0x4000000000000000 := rfl
  have high : ((kind id).code : Int) = id / 0x4000000000000000 % 4 := code_kind id
  rw [two] at bound
  rw [← TermKind.code_inj]
  unfold inRange TermId
  rw [make_zero, make_zero, TermKind.code_ofCode, size]
  generalize (kind id).code = code at high ⊢
  simp only [Bool.and_eq_true, Bool.or_eq_true, decide_eq_true_iff]
  cases k <;> simp only [TermKind.code, reduceCtorEq, false_or, true_or, and_true] <;> omega

theorem eq_of_make_eq {k l : TermKind} {m n : Nat} (hm : m < payloadSize) (hn : n < payloadSize)
    (h : make k m = make l n) : k = l ∧ m = n := by
  have kinds : k = l := by rw [← kind_make k m, h, kind_make]
  subst kinds
  rw [make_of_lt k hm, make_of_lt k hn] at h
  exact ⟨rfl, Nat.add_left_cancel h⟩

theorem make_ne_defaultGraph (k : TermKind) {n : Nat} (pos : 0 < n) (h : n < payloadSize) :
    make k n ≠ defaultGraph := by
  rw [make_of_lt k h, defaultGraph]
  exact Nat.ne_of_gt (Nat.lt_of_lt_of_le pos (Nat.le_add_left n _))

end TermId

end QuadPull
