import QuadPull.Proofs.Comparison
import QuadPull.Proofs.Reachability
/-!
What plans select from a set of quads, said without an order of evaluation.
-/

namespace QuadPull.Pull

mutual

def isCompiled : Spec → Bool
  | .property (.iri _) | .recursive (.iri _) | .constraint (.iri _) _ => true
  | .wildcard => true
  | .nested (.iri _) plan => areCompiled plan
  | _ => false

def areCompiled : List Spec → Bool
  | [] => true
  | spec :: rest => isCompiled spec && areCompiled rest

end

/-- The filters that a subject must meet: every constraint in strict mode, otherwise the constraints of a
level of bound constraints and nothing else. -/
def Required (strict : Bool) (plan : Plan) (p : Term) (v : Value) : Prop :=
  .constraint p v ∈ plan ∧
    (strict = true ∨ ∀ spec ∈ plan, ∃ q w, spec = .constraint q w ∧ w ≠ .absent)

section

variable (Q : Finset Quad) (strict : Bool)

def Accepts (plan : Plan) (s : Term) : Prop :=
  ∀ p v, Required strict plan p v → ∃ q ∈ Q, q.subject = s ∧ q.predicate = p ∧ satisfies q.object v = true

mutual

/-- The quads that a specifier offers at a subject. -/
def Offers : Spec → Term → Quad → Prop
  | .property p, s, q => q ∈ Q ∧ q.subject = s ∧ q.predicate = p
  | .wildcard, s, q => q ∈ Q ∧ q.subject = s
  | .constraint p v, s, q => q ∈ Q ∧ q.subject = s ∧ q.predicate = p ∧ satisfies q.object v = true
  | .nested p plan, s, q => ∃ link ∈ Q, link.subject = s ∧ link.predicate = p ∧
      Accepts Q strict plan link.object ∧ (q = link ∨ OffersAny plan link.object q)
  | .recursive p, s, q => q ∈ Q ∧ q.predicate = p ∧ Reaches Q p s q.subject
  | .raw _, _, _ => False

def OffersAny : List Spec → Term → Quad → Prop
  | [], _, _ => False
  | spec :: rest, s, q => Offers spec s q ∨ OffersAny rest s q

end

def Selects (plan : Plan) (s : Term) (q : Quad) : Prop :=
  Accepts Q strict plan s ∧ OffersAny Q strict plan s q

mutual

/-- A specifier follows a link to a level that accepts its object and cannot be evaluated there. -/
def Stumbles : Spec → Term → Prop
  | .nested p plan, s => ∃ link ∈ Q, link.subject = s ∧ link.predicate = p ∧
      Accepts Q strict plan link.object ∧
      (Plan.Clashes (Plan.filters plan strict) ∨ StumblesAny plan link.object)
  | _, _ => False

def StumblesAny : List Spec → Term → Prop
  | [], _ => False
  | spec :: rest, s => Stumbles spec s ∨ StumblesAny rest s

end

/-- A plan cannot be evaluated at a subject that it accepts when its filters clash, or when a nested level
cannot. -/
def Breaks (plan : Plan) (s : Term) : Prop :=
  Accepts Q strict plan s ∧ (Plan.Clashes (Plan.filters plan strict) ∨ StumblesAny Q strict plan s)

end

variable {Q : Finset Quad} {strict : Bool}

theorem areCompiled_iff {specs : List Spec} :
    areCompiled specs = true ↔ ∀ spec ∈ specs, isCompiled spec = true := by
  induction specs with
  | nil => simp [areCompiled]
  | cons first rest ih => rw [areCompiled, Bool.and_eq_true, ih, List.forall_mem_cons]

theorem isCompiled_of_mem {specs : List Spec} (compiled : areCompiled specs = true) :
    ∀ spec ∈ specs, isCompiled spec = true := areCompiled_iff.1 compiled

def predicate? : Spec → Option Term
  | .property p | .constraint p _ | .nested p _ | .recursive p => some p
  | _ => none

theorem isProper_of_isCompiled {spec : Spec} (compiled : isCompiled spec = true) {p : Term}
    (along : predicate? spec = some p) : p.isProper = true := by
  have name : ∃ value, p = .iri value := by
    cases spec <;> cases along <;> cases p <;> first | exact ⟨_, rfl⟩ | cases compiled
  obtain ⟨value, rfl⟩ := name
  rfl

theorem areCompiled_of_nested {p : Term} {plan : Plan} (compiled : isCompiled (.nested p plan) = true) :
    areCompiled plan = true := by
  cases p with
  | iri value => simpa [isCompiled] using compiled
  | _ => cases compiled

theorem isBound_iff {spec : Spec} :
    spec.isBound = true ↔ ∃ p v, spec = .constraint p v ∧ v ≠ .absent := by
  cases spec with
  | constraint p v => cases v <;> simp [Spec.isBound, Value.isAbsent]
  | _ => simp [Spec.isBound]

theorem mem_filters_iff {plan : Plan} {spec : Spec} :
    spec ∈ Plan.filters plan strict ↔ ∃ p v, spec = .constraint p v ∧ Required strict plan p v := by
  rw [Plan.filters, List.mem_filter]
  cases strict with
  | true =>
    refine ⟨?_, ?_⟩
    · intro held
      obtain ⟨member, filters⟩ := held
      cases spec with
      | constraint p v => exact ⟨p, v, rfl, member, .inl rfl⟩
      | _ => cases filters
    · intro held
      obtain ⟨p, v, rfl, member, -⟩ := held
      exact ⟨member, rfl⟩
  | false =>
    have all_bound : Plan.filtersBy plan false spec = true ↔
        plan ≠ [] ∧ ∀ spec ∈ plan, ∃ p v, spec = .constraint p v ∧ v ≠ .absent := by
      simp [Plan.filtersBy, Plan.isFilter, isBound_iff]
    rw [all_bound]
    refine ⟨?_, ?_⟩
    · intro held
      obtain ⟨member, -, bound⟩ := held
      obtain ⟨p, v, rfl, -⟩ := bound spec member
      exact ⟨p, v, rfl, member, .inr bound⟩
    · intro held
      rcases held with ⟨p, v, rfl, member, strict | bound⟩
      · cases strict
      · exact ⟨member, List.ne_nil_of_mem member, bound⟩

theorem offersAny_iff {specs : List Spec} {s : Term} {q : Quad} :
    OffersAny Q strict specs s q ↔ ∃ spec ∈ specs, Offers Q strict spec s q := by
  induction specs with
  | nil => simp [OffersAny]
  | cons spec rest ih => simp [OffersAny, ih]

theorem stumblesAny_iff {specs : List Spec} {s : Term} :
    StumblesAny Q strict specs s ↔ ∃ spec ∈ specs, Stumbles Q strict spec s := by
  induction specs with
  | nil => simp [StumblesAny]
  | cons spec rest ih => simp [StumblesAny, ih]

mutual

theorem mem_of_offers : ∀ {spec : Spec} {s : Term} {q : Quad}, Offers Q strict spec s q → q ∈ Q
  | .property p, s, q, offered => by
    rw [Offers] at offered
    exact offered.1
  | .wildcard, s, q, offered => by
    rw [Offers] at offered
    exact offered.1
  | .constraint p v, s, q, offered => by
    rw [Offers] at offered
    exact offered.1
  | .nested p plan, s, q, offered => by
    rw [Offers] at offered
    obtain ⟨link, member, -, -, -, rfl | onward⟩ := offered
    · exact member
    · exact mem_of_offersAny onward
  | .recursive p, s, q, offered => by
    rw [Offers] at offered
    exact offered.1
  | .raw item, s, q, offered => by
    rw [Offers] at offered
    exact offered.elim

theorem mem_of_offersAny : ∀ {specs : List Spec} {s : Term} {q : Quad},
    OffersAny Q strict specs s q → q ∈ Q
  | [], s, q, offered => by
    rw [OffersAny] at offered
    exact offered.elim
  | spec :: rest, s, q, offered => by
    rw [OffersAny] at offered
    rcases offered with here | there
    · exact mem_of_offers here
    · exact mem_of_offersAny there

end

end QuadPull.Pull
