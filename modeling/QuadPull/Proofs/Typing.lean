import QuadPull.Proofs.Selection
import QuadPull.Pull.Compile
/-!
Pull expressions whose names are texts. What they compile to, if they compile, has texts for its names
as well.
-/

namespace QuadPull

theorem exists_of_bind_ok {α β : Type} {r : Except Error α} {f : α → Except Error β} {b : β}
    (done : (r >>= f) = .ok b) : ∃ a, r = .ok a ∧ f a = .ok b := by
  cases r with
  | error e => cases done
  | ok a => exact ⟨a, rfl, done⟩

theorem exists_of_mapM {α β : Type} {make : α → Except Error β} {xs : List α} {ys : List β}
    (made : xs.mapM make = .ok ys) : ∀ y ∈ ys, ∃ x ∈ xs, make x = .ok y := by
  induction xs generalizing ys with
  | nil =>
    cases made
    simp
  | cons x xs ih =>
    rw [List.mapM_cons] at made
    obtain ⟨y, first, made⟩ := exists_of_bind_ok made
    obtain ⟨rest, others, made⟩ := exists_of_bind_ok made
    obtain rfl : y :: rest = ys := Except.ok.inj made
    refine List.forall_mem_cons.2 ⟨⟨x, List.mem_cons_self, first⟩, ?_⟩
    intro z among
    obtain ⟨w, member, later⟩ := ih others z among
    exact ⟨w, List.mem_cons_of_mem _ member, later⟩

theorem exists_of_mapM_error {α β : Type} {make : α → Except Error β} {xs : List α} {e : Error}
    (failed : xs.mapM make = .error e) : ∃ x ∈ xs, make x = .error e := by
  induction xs with
  | nil => cases failed
  | cons x xs ih =>
    rw [List.mapM_cons] at failed
    cases first : make x with
    | error e' =>
      rw [first] at failed
      cases failed
      exact ⟨x, List.mem_cons_self, first⟩
    | ok y =>
      cases others : xs.mapM make with
      | error e' =>
        rw [first, others] at failed
        cases failed
        obtain ⟨z, member, later⟩ := ih others
        exact ⟨z, List.mem_cons_of_mem _ member, later⟩
      | ok rest =>
        rw [first, others] at failed
        cases failed

namespace Pull

mutual

def isTyped : Value → Bool
  | .term t => t.isProper
  | .plan specs => areCompiled specs
  | .list items | .tuple items | .sequence items _ => areTyped items
  | .record fields => areKeysTyped fields
  | _ => true

def areTyped : List Value → Bool
  | [] => true
  | v :: rest => isTyped v && areTyped rest

def areKeysTyped : List (Value × Value) → Bool
  | [] => true
  | (key, _) :: rest => isTyped key && areKeysTyped rest

end

theorem areKeysTyped_eq (fields : List (Value × Value)) :
    areKeysTyped fields = areTyped (fields.map (·.1)) := by
  induction fields with
  | nil => rw [List.map_nil, areKeysTyped, areTyped]
  | cons field rest ih => rw [List.map_cons, areKeysTyped, areTyped, ih]

theorem refuse_ne_ok {α : Type} {fault : String → ExpressionFault} {item : Value} {a : α} :
    refuse fault item ≠ .ok a := by
  unfold refuse
  cases item.inspect <;> simp [bind, Except.bind, throw, throwThe, MonadExceptOf.throw]

theorem iri_of_isIri {t : Term} (proper : t.isProper = true) (name : t.isIri = true) :
    ∃ value, t = .iri value := by
  cases t with
  | iri value => exact ⟨value, rfl⟩
  | loose l => cases proper
  | _ => cases name

theorem isCompiled_of_ofTerm {t : Term} {spec : Spec} (made : ofTerm t = .ok spec)
    (proper : t.isProper = true) : isCompiled spec = true := by
  unfold ofTerm at made
  split at made
  · rename_i name
    obtain ⟨value, rfl⟩ := iri_of_isIri proper name
    cases made
    rfl
  · exact absurd made refuse_ne_ok

theorem isCompiled_of_ofMark {s : String} {spec : Spec} (made : ofMark s = .ok spec) :
    isCompiled spec = true := by
  unfold ofMark at made
  split at made
  · cases made
    rfl
  · exact absurd made refuse_ne_ok

theorem iri_of_predicateOf {pair predicate : Value} {p : Term} (made : predicateOf pair predicate = .ok p)
    (typed : isTyped predicate = true) : ∃ value, p = .iri value := by
  unfold predicateOf at made
  split at made
  · rename_i t
    split at made
    · rename_i name
      cases made
      exact iri_of_isIri (by simpa [isTyped] using typed) name
    · exact absurd made refuse_ne_ok
  · exact absurd made refuse_ne_ok

theorem areCompiled_of_mapM {α : Type} {make : α → Except Error Spec} {xs : List α} {plan : Plan}
    (made : xs.mapM make = .ok plan)
    (each : ∀ x ∈ xs, ∀ spec, make x = .ok spec → isCompiled spec = true) :
    areCompiled plan = true := by
  rw [areCompiled_iff]
  intro spec among
  obtain ⟨x, member, first⟩ := exists_of_mapM made spec among
  exact each x member spec first

theorem compilePair_of_not_pair {items : List Value} (other : ∀ predicate v, items ≠ [predicate, v])
    (item : Value) : compilePair item items = refuse .notPair item := by
  rw [compilePair]
  all_goals exact fun predicate _ => other predicate _

theorem pair_of_compilePair {item : Value} {items : List Value} {spec : Spec}
    (made : compilePair item items = .ok spec) : ∃ predicate v, items = [predicate, v] := by
  by_contra other
  have not_pair : ∀ predicate v, items ≠ [predicate, v] := fun predicate v same => other ⟨predicate, v, same⟩
  rw [compilePair_of_not_pair not_pair] at made
  exact refuse_ne_ok made

mutual

theorem areCompiled_of_compileItems {items : List Value} {plan : Plan}
    (made : compileItems items = .ok plan)
    (typed : areTyped items = true) : areCompiled plan = true := by
  cases items with
  | nil =>
    rw [compileItems] at made
    cases made
    rfl
  | cons item rest =>
    rw [compileItems] at made
    rw [areTyped, Bool.and_eq_true] at typed
    obtain ⟨spec, first, made⟩ := exists_of_bind_ok made
    obtain ⟨specs, others, made⟩ := exists_of_bind_ok made
    obtain rfl : spec :: specs = plan := Except.ok.inj made
    have one := isCompiled_of_compileItem first typed.1
    have more := areCompiled_of_compileItems others typed.2
    rw [areCompiled, one, more, Bool.and_self]
termination_by sizeOf items

theorem isCompiled_of_compileItem {item : Value} {spec : Spec} (made : compileItem item = .ok spec)
    (typed : isTyped item = true) : isCompiled spec = true := by
  cases item with
  | text s =>
    rw [compileItem] at made
    exact isCompiled_of_ofMark made
  | term t =>
    rw [compileItem] at made
    rw [isTyped] at typed
    exact isCompiled_of_ofTerm made typed
  | list items | tuple items =>
    rw [compileItem] at made
    rw [isTyped] at typed
    exact isCompiled_of_compilePair made typed
  | _ =>
    simp only [compileItem] at made
    exact absurd made refuse_ne_ok
termination_by sizeOf item

theorem isCompiled_of_compilePair {item : Value} {items : List Value} {spec : Spec}
    (made : compilePair item items = .ok spec) (typed : areTyped items = true) :
    isCompiled spec = true := by
  obtain ⟨predicate, v, rfl⟩ := pair_of_compilePair made
  simp only [areTyped, Bool.and_true, Bool.and_eq_true] at typed
  cases named : predicateOf item predicate with
  | error e => cases v <;> simp [compilePair, named, bind, Except.bind] at made
  | ok p =>
    obtain ⟨value, rfl⟩ := iri_of_predicateOf named typed.1
    cases v with
    | plan specs =>
      obtain rfl : .nested (.iri value) specs = spec := by
        simpa [compilePair, named, bind, Except.bind, pure, Except.pure] using made
      simpa [isTyped, isCompiled] using typed.2
    | list inner | tuple inner =>
      have inside : areTyped inner = true := by simpa [isTyped] using typed.2
      cases nested : compileItems inner with
      | error e => simp [compilePair, named, nested, bind, Except.bind] at made
      | ok specs =>
        obtain rfl : .nested (.iri value) specs = spec := by
          simpa [compilePair, named, nested, bind, Except.bind, pure, Except.pure] using made
        rw [isCompiled]
        exact areCompiled_of_compileItems nested inside
    | text s =>
      simp only [compilePair, named, bind, Except.bind, pure, Except.pure] at made
      split at made <;> cases made <;> rfl
    | _ =>
      simp only [compilePair, named, bind, Except.bind, pure, Except.pure] at made
      cases made
      rfl
termination_by sizeOf items

end

theorem areCompiled_of_compile {v : Value} {plan : Plan} (made : compile v = .ok plan)
    (typed : isTyped v = true) : areCompiled plan = true := by
  cases v with
  | plan specs =>
    rw [compile] at made
    cases made
    simpa [isTyped] using typed
  | list items | tuple items | sequence items =>
    rw [compile] at made
    rw [isTyped] at typed
    exact areCompiled_of_compileItems made typed
  | record fields =>
    rw [compile, compileKeys_eq] at made
    rw [isTyped, areKeysTyped_eq] at typed
    exact areCompiled_of_compileItems made typed
  | term t =>
    cases t with
    | quoted s p o g =>
      rw [compile] at made
      simp only [isTyped, Term.isProper, Bool.and_eq_true] at typed
      refine areCompiled_of_mapM made ?_
      intro t member spec one
      refine isCompiled_of_ofTerm one ?_
      simp only [List.mem_cons, List.not_mem_nil, or_false] at member
      rcases member with rfl | rfl | rfl | rfl <;> tauto
    | _ =>
      simp only [compile] at made
      exact absurd made refuse_ne_ok
  | _ =>
    simp only [compile] at made
    exact absurd made refuse_ne_ok

end Pull

end QuadPull
