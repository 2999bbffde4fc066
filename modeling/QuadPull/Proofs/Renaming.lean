import QuadPull.Proofs.Naming
import QuadPull.Proofs.Typing

namespace QuadPull

def Term.Free (names : Names) (t : Term) : Prop := ∀ label name, names label = some name → t ≠ .iri name

/-- A constraint's value with names: only a blank node has one. -/
def Value.renamed (names : Names) : Value → Value
  | .term t => .term (t.renamed names)
  | v => v

mutual

def Spec.renamed (names : Names) : Spec → Spec
  | .constraint p v => .constraint p (v.renamed names)
  | .nested p specs => .nested p (Spec.allRenamed names specs)
  | spec => spec

def Spec.allRenamed (names : Names) : List Spec → List Spec
  | [] => []
  | spec :: rest => spec.renamed names :: Spec.allRenamed names rest

end

mutual

def Spec.Free (names : Names) : Spec → Prop
  | .constraint _ v => ∀ t, v = .term t → t.Free names
  | .nested _ specs => Spec.AllFree names specs
  | _ => True

def Spec.AllFree (names : Names) : List Spec → Prop
  | [] => True
  | spec :: rest => spec.Free names ∧ Spec.AllFree names rest

end

variable {names : Names}

theorem Term.renamed_cases (names : Names) (t : Term) : t.renamed names = t ∨
    ∃ label name, t = .blank label ∧ names label = some name ∧ t.renamed names = .iri name := by
  cases t with
  | blank label =>
    cases given : names label with
    | none => exact .inl (by rw [Term.renamed, given]; rfl)
    | some name => exact .inr ⟨label, name, rfl, given, by rw [Term.renamed, given]; rfl⟩
  | _ => exact .inl rfl

theorem Term.renamed_inj (injective : ∀ a b name, names a = some name → names b = some name → a = b)
    {t u : Term} (t_free : t.Free names) (u_free : u.Free names) :
    t.renamed names = u.renamed names ↔ t = u := by
  constructor
  · intro same
    rcases t.renamed_cases names with t_stays | ⟨a, name, rfl, given, t_named⟩ <;>
      rcases u.renamed_cases names with u_stays | ⟨b, other, rfl, given', u_named⟩
    · exact t_stays.symm.trans (same.trans u_stays)
    · exact absurd (t_stays.symm.trans (same.trans u_named)) (t_free b other given')
    · exact absurd (u_stays.symm.trans (same.symm.trans t_named)) (u_free a name given)
    · rw [t_named, u_named] at same
      cases same
      rw [injective a b name given given']
  · exact congrArg (Term.renamed names)

theorem Spec.allRenamed_eq_map (names : Names) (specs : List Spec) :
    Spec.allRenamed names specs = specs.map (·.renamed names) := by
  induction specs with
  | nil => rfl
  | cons spec rest ih => rw [Spec.allRenamed, ih, List.map_cons]

theorem Spec.free_of_mem {specs : List Spec} (free : Spec.AllFree names specs) :
    ∀ spec ∈ specs, spec.Free names := by
  induction specs with
  | nil => simp
  | cons first rest ih =>
    rw [Spec.AllFree] at free
    intro spec member
    rcases List.mem_cons.1 member with rfl | later
    · exact free.1
    · exact ih free.2 spec later

theorem Value.renamed_eq_absent {v : Value} : v.renamed names = .absent ↔ v = .absent := by
  cases v <;> simp [Value.renamed]

theorem Spec.constraint_of_renamed {spec : Spec} {p : Term} {w : Value}
    (same : spec.renamed names = .constraint p w) :
    ∃ v, spec = .constraint p v ∧ v.renamed names = w := by
  cases spec with
  | constraint q v =>
    rw [Spec.renamed] at same
    cases same
    exact ⟨v, rfl, rfl⟩
  | _ => simp [Spec.renamed] at same

namespace Pull

mutual

def renamedItems (names : Names) : List Value → List Value
  | [] => []
  | item :: rest => renamedItem names item :: renamedItems names rest

def renamedItem (names : Names) : Value → Value
  | .list items => .list (renamedPair names items)
  | .tuple items => .tuple (renamedPair names items)
  | v => v

def renamedPair (names : Names) : List Value → List Value
  | [predicate, .plan specs] => [predicate, .plan (Spec.allRenamed names specs)]
  | [predicate, .list items] => [predicate, .list (renamedItems names items)]
  | [predicate, .tuple items] => [predicate, .tuple (renamedItems names items)]
  | [predicate, v] => [predicate, v.renamed names]
  | items => items

end

def renamed (names : Names) : Value → Value
  | .plan specs => .plan (Spec.allRenamed names specs)
  | .list items => .list (renamedItems names items)
  | .tuple items => .tuple (renamedItems names items)
  | .sequence items object => .sequence (renamedItems names items) object
  | .record fields => .record (fields.map fun f => (renamedItem names f.1, f.2))
  | v => v

theorem renamedItems_eq_map (names : Names) (items : List Value) :
    renamedItems names items = items.map (renamedItem names) := by
  induction items with
  | nil => rw [renamedItems, List.map_nil]
  | cons item rest ih => rw [renamedItems, ih, List.map_cons]

/-- What comes of two computations side by side: a result and its image, or a failure of both. -/
inductive SideBySide {α : Type} (f : α → α) : Except Error α → Except Error α → Prop where
  | ok (a : α) : SideBySide f (.ok a) (.ok (f a))
  | error (d e : Error) : SideBySide f (.error d) (.error e)

section

variable {α β : Type} {f : α → α} {g : β → β}

theorem SideBySide.bind {a b : Except Error α} {next after : α → Except Error β}
    (sides : SideBySide f a b) (onward : ∀ x, SideBySide g (next x) (after (f x))) :
    SideBySide g (a >>= next) (b >>= after) := by
  cases sides with
  | ok x => exact onward x
  | error d e => exact .error d e

theorem SideBySide.of_ok {a : α} {b : Except Error α} (sides : SideBySide f (.ok a) b) : b = .ok (f a) := by
  cases sides
  rfl

theorem SideBySide.of_error {e : Error} {b : Except Error α} (sides : SideBySide f (.error e) b) :
    ∃ d, b = .error d := by
  cases sides with
  | error _ d => exact ⟨d, rfl⟩

theorem sideBySide_same {a : Except Error α} (fixed : ∀ x, a = .ok x → f x = x) : SideBySide f a a := by
  cases a with
  | error e => exact .error e e
  | ok x =>
    have same := SideBySide.ok (f := f) x
    rwa [fixed x rfl] at same

theorem sideBySide_refuse (fault other : String → ExpressionFault) (item another : Value) :
    SideBySide f (refuse fault item) (refuse other another) := by
  have fails : ∀ (fault : String → ExpressionFault) (item : Value),
      ∃ e, (refuse fault item : Except Error α) = .error e := by
    intro fault item
    cases refused : (refuse fault item : Except Error α) with
    | error e => exact ⟨e, rfl⟩
    | ok a => exact absurd refused refuse_ne_ok
  obtain ⟨e, refused⟩ := fails fault item
  obtain ⟨d, refused'⟩ := fails other another
  rw [refused, refused']
  exact .error e d

end

theorem renamed_of_ofTerm {t : Term} {spec : Spec} (made : ofTerm t = .ok spec) :
    spec.renamed names = spec := by
  unfold ofTerm at made
  split at made
  · cases made
    rw [Spec.renamed] <;> simp
  · exact absurd made refuse_ne_ok

theorem renamed_of_ofMark {s : String} {spec : Spec} (made : ofMark s = .ok spec) :
    spec.renamed names = spec := by
  unfold ofMark at made
  split at made
  · cases made
    rw [Spec.renamed] <;> simp
  · exact absurd made refuse_ne_ok

theorem allRenamed_of_mapM {α : Type} {make : α → Except Error Spec} {xs : List α} {plan : Plan}
    (made : xs.mapM make = .ok plan) (each : ∀ x spec, make x = .ok spec → spec.renamed names = spec) :
    Spec.allRenamed names plan = plan := by
  have kept : ∀ spec ∈ plan, spec.renamed names = id spec := by
    intro spec among
    obtain ⟨x, -, first⟩ := exists_of_mapM made spec among
    exact each x spec first
  rw [Spec.allRenamed_eq_map, List.map_congr_left kept, List.map_id]

theorem sideBySide_predicateOf (pair another predicate : Value) :
    SideBySide id (predicateOf pair predicate) (predicateOf another predicate) := by
  unfold predicateOf
  split
  · split
    · exact .ok _
    · exact sideBySide_refuse ExpressionFault.predicate ExpressionFault.predicate pair another
  · exact sideBySide_refuse ExpressionFault.predicate ExpressionFault.predicate pair another

theorem renamedPair_of_not_pair (names : Names) {items : List Value}
    (other : ∀ predicate v, items ≠ [predicate, v]) : renamedPair names items = items := by
  rw [renamedPair]
  all_goals exact fun predicate _ => other predicate _

mutual

theorem compileItems_renamed (names : Names) (items : List Value) :
    SideBySide (Spec.allRenamed names) (compileItems items) (compileItems (renamedItems names items)) := by
  cases items with
  | nil =>
    rw [renamedItems, compileItems]
    exact .ok []
  | cons item rest =>
    rw [renamedItems, compileItems, compileItems]
    refine (compileItem_renamed names item).bind fun spec => ?_
    refine (compileItems_renamed names rest).bind fun specs => ?_
    exact .ok (spec :: specs)
termination_by sizeOf items

theorem compileItem_renamed (names : Names) (item : Value) :
    SideBySide (Spec.renamed names) (compileItem item) (compileItem (renamedItem names item)) := by
  cases item with
  | list items | tuple items =>
    rw [renamedItem, compileItem, compileItem]
    exact compilePair_renamed names _ _ items
  | text s =>
    simp only [renamedItem, compileItem]
    exact sideBySide_same fun spec => renamed_of_ofMark
  | term t =>
    simp only [renamedItem, compileItem]
    exact sideBySide_same fun spec => renamed_of_ofTerm
  | _ =>
    simp only [renamedItem, compileItem]
    apply sideBySide_refuse
termination_by sizeOf item

theorem compilePair_renamed (names : Names) (item another : Value) (items : List Value) :
    SideBySide (Spec.renamed names) (compilePair item items)
      (compilePair another (renamedPair names items)) := by
  by_cases pair : ∃ predicate v, items = [predicate, v]
  · obtain ⟨predicate, v, rfl⟩ := pair
    have named := sideBySide_predicateOf item another predicate
    cases v with
    | plan specs =>
      simp only [renamedPair, compilePair]
      exact named.bind fun p => .ok (Spec.nested p specs)
    | list inner | tuple inner =>
      simp only [renamedPair, compilePair]
      refine named.bind fun p => ?_
      exact (compileItems_renamed names inner).bind fun specs => .ok (Spec.nested p specs)
    | text s =>
      simp only [renamedPair, Value.renamed, compilePair]
      refine named.bind fun p => ?_
      by_cases onward : s = onwardMark
      · rw [if_pos onward, if_pos onward]
        exact .ok (Spec.recursive p)
      · rw [if_neg onward, if_neg onward]
        exact .ok (Spec.constraint p (.text s))
    | term t =>
      simp only [renamedPair, Value.renamed, compilePair]
      exact named.bind fun p => .ok (Spec.constraint p (.term t))
    | _ =>
      simp only [renamedPair, Value.renamed, compilePair]
      exact named.bind fun p => .ok (Spec.constraint p _)
  · have other : ∀ predicate v, items ≠ [predicate, v] :=
      fun predicate v same => pair ⟨predicate, v, same⟩
    rw [renamedPair_of_not_pair names other, compilePair_of_not_pair other, compilePair_of_not_pair other]
    exact sideBySide_refuse ExpressionFault.notPair ExpressionFault.notPair item another
termination_by sizeOf items

end

theorem compile_renamed (names : Names) (v : Value) :
    SideBySide (Spec.allRenamed names) (compile v) (compile (renamed names v)) := by
  cases v with
  | plan specs =>
    simp only [renamed, compile]
    exact .ok specs
  | list items | tuple items | sequence items =>
    simp only [renamed, compile]
    exact compileItems_renamed names items
  | record fields =>
    have keys : (fields.map fun f => (renamedItem names f.1, f.2)).map (·.1) =
        renamedItems names (fields.map (·.1)) := by
      rw [renamedItems_eq_map, List.map_map, List.map_map]
      rfl
    rw [renamed, compile, compile, compileKeys_eq, compileKeys_eq, keys]
    exact compileItems_renamed names _
  | term t =>
    cases t with
    | quoted s p o g =>
      rw [renamed, compile]
      · exact sideBySide_same fun plan made => allRenamed_of_mapM made fun _ _ => renamed_of_ofTerm
      all_goals simp
    | _ =>
      simp only [renamed, compile]
      apply sideBySide_refuse
  | _ =>
    simp only [renamed, compile]
    apply sideBySide_refuse

mutual

theorem isCompiled_renamed (names : Names) : ∀ spec : Spec,
    isCompiled (spec.renamed names) = isCompiled spec
  | .constraint p v => by
    rw [Spec.renamed]
    cases p <;> simp [isCompiled]
  | .nested p plan => by
    rw [Spec.renamed]
    cases p <;> simp [isCompiled, areCompiled_renamed names plan]
  | .property p | .wildcard | .recursive p | .raw v => by
    simp [Spec.renamed]

theorem areCompiled_renamed (names : Names) : ∀ specs : List Spec,
    areCompiled (Spec.allRenamed names specs) = areCompiled specs
  | [] => rfl
  | spec :: rest => by
    rw [Spec.allRenamed, areCompiled, areCompiled, isCompiled_renamed names spec,
      areCompiled_renamed names rest]

end

end Pull

end QuadPull
