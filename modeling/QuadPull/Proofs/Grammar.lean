import QuadPull.Proofs.Inspection
import QuadPull.Proofs.Typing
/-!
The grammar of pull expressions, said apart from their compilation.
-/

namespace QuadPull

namespace Value

def items? : Value → Option (List Value)
  | .list items | .tuple items | .sequence items _ => some items
  | .record fields => some (fields.map (·.1))
  | .term (.quoted s p o g) => some [.term s, .term p, .term o, .term g]
  | _ => none

def isNesting : Value → Bool
  | .list _ | .tuple _ | .plan _ => true
  | _ => false

end Value

namespace Pull

def IsPair (p : Term) (v item : Value) : Prop :=
  p.isIri = true ∧ (item = .list [.term p, v] ∨ item = .tuple [.term p, v])

mutual

/-- Plans, and values that list items of expressions only. -/
inductive IsExpression : Value → Prop where
  | plan (specs : Plan) : IsExpression (.plan specs)
  | listing {v : Value} {items : List Value} (lists : v.items? = some items)
      (each : ∀ item ∈ items, IsItem item) : IsExpression v

/-- The mark of every pair, a predicate, or a pair in which another level is an expression. -/
inductive IsItem : Value → Prop where
  | every : IsItem (.text "*")
  | predicate {p : Term} (named : p.isIri = true) : IsItem (.term p)
  | pair {item v : Value} {p : Term} (pair : IsPair p v item)
      (inner : v.isNesting = true → IsExpression v) : IsItem item

end

mutual

/-- The plan that an expression stands for has a specifier for each item, in order. -/
inductive Means : Value → Plan → Prop where
  | plan (specs : Plan) : Means (.plan specs) specs
  | listing {v : Value} {items : List Value} {specs : Plan} (lists : v.items? = some items)
      (each : AllMean items specs) : Means v specs

inductive AllMean : List Value → Plan → Prop where
  | nil : AllMean [] []
  | cons {item : Value} {rest : List Value} {spec : Spec} {specs : Plan} (first : ItemMeans item spec)
      (others : AllMean rest specs) : AllMean (item :: rest) (spec :: specs)

/-- The specifier of an item: of which kind it is follows from the shape of the item. -/
inductive ItemMeans : Value → Spec → Prop where
  | every : ItemMeans (.text "*") .wildcard
  | predicate {p : Term} (named : p.isIri = true) : ItemMeans (.term p) (.property p)
  | onward {item : Value} {p : Term} (pair : IsPair p (.text "...") item) :
      ItemMeans item (.recursive p)
  | nested {item v : Value} {p : Term} {specs : Plan} (pair : IsPair p v item)
      (nests : v.isNesting = true) (inner : Means v specs) : ItemMeans item (.nested p specs)
  | constraint {item v : Value} {p : Term} (pair : IsPair p v item) (flat : v.isNesting = false)
      (other : v ≠ .text "...") : ItemMeans item (.constraint p v)

end

structure Offence where
  cause : String → ExpressionFault
  item : Value

/-- What is wrong with an item by itself, whatever its inner levels are. -/
inductive Misshapen : Value → (String → ExpressionFault) → Prop where
  | mark {s : String} (other : s ≠ "*") : Misshapen (.text s) .unknownMark
  | term {t : Term} (unnamed : t.isIri = false) : Misshapen (.term t) .unsupported
  | length {item : Value} {parts : List Value} (row : item = .list parts ∨ item = .tuple parts)
      (other : parts.length ≠ 2) : Misshapen item .notPair
  | predicate {item a v : Value} (row : item = .list [a, v] ∨ item = .tuple [a, v])
      (unnamed : ∀ p, a = .term p → p.isIri = false) : Misshapen item .predicate
  | kind {item : Value} (text : ∀ s, item ≠ .text s) (term : ∀ t, item ≠ .term t)
      (list : ∀ parts, item ≠ .list parts) (tuple : ∀ parts, item ≠ .tuple parts) :
      Misshapen item .unsupported

mutual

/-- What is wrong first, from left to right and with an item before its inner levels. -/
inductive Offends : Value → Offence → Prop where
  | whole {v : Value} (lists : v.items? = none) (other : ∀ specs, v ≠ .plan specs) :
      Offends v ⟨.notItems, v⟩
  | among {v item : Value} (before : List Value) {after : List Value} {o : Offence}
      (lists : v.items? = some (before ++ item :: after)) (sound : ∀ b ∈ before, IsItem b)
      (offends : ItemOffends item o) : Offends v o

inductive ItemOffends : Value → Offence → Prop where
  | itself {item : Value} {cause : String → ExpressionFault} (misshapen : Misshapen item cause) :
      ItemOffends item ⟨cause, item⟩
  | within {item v : Value} {p : Term} {o : Offence} (pair : IsPair p v item)
      (nests : v.isNesting = true) (offends : Offends v o) : ItemOffends item o

end

mutual

/-- An expression in which some levels, the whole or inner ones at any depth, are replaced by the plans that
they compile to. -/
inductive Precompiled : Value → Value → Prop where
  | same (v : Value) : Precompiled v v
  | plan {v : Value} {specs : Plan} (compiles : compile v = .ok specs) : Precompiled v (.plan specs)
  | list {items others : List Value} (each : AllPrecompiled items others) :
      Precompiled (.list items) (.list others)
  | tuple {items others : List Value} (each : AllPrecompiled items others) :
      Precompiled (.tuple items) (.tuple others)
  | sequence {items others : List Value} {object another : Option Nat} (each : AllPrecompiled items others) :
      Precompiled (.sequence items object) (.sequence others another)
  | record {fields others : List (Value × Value)}
      (each : AllPrecompiled (fields.map (·.1)) (others.map (·.1))) :
      Precompiled (.record fields) (.record others)

inductive AllPrecompiled : List Value → List Value → Prop where
  | nil : AllPrecompiled [] []
  | cons {item other : Value} {rest others : List Value} (first : ItemPrecompiled item other)
      (later : AllPrecompiled rest others) : AllPrecompiled (item :: rest) (other :: others)

inductive ItemPrecompiled : Value → Value → Prop where
  | same (item : Value) : ItemPrecompiled item item
  | list {p : Term} {v w : Value} (nests : v.isNesting = true) (inner : Precompiled v w) :
      ItemPrecompiled (.list [.term p, v]) (.list [.term p, w])
  | tuple {p : Term} {v w : Value} (nests : v.isNesting = true) (inner : Precompiled v w) :
      ItemPrecompiled (.tuple [.term p, v]) (.tuple [.term p, w])

end

section

theorem compile_of_items {v : Value} {items : List Value} (lists : v.items? = some items) :
    compile v = compileItems items := by
  cases v with
  | list others | tuple others | sequence others =>
    obtain rfl : others = items := Option.some.inj lists
    rw [compile]
  | record fields =>
    obtain rfl : fields.map (·.1) = items := Option.some.inj lists
    rw [compile, compileKeys_eq]
  | term t =>
    cases t with
    | quoted s p o g =>
      obtain rfl : [Value.term s, .term p, .term o, .term g] = items := Option.some.inj lists
      simp only [compile, List.mapM_cons, List.mapM_nil, compileItems, compileItem]
      rfl
    | _ => cases lists
  | _ => cases lists

theorem compile_of_no_items {v : Value} (lists : v.items? = none) (other : ∀ specs, v ≠ .plan specs) :
    compile v = refuse .notItems v := by
  cases v with
  | list items | tuple items | sequence items => cases lists
  | record fields => cases lists
  | plan specs => exact absurd rfl (other specs)
  | term t =>
    cases t with
    | quoted s p o g => cases lists
    | _ => simp only [compile]
  | _ => simp only [compile]

theorem predicateOf_named (pair : Value) {p : Term} (named : p.isIri = true) :
    predicateOf pair (.term p) = .ok p := by
  rw [predicateOf, if_pos named]

theorem predicateOf_unnamed (pair : Value) {a : Value} (unnamed : ∀ p, a = .term p → p.isIri = false) :
    predicateOf pair a = refuse .predicate pair := by
  cases a with
  | term p => rw [predicateOf, unnamed p rfl, if_neg Bool.false_ne_true]
  | _ => rfl

theorem compileItem_row {item : Value} {parts : List Value}
    (row : item = .list parts ∨ item = .tuple parts) : compileItem item = compilePair item parts := by
  rcases row with rfl | rfl
  · rw [compileItem]
  · rw [compileItem]

theorem compilePair_nesting (item a : Value) {v : Value} (nests : v.isNesting = true) :
    compilePair item [a, v] = (do
      let p ← predicateOf item a
      let specs ← compile v
      return .nested p specs) := by
  cases v with
  | list items | tuple items => rw [compilePair, compile]
  | plan specs =>
    rw [compilePair, compile]
    rfl
  | _ => cases nests

theorem compilePair_flat (item a : Value) {v : Value} (flat : v.isNesting = false)
    (other : v ≠ .text "...") : compilePair item [a, v] = (do
      let p ← predicateOf item a
      return .constraint p v) := by
  cases v with
  | list items | tuple items => cases flat
  | plan specs => cases flat
  | text s =>
    have another : s ≠ onwardMark := fun same => other (congrArg Value.text same)
    simp only [compilePair, if_neg another]
  | _ => simp only [compilePair]

theorem refuse_bind {α β : Type} (cause : String → ExpressionFault) (item : Value)
    (next : α → Except Error β) : (refuse cause item >>= next) = refuse cause item := by
  unfold refuse
  cases item.inspect <;> rfl

theorem refuse_map {α β : Type} (cause : String → ExpressionFault) (item : Value) (f : α → β) :
    (refuse cause item).map f = refuse cause item := by
  unfold refuse
  cases item.inspect <;> rfl

theorem compilePair_refused {item a : Value} {cause : String → ExpressionFault} (v : Value)
    (refused : predicateOf item a = refuse cause item) : compilePair item [a, v] = refuse cause item := by
  by_cases nests : v.isNesting = true
  · rw [compilePair_nesting item a nests, refused, refuse_bind]
  · by_cases onward : v = .text "..."
    · rw [onward, compilePair, refused, refuse_bind]
    · rw [compilePair_flat item a (Bool.eq_false_of_not_eq_true nests) onward, refused, refuse_bind]

variable {item v : Value} {p : Term}

theorem IsPair.sizeOf_lt (pair : IsPair p v item) : sizeOf v < sizeOf item := by
  obtain ⟨-, rfl | rfl⟩ := pair
  · simp
    omega
  · simp
    omega

theorem compileItem_nested (pair : IsPair p v item) (nests : v.isNesting = true) :
    compileItem item = (compile v).map (.nested p) := by
  obtain ⟨named, row⟩ := pair
  rw [compileItem_row row, compilePair_nesting item _ nests, predicateOf_named item named]
  cases compile v <;> rfl

theorem compileItem_onward (pair : IsPair p (.text "...") item) :
    compileItem item = .ok (.recursive p) := by
  obtain ⟨named, row⟩ := pair
  rw [compileItem_row row, compilePair, predicateOf_named item named]
  rfl

theorem compileItem_flat (pair : IsPair p v item) (flat : v.isNesting = false) (other : v ≠ .text "...") :
    compileItem item = .ok (.constraint p v) := by
  obtain ⟨named, row⟩ := pair
  rw [compileItem_row row, compilePair_flat item _ flat other, predicateOf_named item named]
  rfl

theorem compileItem_misshapen {cause : String → ExpressionFault} (misshapen : Misshapen item cause) :
    compileItem item = refuse cause item := by
  cases misshapen with
  | @mark s other =>
    have another : s ≠ everyMark := other
    rw [compileItem, ofMark, if_neg another]
  | @term t unnamed => rw [compileItem, ofTerm, unnamed, if_neg Bool.false_ne_true]
  | @length _ parts row other =>
    rw [compileItem_row row, compilePair_of_not_pair]
    rintro a v rfl
    exact other rfl
  | @predicate _ a v row unnamed =>
    rw [compileItem_row row]
    exact compilePair_refused v (predicateOf_unnamed item unnamed)
  | kind text term list tuple =>
    cases item with
    | text s => exact absurd rfl (text s)
    | term t => exact absurd rfl (term t)
    | list parts => exact absurd rfl (list parts)
    | tuple parts => exact absurd rfl (tuple parts)
    | _ => simp only [compileItem]

theorem compileItems_cons (item : Value) (rest : List Value) : compileItems (item :: rest) = (do
    let spec ← compileItem item
    let specs ← compileItems rest
    return spec :: specs) := by
  rw [compileItems]

theorem compileItems_refused {before after : List Value} {cause : String → ExpressionFault}
    {offending : Value} (sound : ∀ b ∈ before, ∃ spec, compileItem b = .ok spec)
    (refused : compileItem item = refuse cause offending) :
    compileItems (before ++ item :: after) = refuse cause offending := by
  induction before with
  | nil => rw [List.nil_append, compileItems_cons, refused, refuse_bind]
  | cons b rest ih =>
    obtain ⟨spec, compiles⟩ := sound b List.mem_cons_self
    have later := ih fun c member => sound c (List.mem_cons_of_mem _ member)
    rw [List.cons_append, compileItems_cons, compiles, later]
    exact refuse_bind cause offending _

end

section

mutual

theorem compile_of_means : ∀ {v : Value} {plan : Plan}, Means v plan → compile v = .ok plan
  | _, _, .plan specs => by rw [compile]
  | _, _, .listing lists each => by rw [compile_of_items lists, compileItems_of_means each]

theorem compileItems_of_means : ∀ {items : List Value} {specs : Plan}, AllMean items specs →
    compileItems items = .ok specs
  | _, _, .nil => by rw [compileItems]
  | _, _, .cons first others => by
    rw [compileItems_cons, compileItem_of_means first, compileItems_of_means others]
    rfl

theorem compileItem_of_means : ∀ {item : Value} {spec : Spec}, ItemMeans item spec →
    compileItem item = .ok spec
  | _, _, .every => by
    rw [compileItem, ofMark]
    rfl
  | _, _, .predicate named => by rw [compileItem, ofTerm, if_pos named]
  | _, _, .onward pair => compileItem_onward pair
  | _, _, .nested pair nests inner => by
    rw [compileItem_nested pair nests, compile_of_means inner]
    rfl
  | _, _, .constraint pair flat other => compileItem_flat pair flat other

end

theorem allMean_of_each {items : List Value} (each : ∀ item ∈ items, ∃ spec, ItemMeans item spec) :
    ∃ specs, AllMean items specs := by
  induction items with
  | nil => exact ⟨[], .nil⟩
  | cons item rest ih =>
    obtain ⟨spec, first⟩ := each item List.mem_cons_self
    obtain ⟨specs, others⟩ := ih fun other member => each other (List.mem_cons_of_mem _ member)
    exact ⟨spec :: specs, .cons first others⟩

mutual

theorem means_of_isExpression : ∀ {v : Value}, IsExpression v → ∃ plan, Means v plan
  | _, .plan specs => ⟨specs, .plan specs⟩
  | _, .listing lists each => by
    obtain ⟨specs, means⟩ := allMean_of_each fun item member => means_of_isItem (each item member)
    exact ⟨specs, .listing lists means⟩

theorem means_of_isItem : ∀ {item : Value}, IsItem item → ∃ spec, ItemMeans item spec
  | _, .every => ⟨.wildcard, .every⟩
  | _, .predicate named => ⟨_, .predicate named⟩
  | _, .pair (v := v) pair inner => by
    by_cases nests : v.isNesting = true
    · obtain ⟨specs, means⟩ := means_of_isExpression (inner nests)
      exact ⟨_, .nested pair nests means⟩
    · by_cases onward : v = .text "..."
      · exact ⟨_, .onward (onward ▸ pair)⟩
      · exact ⟨_, .constraint pair (Bool.eq_false_of_not_eq_true nests) onward⟩

end

theorem compileItem_of_isItem {item : Value} (sound : IsItem item) : ∃ spec, compileItem item = .ok spec := by
  obtain ⟨spec, means⟩ := means_of_isItem sound
  exact ⟨spec, compileItem_of_means means⟩

mutual

theorem compile_of_offends : ∀ {v : Value} {o : Offence}, Offends v o → compile v = refuse o.cause o.item
  | _, _, .whole lists other => compile_of_no_items lists other
  | _, _, .among _ lists sound offends => by
    have before := fun b member => compileItem_of_isItem (sound b member)
    rw [compile_of_items lists, compileItems_refused before (compileItem_of_offends offends)]

theorem compileItem_of_offends : ∀ {item : Value} {o : Offence}, ItemOffends item o →
    compileItem item = refuse o.cause o.item
  | _, _, .itself misshapen => compileItem_misshapen misshapen
  | _, _, .within pair nests offends => by
    rw [compileItem_nested pair nests, compile_of_offends offends]
    exact refuse_map _ _ _

end

end

section

theorem item_shape (item : Value) : item = .text "*" ∨ (∃ p, p.isIri = true ∧ item = .term p) ∨
    (∃ p v, IsPair p v item) ∨ ∃ cause, Misshapen item cause := by
  have row_shape : ∀ {parts : List Value}, item = .list parts ∨ item = .tuple parts →
      (∃ p v, IsPair p v item) ∨ ∃ cause, Misshapen item cause := by
    intro parts row
    rcases parts with _ | ⟨a, _ | ⟨v, _ | ⟨c, rest⟩⟩⟩
    · exact .inr ⟨_, .length row (by simp)⟩
    · exact .inr ⟨_, .length row (by simp)⟩
    · by_cases named : ∃ p, a = .term p ∧ p.isIri = true
      · obtain ⟨p, rfl, named⟩ := named
        exact .inl ⟨p, v, named, row⟩
      · refine .inr ⟨_, .predicate row fun p same => ?_⟩
        exact Bool.eq_false_of_not_eq_true fun iri => named ⟨p, same, iri⟩
    · exact .inr ⟨_, .length row (by simp)⟩
  cases item with
  | text s =>
    by_cases every : s = "*"
    · exact .inl (congrArg Value.text every)
    · exact .inr (.inr (.inr ⟨_, .mark every⟩))
  | term t =>
    by_cases named : t.isIri = true
    · exact .inr (.inl ⟨t, named, rfl⟩)
    · exact .inr (.inr (.inr ⟨_, .term (Bool.eq_false_of_not_eq_true named)⟩))
  | list parts => exact .inr (.inr (row_shape (.inl rfl)))
  | tuple parts => exact .inr (.inr (row_shape (.inr rfl)))
  | _ =>
    refine .inr (.inr (.inr ⟨_, .kind ?_ ?_ ?_ ?_⟩))
    all_goals simp

def Judged (items : List Value) : Prop :=
  (∀ item ∈ items, IsItem item) ∨ ∃ before item after o, items = before ++ item :: after ∧
    (∀ b ∈ before, IsItem b) ∧ ItemOffends item o

theorem judged_of_items {v : Value} {items : List Value} (lists : v.items? = some items)
    (judged : Judged items) : IsExpression v ∨ ∃ o, Offends v o := by
  rcases judged with each | ⟨before, item, after, o, rfl, sound, offends⟩
  · exact .inl (.listing lists each)
  · exact .inr ⟨o, .among before lists sound offends⟩

mutual

theorem items_judged (items : List Value) : Judged items := by
  cases items with
  | nil => exact .inl (by simp)
  | cons item rest =>
    rcases item_judged item with sound | ⟨o, offends⟩
    · rcases items_judged rest with each | ⟨before, other, after, o, rfl, before_sound, offends⟩
      · exact .inl (List.forall_mem_cons.2 ⟨sound, each⟩)
      · refine .inr ⟨item :: before, other, after, o, rfl, ?_, offends⟩
        exact List.forall_mem_cons.2 ⟨sound, before_sound⟩
    · exact .inr ⟨[], item, rest, o, rfl, by simp, offends⟩
termination_by sizeOf items

theorem item_judged (item : Value) : IsItem item ∨ ∃ o, ItemOffends item o := by
  rcases item_shape item with rfl | ⟨p, named, rfl⟩ | ⟨p, v, pair⟩ | ⟨cause, misshapen⟩
  · exact .inl .every
  · exact .inl (.predicate named)
  · -- Beside a predicate only lists, tuples and plans are levels, so the items of a level are inside the pair.
    have smaller : sizeOf v < sizeOf item := pair.sizeOf_lt
    have inner : v.isNesting = true → IsExpression v ∨ ∃ o, Offends v o := by
      intro nests
      cases v with
      | list parts | tuple parts =>
        have fewer : sizeOf parts < sizeOf item := by
          simp at smaller
          omega
        exact judged_of_items rfl (items_judged parts)
      | plan specs => exact .inl (.plan specs)
      | _ => cases nests
    by_cases offends : v.isNesting = true ∧ ∃ o, Offends v o
    · obtain ⟨nests, o, offends⟩ := offends
      exact .inr ⟨o, .within pair nests offends⟩
    · refine .inl (.pair pair fun nests => ?_)
      exact (inner nests).resolve_right fun offence => offends ⟨nests, offence⟩
  · exact .inr ⟨_, .itself misshapen⟩
termination_by sizeOf item

end

theorem judged (v : Value) : IsExpression v ∨ ∃ o, Offends v o := by
  cases lists : v.items? with
  | some items => exact judged_of_items lists (items_judged items)
  | none =>
    by_cases compiled : ∃ specs, v = .plan specs
    · obtain ⟨specs, rfl⟩ := compiled
      exact .inl (.plan specs)
    · exact .inr ⟨_, .whole lists fun specs same => compiled ⟨specs, same⟩⟩

end

section

theorem items_writable {v : Value} {items : List Value} (lists : v.items? = some items)
    (writable : v.isWritable = true) : ∀ item ∈ items, item.isWritable = true := by
  cases v with
  | list others | tuple others | sequence others =>
    obtain rfl : others = items := Option.some.inj lists
    exact writable_of_mem (by simpa [Value.isWritable] using writable)
  | record fields =>
    obtain rfl : fields.map (·.1) = items := Option.some.inj lists
    exact keys_writable (by simpa [Value.isWritable] using writable)
  | term t =>
    cases t with
    | quoted s p o g =>
      obtain rfl : [Value.term s, .term p, .term o, .term g] = items := Option.some.inj lists
      simp [Value.isWritable]
    | _ => cases lists
  | _ => cases lists

theorem IsPair.isWritable {p : Term} {v item : Value} (pair : IsPair p v item)
    (writable : item.isWritable = true) : v.isWritable = true := by
  obtain ⟨-, rfl | rfl⟩ := pair
  · exact items_writable rfl writable v (by simp)
  · exact items_writable rfl writable v (by simp)

mutual

theorem offence_writable : ∀ {v : Value} {o : Offence}, Offends v o → v.isWritable = true →
    o.item.isWritable = true
  | _, _, .whole _ _, writable => writable
  | _, _, .among _ lists _ offends, writable => by
    have inside := items_writable lists writable _ (List.mem_append_right _ List.mem_cons_self)
    exact itemOffence_writable offends inside

theorem itemOffence_writable : ∀ {item : Value} {o : Offence}, ItemOffends item o →
    item.isWritable = true → o.item.isWritable = true
  | _, _, .itself _, writable => writable
  | _, _, .within pair _ offends, writable => offence_writable offends (pair.isWritable writable)

end

theorem refuse_shown {α : Type} (cause : String → ExpressionFault) {item : Value} {shown : String}
    (inspected : item.inspect = .ok shown) :
    (refuse cause item : Except Error α) = .error (.expression (cause shown)) := by
  rw [refuse, inspected]
  rfl

theorem compile_fails {v : Value} {o : Offence} (offends : Offends v o) (writable : v.isWritable = true) :
    ∃ shown, o.item.inspect = .ok shown ∧ compile v = .error (.expression (o.cause shown)) := by
  obtain ⟨shown, inspected⟩ := inspect_of_isWritable o.item (offence_writable offends writable)
  exact ⟨shown, inspected, by rw [compile_of_offends offends, refuse_shown o.cause inspected]⟩

theorem pullWith_fails {v : Value} {fault : Error} (fails : compile v = .error fault)
    (settings : LookupSettings) (name : Term) (source : Source) (start : Option Term) :
    pullWith settings name source v start = .error fault := by
  rw [pullWith, fails]
  rfl

end

section

def Agree {α : Type} (r r' : Except Error α) : Prop := ∀ a, r = .ok a ↔ r' = .ok a

theorem Agree.refl {α : Type} (r : Except Error α) : Agree r r := fun _ => Iff.rfl

theorem Agree.bind {α β : Type} {r r' : Except Error α} {next next' : α → Except Error β}
    (agree : Agree r r') (onward : ∀ a, Agree (next a) (next' a)) :
    Agree (r >>= next) (r' >>= next') := by
  intro b
  cases first : r with
  | ok a =>
    rw [(agree a).1 first]
    exact onward a b
  | error e =>
    cases second : r' with
    | ok a => exact absurd ((agree a).2 second) (by simp [first])
    | error e' => exact ⟨fun h => (by cases h), fun h => (by cases h)⟩

theorem Precompiled.isNesting {v w : Value} (same : Precompiled v w) (nests : v.isNesting = true) :
    w.isNesting = true := by
  cases same with
  | same => exact nests
  | plan compiles | list each | tuple each => rfl
  | sequence each | record each => cases nests

theorem compilePair_agree (item other : Value) {p : Term} {v w : Value} (nests : v.isNesting = true)
    (nests' : w.isNesting = true) (agree : Agree (compile v) (compile w)) :
    Agree (compilePair item [.term p, v]) (compilePair other [.term p, w]) := by
  rw [compilePair_nesting item _ nests, compilePair_nesting other _ nests']
  refine Agree.bind ?_ fun q => agree.bind fun specs => Agree.refl _
  by_cases named : p.isIri = true
  · rw [predicateOf_named item named, predicateOf_named other named]
    exact Agree.refl _
  · have unnamed : ∀ q, Value.term p = .term q → q.isIri = false := by
      rintro q ⟨⟩
      exact Bool.eq_false_of_not_eq_true named
    rw [predicateOf_unnamed item unnamed, predicateOf_unnamed other unnamed]
    exact fun a => ⟨fun h => absurd h refuse_ne_ok, fun h => absurd h refuse_ne_ok⟩

mutual

theorem compile_precompiled : ∀ {v w : Value}, Precompiled v w → Agree (compile v) (compile w)
  | _, _, .same v => Agree.refl _
  | _, _, .plan compiles => by
    rw [compiles, compile]
    exact Agree.refl _
  | _, _, .list each => by
    rw [compile_of_items rfl, compile_of_items rfl]
    exact compileItems_precompiled each
  | _, _, .tuple each => by
    rw [compile_of_items rfl, compile_of_items rfl]
    exact compileItems_precompiled each
  | _, _, .sequence each => by
    rw [compile_of_items rfl, compile_of_items rfl]
    exact compileItems_precompiled each
  | _, _, .record each => by
    rw [compile_of_items rfl, compile_of_items rfl]
    exact compileItems_precompiled each

theorem compileItems_precompiled : ∀ {items others : List Value}, AllPrecompiled items others →
    Agree (compileItems items) (compileItems others)
  | _, _, .nil => Agree.refl _
  | _, _, .cons first later => by
    rw [compileItems_cons, compileItems_cons]
    exact (compileItem_precompiled first).bind fun spec =>
      (compileItems_precompiled later).bind fun specs => Agree.refl _

theorem compileItem_precompiled : ∀ {item other : Value}, ItemPrecompiled item other →
    Agree (compileItem item) (compileItem other)
  | _, _, .same item => Agree.refl _
  | _, _, .list nests inner => by
    rw [compileItem_row (.inl rfl), compileItem_row (.inl rfl)]
    exact compilePair_agree _ _ nests (inner.isNesting nests) (compile_precompiled inner)
  | _, _, .tuple nests inner => by
    rw [compileItem_row (.inr rfl), compileItem_row (.inr rfl)]
    exact compilePair_agree _ _ nests (inner.isNesting nests) (compile_precompiled inner)

end

end

theorem isExpression_iff_compiles (v : Value) : IsExpression v ↔ ∃ plan, compile v = .ok plan := by
  constructor
  · intro sound
    obtain ⟨plan, means⟩ := means_of_isExpression sound
    exact ⟨plan, compile_of_means means⟩
  · rintro ⟨plan, compiles⟩
    rcases judged v with sound | ⟨o, offends⟩
    · exact sound
    · rw [compile_of_offends offends] at compiles
      exact absurd compiles refuse_ne_ok

/-- Compilation accepts just the expressions: it gives the plan that an expression stands for, with a
specifier for each item, and fails with what is wrong first in any other value, before any lookup is
made. Inner levels may be compiled beforehand. -/
theorem compile_grammar (v : Value) (writable : v.isWritable = true) :
    ((∃ plan, compile v = .ok plan) ↔ IsExpression v) ∧
    (∀ plan, compile v = .ok plan ↔ Means v plan) ∧
    (¬ IsExpression v ↔ ∃ o, Offends v o) ∧
    (∀ o, Offends v o → ∃ shown, o.item.inspect = .ok shown ∧
      compile v = .error (.expression (o.cause shown)) ∧
      ∀ settings name source start,
        pullWith settings name source v start = .error (.expression (o.cause shown))) ∧
    ∀ w, Precompiled v w → ∀ plan, compile v = .ok plan ↔ compile w = .ok plan := by
  have accepted := isExpression_iff_compiles v
  refine ⟨accepted.symm, fun plan => ⟨fun compiles => ?_, compile_of_means⟩, ⟨?_, ?_⟩, ?_, ?_⟩
  · obtain ⟨other, means⟩ := means_of_isExpression (accepted.2 ⟨plan, compiles⟩)
    have same : other = plan := by
      have compiles' := compile_of_means means
      rw [compiles] at compiles'
      exact (Except.ok.inj compiles').symm
    exact same ▸ means
  · exact fun unsound => (judged v).resolve_left unsound
  · rintro ⟨o, offends⟩ sound
    obtain ⟨plan, compiles⟩ := accepted.1 sound
    rw [compile_of_offends offends] at compiles
    exact refuse_ne_ok compiles
  · intro o offends
    obtain ⟨shown, inspected, fails⟩ := compile_fails offends writable
    exact ⟨shown, inspected, fails, fun settings name source start =>
      pullWith_fails fails settings name source start⟩
  · exact fun w same => compile_precompiled same

def misnamed : Value :=
  .list [.text "*", .list [.term (.iri "knows"), .list [.term (.iri "name"), .tuple [.text "age", .int 30]]],
    .text "?"]

theorem misnamed_offends : Offends misnamed ⟨.predicate, .tuple [.text "age", .int 30]⟩ := by
  have unnamed : ∀ p, Value.text "age" = .term p → p.isIri = false := by simp
  have inner : ItemOffends (.tuple [.text "age", .int 30]) ⟨.predicate, .tuple [.text "age", .int 30]⟩ :=
    .itself (.predicate (.inr rfl) unnamed)
  have level : Offends (.list [.term (.iri "name"), .tuple [.text "age", .int 30]]) _ :=
    .among [.term (.iri "name")] rfl (by simpa using .predicate rfl) inner
  exact .among [.text "*"] rfl (by simpa using .every) (.within ⟨rfl, .inl rfl⟩ rfl level)

theorem compile_of_misnamed : misnamed.isWritable = true ∧ ¬ IsExpression misnamed ∧
    ∀ settings name source start, pullWith settings name source misnamed start =
      .error (.expression (.predicate "('age', 30)")) := by
  have short : Value.isShort 30 = true := by
    unfold Value.isShort
    decide +kernel
  have writable : misnamed.isWritable = true := by
    simp [misnamed, Value.isWritable, Value.areWritable, short]
  obtain ⟨-, -, unsound, fails, -⟩ := compile_grammar misnamed writable
  obtain ⟨shown, inspected, -, pulls⟩ := fails _ misnamed_offends
  have text : (Value.tuple [.text "age", .int 30]).inspect = .ok "('age', 30)" := by decide +kernel
  obtain rfl : shown = "('age', 30)" := Except.ok.inj (inspected.symm.trans text)
  exact ⟨writable, unsound.2 ⟨_, misnamed_offends⟩, pulls⟩

end Pull

end QuadPull
