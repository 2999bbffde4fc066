import QuadPull.Endpoint.Binding

namespace QuadPull

def Literal.isTold (l : Literal) : Bool :=
  if l.language = "" then l.direction.isNone && !l.datatype.isEmpty
  else l.datatype = Vocabulary.langString

/-- Terms that a document can tell: triples are those of the default graph. -/
def Term.isTold : Term → Bool
  | .iri _ | .blank _ => true
  | .literal l => l.isTold
  | .quoted s p o .defaultGraph => s.isTold && p.isTold && o.isTold
  | _ => false

namespace Binding

def IsLiteral (kind : String) : Prop := kind = "literal" ∨ kind = "typed-literal"

/-- The document tells the term, whatever else stands beside the fields that tell it and in whatever
order. -/
inductive Binds : Document → Term → Prop where
  | iri {fields : List (String × Document)} {value : String}
      (kinded : fields.lookup "type" = some (.text "uri"))
      (held : fields.lookup "value" = some (.text value)) : Binds (.object fields) (.iri value)
  | blank {fields : List (String × Document)} {label : String}
      (kinded : fields.lookup "type" = some (.text "bnode"))
      (held : fields.lookup "value" = some (.text label)) : Binds (.object fields) (.blank label)
  | spoken {fields : List (String × Document)} {kind lexical language : String} {direction : Option String}
      (literal : IsLiteral kind) (kinded : fields.lookup "type" = some (.text kind))
      (held : fields.lookup "value" = some (.text lexical)) (given : language ≠ "")
      (tagged : fields.lookup "xml:lang" = some (.text language))
      (directed : fields.lookup "its:dir" = direction.map .text) :
      Binds (.object fields)
        (.literal { lexical, datatype := Vocabulary.langString, language, direction })
  | typed {fields : List (String × Document)} {kind lexical datatype : String}
      (literal : IsLiteral kind) (kinded : fields.lookup "type" = some (.text kind))
      (held : fields.lookup "value" = some (.text lexical)) (silent : fields.lookup "xml:lang" = none)
      (given : datatype ≠ "") (typed : fields.lookup "datatype" = some (.text datatype)) :
      Binds (.object fields) (.literal { lexical, datatype })
  | plain {fields : List (String × Document)} {kind lexical : String}
      (literal : IsLiteral kind) (kinded : fields.lookup "type" = some (.text kind))
      (held : fields.lookup "value" = some (.text lexical)) (silent : fields.lookup "xml:lang" = none)
      (untyped : fields.lookup "datatype" = none) : Binds (.object fields) (.literal { lexical })
  | triple {fields parts : List (String × Document)} {ds dp d : Document} {s p o : Term}
      (kinded : fields.lookup "type" = some (.text "triple"))
      (held : fields.lookup "value" = some (.object parts))
      (subject : parts.lookup "subject" = some ds) (predicate : parts.lookup "predicate" = some dp)
      (object : parts.lookup "object" = some d) (first : Binds ds s) (second : Binds dp p)
      (third : Binds d o) : Binds (.object fields) (.quoted s p o .defaultGraph)

def qualified (l : Literal) : List (String × Document) :=
  if l.language ≠ "" then
    ("xml:lang", .text l.language) :: (l.direction.map fun d => ("its:dir", Document.text d)).toList
  else if l.datatype = Vocabulary.xsdString then [] else [("datatype", .text l.datatype)]

def written : Term → Document
  | .iri value => .object [("type", .text "uri"), ("value", .text value)]
  | .blank label => .object [("type", .text "bnode"), ("value", .text label)]
  | .literal l => .object (("type", .text "literal") :: ("value", .text l.lexical) :: qualified l)
  | .quoted s p o _ => .object [("type", .text "triple"), ("value", .object
      [("subject", written s), ("predicate", written p), ("object", written o)])]
  | _ => .null

theorem told_parts {s p o g : Term} (told : (Term.quoted s p o g).isTold = true) :
    g = .defaultGraph ∧ s.isTold = true ∧ p.isTold = true ∧ o.isTold = true := by
  cases g with
  | defaultGraph =>
    simp only [Term.isTold, Bool.and_eq_true] at told
    exact ⟨rfl, told.1.1, told.1.2, told.2⟩
  | _ => cases told

theorem binds_written_literal {l : Literal} (told : l.isTold = true) :
    Binds (written (.literal l)) (.literal l) := by
  obtain ⟨lexical, datatype, language, direction⟩ := l
  unfold Literal.isTold at told
  dsimp only at told
  rw [written, qualified]
  dsimp only
  split at told
  · rename_i silent
    simp only [Bool.and_eq_true, Option.isNone_iff_eq_none, Bool.not_eq_true',
      String.isEmpty_eq_false_iff] at told
    obtain ⟨rfl, given⟩ := told
    obtain rfl := silent
    rw [if_neg (not_not_intro rfl)]
    split
    · rename_i plain
      obtain rfl := plain
      exact .plain (.inl rfl) rfl rfl rfl rfl
    · exact .typed (.inl rfl) rfl rfl rfl given rfl
  · rename_i spoken
    obtain rfl : datatype = Vocabulary.langString := by simpa using told
    rw [if_pos spoken]
    cases direction with
    | none => exact .spoken (.inl rfl) rfl rfl spoken rfl rfl
    | some d => exact .spoken (.inl rfl) rfl rfl spoken rfl rfl

theorem binds_written {t : Term} (told : t.isTold = true) : Binds (written t) t := by
  induction t with
  | iri value => exact .iri rfl rfl
  | blank label => exact .blank rfl rfl
  | literal l => exact binds_written_literal told
  | quoted s p o g subject predicate object =>
    obtain ⟨rfl, told_s, told_p, told_o⟩ := told_parts told
    exact .triple rfl rfl rfl rfl rfl (subject told_s) (predicate told_p) (object told_o)
  | _ => cases told

theorem isTold_of_binds {d : Document} {t : Term} (binds : Binds d t) : t.isTold = true := by
  induction binds with
  | iri | blank => rfl
  | spoken _ _ _ given => simp [Term.isTold, Literal.isTold, given]
  | typed _ _ _ _ given => simpa [Term.isTold, Literal.isTold] using given
  | plain =>
    have given : Vocabulary.xsdString ≠ "" := by decide
    simpa [Term.isTold, Literal.isTold] using given
  | triple _ _ _ _ _ _ _ _ first second third => simp [Term.isTold, first, second, third]

theorem exists_binds_iff {t : Term} : (∃ d, Binds d t) ↔ t.isTold = true :=
  ⟨fun ⟨_, binds⟩ => isTold_of_binds binds, fun told => ⟨written t, binds_written told⟩⟩

theorem fieldOr_of_lookup {fields : List (String × Document)} {key : String} {d : Document}
    (held : fields.lookup key = some d) : fieldOr fields key = d := by
  rw [fieldOr, held, Option.getD_some]

theorem fieldOr_of_missing {fields : List (String × Document)} {key : String}
    (missing : fields.lookup key = none) : fieldOr fields key = .null := by
  rw [fieldOr, missing, Option.getD_none]

theorem tripleIn_eq {fields : List (String × Document)} {d : Document}
    (held : fields.lookup "value" = some d) : tripleIn fields = ofTriple d := by
  induction fields with
  | nil => cases held
  | cons field rest ih =>
    obtain ⟨key, e⟩ := field
    rw [tripleIn]
    by_cases same : key = "value"
    · obtain rfl := same
      rw [List.lookup_cons_self] at held
      rw [if_pos rfl, Option.some.inj held]
    · have other : ("value" == key) = false := by simpa using fun same' => same same'.symm
      rw [List.lookup_cons, other] at held
      rw [if_neg same, ih held]

theorem partOf_eq {parts : List (String × Document)} {part : String} {d : Document}
    (held : parts.lookup part = some d) : partOf part parts = term d := by
  induction parts with
  | nil => cases held
  | cons field rest ih =>
    obtain ⟨key, e⟩ := field
    rw [partOf]
    by_cases same : key = part
    · obtain rfl := same
      rw [List.lookup_cons_self] at held
      rw [if_pos rfl, Option.some.inj held]
    · have other : (part == key) = false := by simpa using fun same' => same same'.symm
      rw [List.lookup_cons, other] at held
      rw [if_neg same, ih held]

theorem term_of_literal {fields : List (String × Document)} {kind : String} (literal : IsLiteral kind)
    (kinded : fields.lookup "type" = some (.text kind)) : term (.object fields) = .ok (ofLiteral fields) := by
  rw [term, fieldOr_of_lookup kinded]
  rcases literal with rfl | rfl
  · rfl
  · rfl

theorem term_of_binds {d : Document} {t : Term} (binds : Binds d t) : term d = .ok t := by
  induction binds with
  | iri kinded held =>
    rw [term, fieldOr_of_lookup kinded, fieldOr_of_lookup held]
    rfl
  | blank kinded held =>
    rw [term, fieldOr_of_lookup kinded, fieldOr_of_lookup held]
    rfl
  | @spoken fields kind lexical language direction literal kinded held given tagged directed =>
    have chosen : Term.optionalText? (fieldOr fields "its:dir") = some direction := by
      cases direction with
      | none => rw [fieldOr_of_missing directed, Term.optionalText?]
      | some text => rw [fieldOr_of_lookup directed, Term.optionalText?]
    have counts : (Document.text language).truthy = true := by simpa [Document.truthy] using given
    rw [term_of_literal literal kinded, ofLiteral, fieldOr_of_lookup held, fieldOr_of_lookup tagged]
    simp only [counts, if_true, Term.literalOf, chosen]
  | @typed fields kind lexical datatype literal kinded held silent given typed =>
    have counts : (Document.text datatype).truthy = true := by simpa [Document.truthy] using given
    rw [term_of_literal literal kinded, ofLiteral, fieldOr_of_lookup held, fieldOr_of_missing silent,
      fieldOr_of_lookup typed]
    simp only [counts, if_true]
    rfl
  | plain literal kinded held silent untyped =>
    rw [term_of_literal literal kinded, ofLiteral, fieldOr_of_lookup held, fieldOr_of_missing silent,
      fieldOr_of_missing untyped]
    rfl
  | triple kinded held subject predicate object _ _ _ first second third =>
    rw [term, fieldOr_of_lookup kinded]
    simp only [String.reduceEq, if_false, if_true]
    rw [tripleIn_eq held, ofTriple, partOf_eq subject, partOf_eq predicate, partOf_eq object, first, second,
      third]
    rfl

/-- A term that a document can tell has a document, is read from each of its documents, and shares none of
them with another term. -/
theorem term_of_told (t : Term) (told : t.isTold = true) :
    Binds (written t) t ∧ term (written t) = .ok t ∧ (∀ d, Binds d t → term d = .ok t) ∧
    ∀ u d e, u ≠ t → Binds d u → Binds e t → term d ≠ term e := by
  have shortest := binds_written told
  refine ⟨shortest, term_of_binds shortest, fun d => term_of_binds, ?_⟩
  intro u d e other binds binds' same
  rw [term_of_binds binds, term_of_binds binds'] at same
  exact other (Except.ok.inj same)

def greeting : Term := .quoted (.blank "b") (.iri "p")
  (.literal { lexical := "a", datatype := Vocabulary.langString, language := "ar", direction := some "rtl" })
  .defaultGraph

theorem reading_of_greeting : greeting.isTold = true ∧ ∀ other : List (String × Document),
    term (.object (("value", .object [("object", .object [("its:dir", .text "rtl"),
      ("xml:lang", .text "ar"), ("value", .text "a"), ("type", .text "typed-literal")]),
      ("predicate", written (.iri "p")), ("subject", written (.blank "b"))]) ::
      ("type", .text "triple") :: other)) = .ok greeting := by
  have told : greeting.isTold = true := by decide
  obtain ⟨-, -, reads, -⟩ := term_of_told greeting told
  refine ⟨told, fun other => reads _ ?_⟩
  let fields : List (String × Document) := [("its:dir", .text "rtl"), ("xml:lang", .text "ar"),
    ("value", .text "a"), ("type", .text "typed-literal")]
  have directed : fields.lookup "its:dir" = (some "rtl").map .text := rfl
  have spoken : Binds (.object fields) _ := .spoken (.inr rfl) rfl rfl (by decide) rfl directed
  exact .triple rfl rfl rfl rfl rfl (.blank rfl rfl) (.iri rfl rfl) spoken

end Binding

end QuadPull
