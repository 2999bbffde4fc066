import QuadPull.Endpoint.Basic
import QuadPull.Text.Parts
/-!
Queries can be read in one way only. The text of a term ends where its last quote, bracket or space says,
whatever stands in it and whatever follows, so a query names the terms of its pattern and its graph.
-/

namespace QuadPull

def isIriChar (c : Char) : Bool :=
  0x20 < c.toNat && c ∉ ['<', '>', '"', '\x7b', '\x7d', '|', '^', '\x60', '\x5c']

def isIriText (s : String) : Bool := s.toList.all isIriChar

def isTagChar (c : Char) : Bool := c.isAlphanum || 0x80 ≤ c.toNat

def isTag (s : String) : Bool :=
  (Text.parts '-' s.toList).all fun subtag => !subtag.isEmpty && subtag.all isTagChar

def isDirection : Option String → Bool
  | none => true
  | some direction => direction = "ltr" || direction = "rtl"

def Literal.isLegible (l : Literal) : Bool :=
  if l.language = "" then l.direction.isNone && isIriText l.datatype
  else l.datatype = Vocabulary.langString && isTag l.language && isDirection l.direction

namespace Term

def isLegible : Term → Bool
  | .iri value => isIriText value
  | .literal l => l.isLegible
  | .quoted s p o .defaultGraph => s.isLegible && p.isLegible && o.isLegible
  | _ => false

def isLegibleName : Term → Bool
  | .defaultGraph => true
  | .iri value => isIriText value
  | _ => false

end Term

def Pattern.isLegible (p : Pattern) : Bool :=
  [p.subject, p.predicate, p.object].all (·.all Term.isLegible) && p.graph.all Term.isLegibleName

section

namespace Term

def unescapeChar : Char → Char
  | 'n' => '\n'
  | 'r' => '\r'
  | 't' => '\t'
  | c => c

/-- Reads up to a quote that stands for itself, and gives what is behind it as well. -/
def readLexical : List Char → Option (List Char × List Char)
  | [] => none
  | '\x22' :: rest => some ([], rest)
  | '\x5c' :: c :: rest => (readLexical rest).map fun read => (unescapeChar c :: read.1, read.2)
  | c :: rest => (readLexical rest).map fun read => (c :: read.1, read.2)

theorem unescapeChar_of_mem {c letter : Char} (among : (c, letter) ∈ escapes) :
    unescapeChar letter = c := by
  have back : ∀ e ∈ escapes, unescapeChar e.2 = e.1 := by decide
  exact back _ among

theorem readLexical_escapeChar (c : Char) (cs : List Char) :
    readLexical (escapeChar c ++ cs) = (readLexical cs).map fun read => (c :: read.1, read.2) := by
  rcases escapeChar_cases c with ⟨letter, among, written⟩ | ⟨others, written⟩
  · have step : escapeChar c ++ cs = '\x5c' :: letter :: cs := by rw [written]; rfl
    rw [step, readLexical, unescapeChar_of_mem among]
  · have slash : c ≠ '\x5c' := others ('\x5c', '\x5c') (by decide)
    have quote : c ≠ '"' := others ('"', '"') (by decide)
    rw [written, List.singleton_append, readLexical]
    · exact quote
    · exact fun _ _ same => absurd same slash

theorem readLexical_escapeChars (cs rest : List Char) :
    readLexical (escapeChars cs ++ '"' :: rest) = some (cs, rest) := by
  induction cs with
  | nil => rfl
  | cons c cs ih =>
    have step : escapeChars (c :: cs) = escapeChar c ++ escapeChars cs := rfl
    rw [step, List.append_assoc, readLexical_escapeChar, ih]
    rfl

end Term

theorem eq_of_append_cons_eq {α : Type} {c : α} {xs ys rest other : List α} (free : c ∉ xs)
    (free' : c ∉ ys) (same : xs ++ c :: rest = ys ++ c :: other) : xs = ys ∧ rest = other := by
  induction xs generalizing ys with
  | nil =>
    cases ys with
    | nil => exact ⟨rfl, (List.cons.inj same).2⟩
    | cons y ys => exact absurd ((List.cons.inj same).1 ▸ List.mem_cons_self) free'
  | cons x xs ih =>
    cases ys with
    | nil => exact absurd ((List.cons.inj same).1 ▸ List.mem_cons_self) free
    | cons y ys =>
      obtain ⟨first, later⟩ := List.cons.inj same
      obtain ⟨rfl, onward⟩ := ih (fun member => free (List.mem_cons_of_mem x member))
        (fun member => free' (List.mem_cons_of_mem y member)) later
      exact ⟨by rw [first], onward⟩

end

section

theorem Text.parts_append_cons (c : Char) (xs ys : List Char) :
    Text.parts c (xs ++ c :: ys) = Text.parts c xs ++ Text.parts c ys := by
  induction xs with
  | nil =>
    cases cut : Text.parts c ys with
    | nil => exact absurd cut (Text.parts_ne_nil c ys)
    | cons first others => simp [Text.parts, cut]
  | cons x xs ih =>
    cases cut : Text.parts c xs with
    | nil => exact absurd cut (Text.parts_ne_nil c xs)
    | cons first others =>
      rw [cut] at ih
      simp only [List.cons_append, Text.parts, ih, cut]
      split <;> rfl

theorem Text.exists_part_of_mem {c d : Char} {cs : List Char} (other : d ≠ c) (member : d ∈ cs) :
    ∃ part ∈ Text.parts c cs, d ∈ part := by
  induction cs with
  | nil => cases member
  | cons e rest ih =>
    cases cut : Text.parts c rest with
    | nil => exact absurd cut (Text.parts_ne_nil c rest)
    | cons first others =>
      rw [cut] at ih
      simp only [Text.parts, cut]
      rcases List.mem_cons.1 member with rfl | later
      · rw [if_neg (by simpa using other)]
        exact ⟨d :: first, List.mem_cons_self, List.mem_cons_self⟩
      · obtain ⟨part, among, inside⟩ := ih later
        split
        · exact ⟨part, List.mem_cons_of_mem _ among, inside⟩
        · rcases List.mem_cons.1 among with rfl | among
          · exact ⟨e :: part, List.mem_cons_self, List.mem_cons_of_mem e inside⟩
          · exact ⟨part, List.mem_cons_of_mem _ among, inside⟩

theorem nil_not_mem_parts {tag : String} (legible : isTag tag = true) :
    [] ∉ Text.parts '-' tag.toList := by
  intro member
  have subtag := List.all_eq_true.1 legible [] member
  simp at subtag

theorem space_not_mem_tag {tag : String} (legible : isTag tag = true) : ' ' ∉ tag.toList := by
  intro member
  obtain ⟨part, among, inside⟩ := Text.exists_part_of_mem (by decide : ' ' ≠ '-') member
  have subtag := List.all_eq_true.1 legible part among
  rw [Bool.and_eq_true] at subtag
  have letter := List.all_eq_true.1 subtag.2 ' ' inside
  simp [isTagChar] at letter

theorem not_mem_of_isIriText {s : String} {c : Char} (legible : isIriText s = true)
    (other : isIriChar c = false) : c ∉ s.toList := by
  intro member
  have letter := List.all_eq_true.1 legible c member
  rw [other] at letter
  cases letter

def directionMark : Option String → List Char
  | none => []
  | some direction => if direction = "" then [] else '-' :: '-' :: direction.toList

theorem directionMark_of_some {direction : String} (legible : isDirection (some direction) = true) :
    directionMark (some direction) = '-' :: '-' :: direction.toList ∧ ' ' ∉ direction.toList := by
  simp only [isDirection, Bool.or_eq_true, decide_eq_true_eq] at legible
  rcases legible with rfl | rfl
  · exact ⟨by decide, by decide⟩
  · exact ⟨by decide, by decide⟩

theorem parts_append_mark (tag direction : List Char) :
    Text.parts '-' (tag ++ '-' :: '-' :: direction) =
      Text.parts '-' tag ++ [] :: Text.parts '-' direction := by
  rw [Text.parts_append_cons]
  exact congrArg _ (Text.parts_append_cons '-' [] direction)

theorem tag_append_mark_inj {tag tag' : String} {direction direction' : Option String}
    (legible : isTag tag = true) (legible' : isTag tag' = true) (base : isDirection direction = true)
    (base' : isDirection direction' = true)
    (same : tag.toList ++ directionMark direction = tag'.toList ++ directionMark direction') :
    tag = tag' ∧ direction = direction' := by
  have whole := nil_not_mem_parts legible
  have whole' := nil_not_mem_parts legible'
  -- A mark has two hyphens in a row: the parts of a text that has one are empty at one place, where the tag
  -- ends, and no part of a tag is empty.
  have alike := congrArg (Text.parts '-') same
  cases direction with
  | none =>
    cases direction' with
    | none => exact ⟨String.toList_inj.1 (by simpa [directionMark] using same), rfl⟩
    | some d' =>
      rw [(directionMark_of_some base').1, parts_append_mark] at alike
      simp only [directionMark, List.append_nil] at alike
      exact absurd (alike ▸ List.mem_append_right _ List.mem_cons_self) whole
  | some d =>
    rw [(directionMark_of_some base).1, parts_append_mark] at alike
    cases direction' with
    | none =>
      simp only [directionMark, List.append_nil] at alike
      exact absurd (alike ▸ List.mem_append_right _ List.mem_cons_self) whole'
    | some d' =>
      rw [(directionMark_of_some base').1, parts_append_mark] at alike
      obtain ⟨tags, bases⟩ := eq_of_append_cons_eq whole whole' alike
      have joined := congrArg ['-'].intercalate tags
      have joined' := congrArg ['-'].intercalate bases
      simp only [Text.intercalate_parts, String.toList_inj] at joined joined'
      exact ⟨joined, by rw [joined']⟩

namespace Literal

def qualifier (l : Literal) : List Char :=
  if l.language ≠ "" then '@' :: (l.language.toList ++ directionMark l.direction)
  else if l.datatype = Vocabulary.xsdString then []
  else '^' :: '^' :: '<' :: (l.datatype.toList ++ ['>'])

theorem toList_n3 (l : Literal) :
    l.n3.toList = '"' :: (Term.escapeChars l.lexical.toList ++ '"' :: l.qualifier) := by
  have text : (quotedLexical l.lexical).toList = '"' :: (Term.escapeChars l.lexical.toList ++ ['"']) := by
    simp [quotedLexical, Term.toList_escape]
  unfold n3 qualifier directionMark
  split
  · split
    · split <;> simp_all
    · simp_all
  · split
    · simp_all
    · simp_all

theorem isLegible_cases {l : Literal} (legible : l.isLegible = true) :
    (l.language = "" ∧ l.direction = none ∧ isIriText l.datatype = true) ∨
    (l.language ≠ "" ∧ l.datatype = Vocabulary.langString ∧ isTag l.language = true ∧
      isDirection l.direction = true) := by
  unfold isLegible at legible
  split at legible
  · rename_i silent
    rw [Bool.and_eq_true, Option.isNone_iff_eq_none] at legible
    exact .inl ⟨silent, legible⟩
  · rename_i spoken
    simp only [Bool.and_eq_true, decide_eq_true_eq] at legible
    exact .inr ⟨spoken, legible.1.1, legible.1.2, legible.2⟩

theorem qualifier_of_language {l : Literal} (spoken : l.language ≠ "") :
    l.qualifier = '@' :: (l.language.toList ++ directionMark l.direction) := by
  rw [qualifier, if_pos spoken]

theorem qualifier_of_datatype {l : Literal} (silent : l.language = "") : l.qualifier =
    if l.datatype = Vocabulary.xsdString then [] else '^' :: '^' :: '<' :: (l.datatype.toList ++ ['>']) := by
  rw [qualifier, if_neg (not_not_intro silent)]

theorem datatype_inj {l k : Literal} (silent : l.language = "") (silent' : k.language = "")
    (same : l.qualifier = k.qualifier) : l.datatype = k.datatype := by
  rw [qualifier_of_datatype silent, qualifier_of_datatype silent'] at same
  split at same
  · rename_i plain
    split at same
    · rename_i plain'
      rw [plain, plain']
    · cases same
  · split at same
    · cases same
    · simp only [List.cons.injEq, true_and, List.append_cancel_right_eq] at same
      exact String.toList_inj.1 same

theorem qualifier_ne {l k : Literal} (silent : l.language = "") (spoken : k.language ≠ "") :
    l.qualifier ≠ k.qualifier := by
  rw [qualifier_of_datatype silent, qualifier_of_language spoken]
  split
  · simp
  · simp

theorem qualifier_inj {l k : Literal} (legible : l.isLegible = true) (legible' : k.isLegible = true)
    (same : l.qualifier = k.qualifier) :
    l.datatype = k.datatype ∧ l.language = k.language ∧ l.direction = k.direction := by
  rcases isLegible_cases legible with ⟨silent, base, -⟩ | ⟨spoken, datatype, tag, base⟩
  · rcases isLegible_cases legible' with ⟨silent', base', -⟩ | ⟨spoken', -⟩
    · exact ⟨datatype_inj silent silent' same, by rw [silent, silent'], by rw [base, base']⟩
    · exact absurd same (qualifier_ne silent spoken')
  · rcases isLegible_cases legible' with ⟨silent', -⟩ | ⟨spoken', datatype', tag', base'⟩
    · exact absurd same.symm (qualifier_ne silent' spoken)
    · rw [qualifier_of_language spoken, qualifier_of_language spoken'] at same
      obtain ⟨language, direction⟩ := tag_append_mark_inj tag tag' base base' (List.cons.inj same).2
      exact ⟨by rw [datatype, datatype'], language, direction⟩

theorem space_not_mem_qualifier {l : Literal} (legible : l.isLegible = true) : ' ' ∉ l.qualifier := by
  rcases isLegible_cases legible with ⟨silent, -, datatype⟩ | ⟨spoken, -, tag, base⟩
  · have free := not_mem_of_isIriText datatype (by decide : isIriChar ' ' = false)
    rw [qualifier_of_datatype silent]
    split
    · simp
    · simpa using free
  · have free := space_not_mem_tag tag
    have free' : ' ' ∉ directionMark l.direction := by
      cases chosen : l.direction with
      | none => simp [directionMark]
      | some direction =>
        obtain ⟨mark, apart⟩ := directionMark_of_some (chosen ▸ base)
        simpa [mark] using apart
    rw [qualifier_of_language spoken]
    simpa [free] using free'

end Literal

end

section

namespace Term

theorem iri_append (value : String) (rest : List Char) :
    (iri value).n3.toList ++ rest = '<' :: (value.toList ++ '>' :: rest) := by simp [n3]

theorem literal_append (l : Literal) (rest : List Char) : (literal l).n3.toList ++ rest =
    '"' :: (escapeChars l.lexical.toList ++ '"' :: (l.qualifier ++ rest)) := by
  simp [n3, Literal.toList_n3]

theorem quoted_append (s p o g : Term) (rest : List Char) : (quoted s p o g).n3.toList ++ rest =
    '<' :: '<' :: ' ' :: (s.n3.toList ++ ' ' :: (p.n3.toList ++ ' ' ::
      (o.n3.toList ++ ' ' :: '>' :: '>' :: rest))) := by simp [n3]

theorem legible_parts {s p o g : Term} (legible : (quoted s p o g).isLegible = true) :
    g = .defaultGraph ∧ s.isLegible = true ∧ p.isLegible = true ∧ o.isLegible = true := by
  cases g with
  | defaultGraph =>
    simp only [isLegible, Bool.and_eq_true] at legible
    exact ⟨rfl, legible.1.1, legible.1.2, legible.2⟩
  | _ => cases legible

/-- A bracket that opens an IRI does not open a quoted triple. -/
theorem iri_ne_quoted {value : String} {rest other : List Char} (legible : isIriText value = true) :
    value.toList ++ '>' :: rest ≠ '<' :: other := by
  have free := not_mem_of_isIriText legible (by decide : isIriChar '<' = false)
  intro same
  cases chars : value.toList with
  | nil => simp [chars] at same
  | cons c cs =>
    rw [chars, List.cons_append] at same
    rw [chars, (List.cons.inj same).1] at free
    exact free List.mem_cons_self

theorem literal_append_inj {l k : Literal} {rest other : List Char} (legible : l.isLegible = true)
    (legible' : k.isLegible = true)
    (same : (literal l).n3.toList ++ ' ' :: rest = (literal k).n3.toList ++ ' ' :: other) :
    l = k ∧ rest = other := by
  rw [literal_append, literal_append] at same
  have read := congrArg readLexical (List.cons.inj same).2
  simp only [readLexical_escapeChars, Option.some.injEq, Prod.mk.injEq] at read
  obtain ⟨lexical, behind⟩ := read
  obtain ⟨qualifier, onward⟩ := eq_of_append_cons_eq (Literal.space_not_mem_qualifier legible)
    (Literal.space_not_mem_qualifier legible') behind
  obtain ⟨datatype, language, direction⟩ := Literal.qualifier_inj legible legible' qualifier
  have text := String.toList_inj.1 lexical
  cases l
  cases k
  exact ⟨by simp_all, onward⟩

/-- The text of a term that a space follows tells the term, and where it ends. -/
theorem n3_append_inj {t u : Term} {rest other : List Char} (legible : t.isLegible = true)
    (legible' : u.isLegible = true)
    (same : t.n3.toList ++ ' ' :: rest = u.n3.toList ++ ' ' :: other) : t = u ∧ rest = other := by
  induction t generalizing u rest other with
  | iri value =>
    have free := not_mem_of_isIriText legible (by decide : isIriChar '>' = false)
    cases u with
    | iri value' =>
      have free' := not_mem_of_isIriText legible' (by decide : isIriChar '>' = false)
      rw [iri_append, iri_append] at same
      obtain ⟨name, onward⟩ := eq_of_append_cons_eq free free' (List.cons.inj same).2
      exact ⟨congrArg iri (String.toList_inj.1 name), (List.cons.inj onward).2⟩
    | literal k =>
      rw [iri_append, literal_append] at same
      cases (List.cons.inj same).1
    | quoted s p o g =>
      rw [iri_append, quoted_append] at same
      exact absurd (List.cons.inj same).2 (iri_ne_quoted legible)
    | _ => cases legible'
  | literal l =>
    cases u with
    | iri value =>
      rw [literal_append, iri_append] at same
      cases (List.cons.inj same).1
    | literal k =>
      obtain ⟨rfl, onward⟩ := literal_append_inj legible legible' same
      exact ⟨rfl, onward⟩
    | quoted s p o g =>
      rw [literal_append, quoted_append] at same
      cases (List.cons.inj same).1
    | _ => cases legible'
  | quoted s p o g subject predicate object =>
    cases u with
    | iri value =>
      rw [quoted_append, iri_append] at same
      exact absurd (List.cons.inj same).2.symm (iri_ne_quoted legible')
    | literal k =>
      rw [quoted_append, literal_append] at same
      cases (List.cons.inj same).1
    | quoted s' p' o' g' =>
      obtain ⟨rfl, legible_s, legible_p, legible_o⟩ := legible_parts legible
      obtain ⟨rfl, legible_s', legible_p', legible_o'⟩ := legible_parts legible'
      rw [quoted_append, quoted_append] at same
      simp only [List.cons.injEq, true_and] at same
      -- A space follows each part, so the next one begins where the induction says that this one ends.
      obtain ⟨rfl, behind_s⟩ := subject legible_s legible_s' same
      obtain ⟨rfl, behind_p⟩ := predicate legible_p legible_p' behind_s
      obtain ⟨rfl, behind_o⟩ := object legible_o legible_o' behind_p
      simp only [List.cons.injEq, true_and] at behind_o
      exact ⟨rfl, behind_o⟩
    | _ => cases legible'
  | _ => cases legible

theorem n3_opens {t : Term} (legible : t.isLegible = true) (rest : List Char) :
    ∃ c after, t.n3.toList ++ rest = c :: after ∧ (c = '<' ∨ c = '"') := by
  cases t with
  | iri value => exact ⟨'<', _, iri_append value rest, .inl rfl⟩
  | literal l => exact ⟨'"', _, literal_append l rest, .inr rfl⟩
  | quoted s p o g => exact ⟨'<', _, quoted_append s p o g rest, .inl rfl⟩
  | _ => cases legible

theorem isWritten_of_isLegible {t : Term} (legible : t.isLegible = true) : t.isWritten = true := by
  induction t with
  | quoted s p o g subject predicate object =>
    obtain ⟨-, legible_s, legible_p, legible_o⟩ := legible_parts legible
    rw [isWritten, subject legible_s, predicate legible_p, object legible_o]
    rfl
  | loose l => cases legible
  | _ => rfl

end Term

namespace Endpoint

theorem slot_none_append (name : String) (rest : List Char) :
    (slot name none).toList ++ rest = '?' :: (name.toList ++ rest) := by simp [slot]

theorem slot_some_append (name : String) (t : Term) (rest : List Char) :
    (slot name (some t)).toList ++ rest = t.n3.toList ++ rest := by simp [slot]

theorem slot_opens {bound : Option Term} (legible : bound.all Term.isLegible = true) (name : String)
    (rest : List Char) :
    ∃ c after, (slot name bound).toList ++ rest = c :: after ∧ (c = '?' ∨ c = '<' ∨ c = '"') := by
  cases bound with
  | none => exact ⟨'?', _, slot_none_append name rest, .inl rfl⟩
  | some t =>
    obtain ⟨c, after, opens, mark⟩ := Term.n3_opens legible rest
    exact ⟨c, after, by rw [slot_some_append, opens], .inr mark⟩

theorem slot_ne {t : Term} (legible : t.isLegible = true) (name : String) (rest other : List Char) :
    (slot name none).toList ++ rest ≠ (slot name (some t)).toList ++ other := by
  obtain ⟨c, after, opens, mark⟩ := Term.n3_opens legible other
  rw [slot_none_append, slot_some_append, opens]
  intro same
  have first := (List.cons.inj same).1
  rcases mark with rfl | rfl
  · exact absurd first (by decide)
  · exact absurd first (by decide)

theorem slot_append_inj {name : String} {bound bound' : Option Term} {rest other : List Char}
    (legible : bound.all Term.isLegible = true) (legible' : bound'.all Term.isLegible = true)
    (same : (slot name bound).toList ++ ' ' :: rest = (slot name bound').toList ++ ' ' :: other) :
    bound = bound' ∧ rest = other := by
  cases bound with
  | none =>
    cases bound' with
    | none => exact ⟨rfl, by simpa using same⟩
    | some u => exact absurd same (slot_ne legible' name _ _)
  | some t =>
    cases bound' with
    | none => exact absurd same.symm (slot_ne legible name _ _)
    | some u =>
      rw [slot_some_append, slot_some_append] at same
      obtain ⟨rfl, onward⟩ := Term.n3_append_inj legible legible' same
      exact ⟨rfl, onward⟩

def positions (p : Pattern) (rest : List Char) : List Char :=
  (slot "s" p.subject).toList ++ ' ' :: ((slot "p" p.predicate).toList ++ ' ' ::
    ((slot "o" p.object).toList ++ ' ' :: rest))

theorem positions_inj {p q : Pattern} {rest other : List Char} (legible : p.isLegible = true)
    (legible' : q.isLegible = true) (same : positions p rest = positions q other) :
    p.subject = q.subject ∧ p.predicate = q.predicate ∧ p.object = q.object := by
  simp only [Pattern.isLegible, List.all_cons, List.all_nil, Bool.and_true, Bool.and_eq_true]
    at legible legible'
  obtain ⟨⟨legible_s, legible_p, legible_o⟩, -⟩ := legible
  obtain ⟨⟨legible_s', legible_p', legible_o'⟩, -⟩ := legible'
  obtain ⟨subject, behind_s⟩ := slot_append_inj legible_s legible_s' same
  obtain ⟨predicate, behind_p⟩ := slot_append_inj legible_p legible_p' behind_s
  obtain ⟨object, -⟩ := slot_append_inj legible_o legible_o' behind_p
  exact ⟨subject, predicate, object⟩

theorem query_of_name {e : Endpoint} {p : Pattern} {value : String}
    (named : e.context p.graph = .iri value) : (e.query p).toList = "SELECT * WHERE \x7b ".toList ++
      ("GRAPH ".toList ++ '<' :: (value.toList ++ '>' :: (" \x7b ".toList ++
        positions p "\x7d \x7d".toList))) := by
  simp [query, named, Term.isIri, Term.n3, positions]

theorem query_of_default {e : Endpoint} {p : Pattern} (unnamed : e.context p.graph = .defaultGraph) :
    (e.query p).toList = "SELECT * WHERE \x7b ".toList ++ positions p "\x7d".toList := by
  simp [query, unnamed, Term.isIri, positions]

theorem legible_context {e : Endpoint} {p : Pattern} (named : e.name.isLegibleName = true)
    (legible : p.isLegible = true) : e.context p.graph = .defaultGraph ∨
      ∃ value, e.context p.graph = .iri value ∧ isIriText value = true := by
  have name : (e.context p.graph).isLegibleName = true := by
    rw [Pattern.isLegible, Bool.and_eq_true] at legible
    unfold context
    split
    · exact named
    · exact named
    · rename_i g _ given
      simpa [given] using legible.2
  cases chosen : e.context p.graph with
  | defaultGraph => exact .inl rfl
  | iri value => exact .inr ⟨value, rfl, by simpa [chosen, Term.isLegibleName] using name⟩
  | _ => simp [chosen, Term.isLegibleName] at name

theorem graph_ne_positions {p : Pattern} (legible : p.isLegible = true) (rest other : List Char) :
    "GRAPH ".toList ++ rest ≠ positions p other := by
  simp only [Pattern.isLegible, List.all_cons, Bool.and_eq_true] at legible
  obtain ⟨c, after, opens, mark⟩ := slot_opens legible.1.1 "s" (' ' :: ((slot "p" p.predicate).toList ++
    ' ' :: ((slot "o" p.object).toList ++ ' ' :: other)))
  rw [positions, opens]
  intro same
  have first : 'G' = c := (List.cons.inj same).1
  rcases mark with rfl | rfl | rfl
  · exact absurd first (by decide)
  · exact absurd first (by decide)
  · exact absurd first (by decide)

theorem query_inj {e : Endpoint} {p q : Pattern} (named : e.name.isLegibleName = true)
    (legible : p.isLegible = true) (legible' : q.isLegible = true) (same : e.query p = e.query q) :
    p.subject = q.subject ∧ p.predicate = q.predicate ∧ p.object = q.object ∧
      e.context p.graph = e.context q.graph := by
  have texts := String.toList_inj.2 same
  rcases legible_context named legible with unnamed | ⟨value, name, clear⟩
  · rw [query_of_default unnamed] at texts
    rcases legible_context named legible' with unnamed' | ⟨value', name', clear'⟩
    · rw [query_of_default unnamed'] at texts
      obtain ⟨subject, predicate, object⟩ := positions_inj legible legible' (List.append_cancel_left texts)
      exact ⟨subject, predicate, object, by rw [unnamed, unnamed']⟩
    · rw [query_of_name name'] at texts
      exact absurd (List.append_cancel_left texts).symm (graph_ne_positions legible _ _)
  · rw [query_of_name name] at texts
    rcases legible_context named legible' with unnamed' | ⟨value', name', clear'⟩
    · rw [query_of_default unnamed'] at texts
      exact absurd (List.append_cancel_left texts) (graph_ne_positions legible' _ _)
    · rw [query_of_name name'] at texts
      have free := not_mem_of_isIriText clear (by decide : isIriChar '>' = false)
      have free' := not_mem_of_isIriText clear' (by decide : isIriChar '>' = false)
      have behind := (List.cons.inj (List.append_cancel_left (List.append_cancel_left texts))).2
      obtain ⟨graph, onward⟩ := eq_of_append_cons_eq free free' behind
      obtain ⟨subject, predicate, object⟩ := positions_inj legible legible' (List.append_cancel_left onward)
      exact ⟨subject, predicate, object, by rw [name, name', String.toList_inj.1 graph]⟩

theorem queryFor_of_isWritten (e : Endpoint) {p : Pattern}
    (written : ∀ bound ∈ [p.subject, p.predicate, p.object], ∀ t ∈ bound, t.isWritten = true) :
    e.queryFor p = .ok (e.query p) := by
  have all : ([p.subject, p.predicate, p.object].all fun bound => bound.all Term.isWritten) = true := by
    rw [List.all_eq_true]
    intro bound among
    rw [Option.all_eq_true]
    exact written bound among
  simp only [queryFor, all, if_true]

theorem queryFor_of_isLegible (e : Endpoint) {p : Pattern} (legible : p.isLegible = true) :
    e.queryFor p = .ok (e.query p) := by
  refine queryFor_of_isWritten e fun bound among t given => Term.isWritten_of_isLegible ?_
  rw [Pattern.isLegible, Bool.and_eq_true, List.all_eq_true] at legible
  have clear := legible.1 bound among
  rw [Option.all_eq_true] at clear
  exact clear t given

/-- Two patterns with legible terms have texts, and one text only if they ask for the same terms in the
same graph. -/
theorem query_determines (e : Endpoint) (p q : Pattern) (named : e.name.isLegibleName = true)
    (legible : p.isLegible = true) (legible' : q.isLegible = true) :
    e.queryFor p = .ok (e.query p) ∧ e.queryFor q = .ok (e.query q) ∧
    (e.query p = e.query q ↔ p.subject = q.subject ∧ p.predicate = q.predicate ∧ p.object = q.object ∧
      e.context p.graph = e.context q.graph) := by
  have written := queryFor_of_isLegible e legible
  have written' := queryFor_of_isLegible e legible'
  refine ⟨written, written', query_inj named legible legible', ?_⟩
  rintro ⟨subject, predicate, object, graph⟩
  rw [query, query, subject, predicate, object, graph]

def sparse : Endpoint := ⟨.iri "g", { url := .text "http://h/" }, [], .empty⟩

def about (l : Literal) : Pattern :=
  { subject := some (.quoted (.iri "s") (.iri "p") (.literal l) .defaultGraph) }

def forged : Literal := { lexical := "a\"@en >> ?p ?o \x7d \x7d\n\\" }

def spoken : Literal := { lexical := "a", datatype := Vocabulary.langString, language := "en" }

theorem query_of_forged : (about forged).isLegible = true ∧ (about spoken).isLegible = true ∧
    sparse.queryFor (about forged) = .ok (sparse.query (about forged)) ∧
    sparse.query (about forged) ≠ sparse.query (about spoken) := by
  have named : sparse.name.isLegibleName = true := by decide
  have legible : (about forged).isLegible = true := by decide
  have legible' : (about spoken).isLegible = true := by decide
  obtain ⟨written, -, alike⟩ := query_determines sparse _ _ named legible legible'
  have other : (about forged).subject ≠ (about spoken).subject := by decide
  exact ⟨legible, legible', written, fun same => other (alike.1 same).1⟩

end Endpoint

end

end QuadPull
