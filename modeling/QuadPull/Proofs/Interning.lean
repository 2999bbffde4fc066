import Mathlib.Data.List.Induction
import Mathlib.Data.List.Nodup
import QuadPull.Distinct
import QuadPull.Graph.TermDictionary

namespace QuadPull.TermDictionary

def idsOf (d : TermDictionary) (k : TermKind) : List TermId :=
  (d.ids.filter fun e => e.1.kind? = some k).map (·.2)

def termsOf (d : TermDictionary) (k : TermKind) : List Term :=
  (d.ids.filter fun e => e.1.kind? = some k).map (·.1)

def grow (d : TermDictionary) (t : Term) (k : TermKind) : TermDictionary where
  next l := if l = k then d.next k + 1 else d.next l
  ids := d.ids ++ [(t, TermId.make k (d.next k))]
  terms := Keyed.put id d.terms (TermId.make k (d.next k)) t

/-- What holds of a dictionary whatever was asked of it. The terms of identifiers are only told apart
while no kind has used up its payloads. -/
structure Sound (d : TermDictionary) : Prop where
  storable : ∀ e ∈ d.ids, e.1.hashable = true ∧ ∃ k, e.1.kind? = some k
  each : (d.ids.map fun e => e.1.settled).Nodup
  next_eq : ∀ k, d.next k = d.count k + 1
  numbered : ∀ k, d.idsOf k = (List.range' 1 (d.count k)).map fun (n : Nat) => TermId.make k n
  paired : (∀ k, d.count k < TermId.payloadSize) → d.terms = d.ids.map Prod.swap

theorem id?_eq_none {d : TermDictionary} {t : Term} (absent : d.id? t = none) :
    t ≠ .defaultGraph ∧ Keyed.get? Term.settled d.ids t = none := by
  unfold id? at absent
  split at absent
  · cases absent
  · exact ⟨‹_›, absent⟩

theorem intern_cases (d : TermDictionary) (t : Term) :
    (∃ e, d.intern t = (.error e, d) ∧ (t.hashable = false ∨ t.kind? = none)) ∨
    (∃ n, d.id? t = some n ∧ d.intern t = (.ok n, d)) ∨
    ∃ k, t.hashable = true ∧ t.kind? = some k ∧ Keyed.get? Term.settled d.ids t = none ∧
      d.intern t = (.ok (TermId.make k (d.next k)), d.grow t k) := by
  unfold intern
  by_cases hashable : t.hashable = true
  · cases known : d.id? t with
    | some n => exact .inr (.inl ⟨n, rfl, by simp [hashable]⟩)
    | none =>
      cases kind : t.kind? with
      | none => exact .inl ⟨.unstorable t, by simp [hashable], .inr rfl⟩
      | some k =>
        have absent := (id?_eq_none known).2
        refine .inr (.inr ⟨k, hashable, rfl, absent, ?_⟩)
        simp [hashable, allocate, grow, Keyed.put_of_get?_eq_none absent]
  · have unhashable : t.hashable = false := by simpa using hashable
    exact .inl ⟨.wrongKind, by simp [unhashable], .inl unhashable⟩

theorem count_grow (d : TermDictionary) {t : Term} {k : TermKind} (kind : t.kind? = some k)
    (l : TermKind) : (d.grow t k).count l = d.count l + if l = k then 1 else 0 := by
  have same : (k = l) = (l = k) := propext eq_comm
  simp [grow, count, List.countP_append, kind, same]

theorem idsOf_grow (d : TermDictionary) {t : Term} {k : TermKind} (kind : t.kind? = some k)
    (l : TermKind) :
    (d.grow t k).idsOf l = d.idsOf l ++ if l = k then [TermId.make k (d.next k)] else [] := by
  by_cases same : l = k
  · subst same
    simp [grow, idsOf, List.filter_append, kind]
  · have other : ¬ k = l := fun h => same h.symm
    simp [grow, idsOf, List.filter_append, kind, same, other]

section

variable {d : TermDictionary}

theorem Sound.made (sound : d.Sound) {t : Term} {n : TermId} (member : (t, n) ∈ d.ids) :
    ∃ (k : TermKind) (payload : Nat), t.kind? = some k ∧ n = TermId.make k payload ∧ 0 < payload ∧
      payload ≤ d.count k := by
  obtain ⟨-, k, kind⟩ := sound.storable _ member
  have among : n ∈ d.idsOf k :=
    List.mem_map.2 ⟨(t, n), List.mem_filter.2 ⟨member, by simpa using kind⟩, rfl⟩
  rw [sound.numbered, List.mem_map] at among
  obtain ⟨payload, bounds, rfl⟩ := among
  rw [List.mem_range'_1] at bounds
  exact ⟨k, payload, kind, rfl, by omega, by omega⟩

theorem Sound.fresh (sound : d.Sound) (small : ∀ k, d.count k < TermId.payloadSize) {k : TermKind}
    (room : d.next k < TermId.payloadSize) {t : Term} {n : TermId} (member : (t, n) ∈ d.ids) :
    n ≠ TermId.make k (d.next k) := by
  intro same
  obtain ⟨l, payload, -, made, -, bound⟩ := sound.made member
  have below : payload < TermId.payloadSize := Nat.lt_of_le_of_lt bound (small l)
  obtain ⟨rfl, payloads⟩ := TermId.eq_of_make_eq below room (made.symm.trans same)
  have next := sound.next_eq l
  omega

theorem Sound.grow (sound : d.Sound) {t : Term} {k : TermKind} (hashable : t.hashable = true)
    (kind : t.kind? = some k) (absent : Keyed.get? Term.settled d.ids t = none) :
    (d.grow t k).Sound where
  storable := by
    intro e member
    rcases List.mem_append.1 member with old | new
    · exact sound.storable e old
    · obtain rfl := List.mem_singleton.1 new
      exact ⟨hashable, k, kind⟩
  each := by
    have unequal := Keyed.get?_eq_none_iff.1 absent
    rw [TermDictionary.grow, List.map_append, List.nodup_append]
    refine ⟨sound.each, by simp, ?_⟩
    intro u old v new same
    obtain ⟨e, member, rfl⟩ := List.mem_map.1 old
    obtain rfl : v = t.settled := by simpa using new
    exact unequal e member same
  next_eq := by
    intro l
    have next := sound.next_eq l
    rw [count_grow d kind l]
    by_cases same : l = k
    · subst same
      simp [TermDictionary.grow, next]
    · simp [TermDictionary.grow, same, next]
  numbered := by
    intro l
    rw [idsOf_grow d kind l, sound.numbered, count_grow d kind l]
    by_cases same : l = k
    · subst same
      have next : ((d.next l : Nat) : Int) = ((1 + d.count l : Nat) : Int) := by
        rw [sound.next_eq, Nat.add_comm]
      simp [List.range'_concat, next]
    · simp [same]
  paired := by
    intro small
    have before : ∀ l, d.count l < TermId.payloadSize := by
      intro l
      have after := small l
      rw [count_grow d kind l] at after
      omega
    have room : d.next k < TermId.payloadSize := by
      have after := small k
      rw [count_grow d kind k, if_pos rfl] at after
      rw [sound.next_eq]
      exact after
    -- The next identifier is free only while payloads last: past them it would repeat an earlier one.
    have swapped := sound.paired before
    have unused : Keyed.get? id d.terms (TermId.make k (d.next k)) = none := by
      rw [Keyed.get?_eq_none_iff, swapped]
      intro e member
      obtain ⟨⟨u, n⟩, inIds, rfl⟩ := List.mem_map.1 member
      exact sound.fresh before room inIds
    rw [TermDictionary.grow, Keyed.put_of_get?_eq_none unused, swapped, List.map_append]
    rfl

theorem sound_empty : ({} : TermDictionary).Sound where
  storable := by simp
  each := by simp
  next_eq := by simp [count]
  numbered := by simp [idsOf, count]
  paired := by simp

theorem Sound.ids_nodup (sound : d.Sound) (small : ∀ k, d.count k < TermId.payloadSize)
    (k : TermKind) : (d.idsOf k).Nodup := by
  rw [sound.numbered]
  refine List.Nodup.map_on ?_ List.nodup_range'
  intro m inM n inN same
  rw [List.mem_range'_1] at inM inN
  have bound := small k
  exact (TermId.eq_of_make_eq (by omega) (by omega) same).2

theorem Sound.entry_unique (sound : d.Sound) (small : ∀ k, d.count k < TermId.payloadSize)
    {e f : Term × TermId} (he : e ∈ d.ids) (hf : f ∈ d.ids) (same : e.2 = f.2) : e = f := by
  obtain ⟨k, m, kind, made, -, hm⟩ := sound.made he
  obtain ⟨l, n, other, remade, -, hn⟩ := sound.made hf
  -- The kind can be read off an identifier, so the two entries are among those of one kind.
  have kinds : k = l := by
    rw [← TermId.kind_make k m, ← made, same, remade, TermId.kind_make]
  subst kinds
  have inE : e ∈ d.ids.filter fun e => e.1.kind? = some k :=
    List.mem_filter.2 ⟨he, by simpa using kind⟩
  have inF : f ∈ d.ids.filter fun e => e.1.kind? = some k :=
    List.mem_filter.2 ⟨hf, by simpa using other⟩
  exact List.inj_on_of_nodup_map (sound.ids_nodup small k) inE inF same

theorem Sound.ne_defaultGraph (sound : d.Sound) (small : ∀ k, d.count k < TermId.payloadSize)
    {t : Term} {n : TermId} (member : (t, n) ∈ d.ids) :
    t ≠ .defaultGraph ∧ n ≠ TermId.defaultGraph := by
  obtain ⟨k, payload, kind, rfl, pos, bound⟩ := sound.made member
  refine ⟨?_, TermId.make_ne_defaultGraph k pos (Nat.lt_of_le_of_lt bound (small k))⟩
  intro same
  subst same
  cases kind

theorem Sound.id?_of_mem (sound : d.Sound) {t u : Term} {n : TermId} (member : (t, n) ∈ d.ids)
    (same : t.settled = u.settled) : d.id? u = some n := by
  have held : Keyed.get? Term.settled d.ids t = some n := Keyed.get?_of_mem sound.each member
  have other : u ≠ .defaultGraph := by
    intro same
    subst same
    obtain ⟨-, k, kind⟩ := sound.storable _ member
    cases t <;> cases same
    cases kind
  rw [id?, if_neg other]
  simpa [Keyed.get?, same] using held

theorem Sound.mem_of_term? (sound : d.Sound) (small : ∀ k, d.count k < TermId.payloadSize)
    {t : Term} {n : TermId} (other : n ≠ TermId.defaultGraph) :
    d.term? n = some t ↔ (t, n) ∈ d.ids := by
  rw [term?, if_neg other, sound.paired small]
  refine ⟨?_, ?_⟩
  · intro held
    obtain ⟨m, member, rfl⟩ := Keyed.mem_of_get?_eq_some held
    obtain ⟨⟨u, n⟩, inIds, swapped⟩ := List.mem_map.1 member
    cases swapped
    exact inIds
  · intro member
    refine Keyed.get?_of_mem ?_ (List.mem_map.2 ⟨_, member, rfl⟩)
    rw [List.map_map]
    refine List.Nodup.map_on ?_ (List.Nodup.of_map _ sound.each)
    intro e he f hf same
    exact sound.entry_unique small he hf same

end

inductive Call where
  | intern (t : Term)
  | find (t : Term)
  | lookup (n : TermId)
  | contains (t : Term)

inductive Reply where
  | id (n : Option TermId)
  | term (t : Term)
  | held (b : Bool)

def ask (d : TermDictionary) : Call → Except Error Reply × TermDictionary
  | .intern t => ((d.intern t).1.map fun n => .id (some n), (d.intern t).2)
  | .find t => ((d.find t).map .id, d)
  | .lookup n => ((d.term? n).elim (.error .missing) fun t => .ok (.term t), d)
  | .contains t => ((d.find t).map fun _ => .held (d.contains t), d)

def after (d : TermDictionary) (calls : List Call) : TermDictionary :=
  calls.foldl (fun d c => (d.ask c).2) d

def Call.taken? (k : TermKind) : Call → Option Term
  | .intern t => if t.hashable = true ∧ t.kind? = some k then some t else none
  | _ => none

def interned (calls : List Call) (k : TermKind) : List Term :=
  Distinct.ofList Term.settled (calls.filterMap (Call.taken? k))

theorem after_concat (d : TermDictionary) (calls : List Call) (c : Call) :
    d.after (calls ++ [c]) = ((d.after calls).ask c).2 := by
  rw [after, List.foldl_append]
  rfl

theorem interned_concat (calls : List Call) (c : Call) (k : TermKind) :
    interned (calls ++ [c]) k =
      Distinct.pushAll Term.settled (interned calls k) (c.taken? k).toList := by
  have last : List.filterMap (Call.taken? k) [c] = (c.taken? k).toList := by
    cases taken : c.taken? k <;> simp [taken]
  rw [interned, List.filterMap_append, last, Distinct.ofList, Distinct.pushAll, List.foldl_append]
  rfl

theorem ask_cases (d : TermDictionary) (c : Call) :
    (d.ask c).2 = d ∨ ∃ t k, c = .intern t ∧ t.hashable = true ∧ t.kind? = some k ∧
      Keyed.get? Term.settled d.ids t = none ∧
      d.ask c = (.ok (.id (some (TermId.make k (d.next k)))), d.grow t k) := by
  cases c with
  | intern t =>
    rcases intern_cases d t with ⟨e, result, -⟩ | ⟨n, -, result⟩ | ⟨k, hashable, kind, absent, result⟩
    · exact .inl (by rw [ask, result])
    · exact .inl (by rw [ask, result])
    · exact .inr ⟨t, k, rfl, hashable, kind, absent, by rw [ask, result]; rfl⟩
  | find t => exact .inl rfl
  | lookup n => exact .inl rfl
  | contains t => exact .inl rfl

theorem Sound.after {d : TermDictionary} (sound : d.Sound) (calls : List Call) :
    (d.after calls).Sound := by
  induction calls using List.reverseRecOn with
  | nil => exact sound
  | append_singleton calls c ih =>
    rw [after_concat]
    rcases ask_cases (d.after calls) c with same | ⟨t, k, -, hashable, kind, absent, result⟩
    · rw [same]
      exact ih
    · rw [result]
      exact ih.grow hashable kind absent

theorem kind?_settled (t : Term) : t.settled.kind? = t.kind? := by
  cases t with
  | loose l => cases l <;> rfl
  | _ => rfl

theorem termsOf_grow (d : TermDictionary) {t : Term} {k : TermKind} (kind : t.kind? = some k)
    (l : TermKind) : (d.grow t k).termsOf l = d.termsOf l ++ if l = k then [t] else [] := by
  by_cases same : l = k
  · subst same
    simp [grow, termsOf, List.filter_append, kind]
  · have other : ¬ k = l := fun h => same h.symm
    simp [grow, termsOf, List.filter_append, kind, same, other]

theorem holds_termsOf {d : TermDictionary} {t : Term} {k : TermKind} (kind : t.kind? = some k) :
    Distinct.holds Term.settled (d.termsOf k) t = (Keyed.get? Term.settled d.ids t).isSome := by
  rw [Bool.eq_iff_iff, Distinct.holds_iff, Option.isSome_iff_exists]
  refine ⟨?_, ?_⟩
  · intro held
    obtain ⟨u, among, equal⟩ := held
    obtain ⟨e, member, rfl⟩ := List.mem_map.1 among
    by_contra absent
    have none : Keyed.get? Term.settled d.ids t = none :=
      Option.eq_none_iff_forall_ne_some.2 fun n held => absent ⟨n, held⟩
    exact Keyed.get?_eq_none_iff.1 none e (List.mem_filter.1 member).1 equal
  · intro held
    obtain ⟨n, held⟩ := held
    obtain ⟨u, member, equal⟩ := Keyed.mem_of_get?_eq_some held
    have sameKind : u.kind? = some k := by rw [← kind?_settled, equal, kind?_settled, kind]
    exact ⟨u, List.mem_map.2 ⟨_, List.mem_filter.2 ⟨member, by simpa using sameKind⟩, rfl⟩, equal⟩

theorem termsOf_ask (d : TermDictionary) (c : Call) (k : TermKind) :
    (d.ask c).2.termsOf k = Distinct.pushAll Term.settled (d.termsOf k) (c.taken? k).toList := by
  cases c with
  | intern t =>
    rcases intern_cases d t with ⟨e, result, bad⟩ | ⟨n, known, result⟩ | ⟨l, hashable, kind, absent, result⟩
    · have nothing : (Call.intern t).taken? k = none := by
        rcases bad with unhashable | kindless
        · simp [Call.taken?, unhashable]
        · simp [Call.taken?, kindless]
      rw [ask, result, nothing]
      rfl
    · rw [ask, result]
      cases taken : (Call.intern t).taken? k with
      | none => rfl
      | some u =>
        obtain ⟨⟨-, kind⟩, rfl⟩ : (t.hashable = true ∧ t.kind? = some k) ∧ t = u := by
          simpa [Call.taken?] using taken
        have other : t ≠ .defaultGraph := by
          intro same
          subst same
          cases kind
        rw [id?, if_neg other] at known
        simp [Distinct.pushAll, Distinct.push, holds_termsOf kind, known]
    · rw [ask, result, termsOf_grow d kind]
      by_cases same : k = l
      · subst same
        simp [Call.taken?, hashable, kind, Distinct.pushAll, Distinct.push, holds_termsOf kind, absent]
      · have other : ¬ l = k := fun h => same h.symm
        simp [Call.taken?, kind, same, other, Distinct.pushAll]
  | _ => rfl

theorem termsOf_after (calls : List Call) (k : TermKind) :
    (({} : TermDictionary).after calls).termsOf k = interned calls k := by
  induction calls using List.reverseRecOn with
  | nil => rfl
  | append_singleton calls c ih => rw [after_concat, interned_concat, termsOf_ask, ih]

theorem length_termsOf (d : TermDictionary) (k : TermKind) : (d.termsOf k).length = d.count k := by
  rw [termsOf, List.length_map, count, List.countP_eq_length_filter]

theorem Sound.length_ids {d : TermDictionary} (sound : d.Sound) :
    d.ids.length = Number.total (TermKind.all.map d.count) := by
  -- Each entry is of one kind: the four counts add up to the entries.
  have each := sound.storable
  change d.ids.length = Number.total (TermKind.all.map fun k => d.ids.countP fun e => e.1.kind? = some k)
  generalize d.ids = entries at each
  induction entries with
  | nil => rfl
  | cons e rest ih =>
    have step := ih fun f member => each f (List.mem_cons_of_mem e member)
    obtain ⟨-, k, kind⟩ := each e List.mem_cons_self
    simp only [TermKind.all, List.map_cons, List.map_nil, Number.total,
      List.countP_cons, List.length_cons, kind] at step ⊢
    cases k <;> simp <;> omega

theorem id?_grow (d : TermDictionary) {t : Term} {k : TermKind}
    (absent : Keyed.get? Term.settled d.ids t = none) (u : Term) :
    (d.grow t k).id? u = if t.settled = u.settled ∧ u ≠ .defaultGraph then
      some (TermId.make k (d.next k)) else d.id? u := by
  unfold id?
  by_cases reserved : u = .defaultGraph
  · simp [reserved]
  · by_cases same : t.settled = u.settled
    · have unknown : d.ids.find? (fun e => e.1.settled = u.settled) = none := by
        simpa [Keyed.get?, same] using absent
      simp [reserved, same, grow, Keyed.get?, List.find?_append, unknown]
    · simp [reserved, same, grow, Keyed.get?, List.find?_append]

theorem id?_after {d : TermDictionary} {t : Term} {n : TermId} (held : d.id? t = some n)
    (calls : List Call) : (d.after calls).id? t = some n := by
  induction calls using List.reverseRecOn with
  | nil => exact held
  | append_singleton calls c ih =>
    rw [after_concat]
    rcases ask_cases (d.after calls) c with same | ⟨u, k, -, -, -, absent, result⟩
    · rw [same, ih]
    · rw [result, id?_grow _ absent, if_neg, ih]
      intro held
      obtain ⟨same, other⟩ := held
      rw [id?, if_neg other, ← Keyed.get?_congr same, absent] at ih
      cases ih

theorem id?_of_intern {d : TermDictionary} {t : Term} {n : TermId} (given : (d.intern t).1 = .ok n) :
    (d.intern t).2.id? t = some n := by
  rcases intern_cases d t with ⟨e, result, -⟩ | ⟨m, known, result⟩ | ⟨k, -, kind, absent, result⟩
  · rw [result] at given
    cases given
  · rw [result] at given ⊢
    cases given
    exact known
  · have other : t ≠ .defaultGraph := by
      intro same
      subst same
      cases kind
    rw [result] at given ⊢
    cases given
    rw [id?_grow d absent, if_pos ⟨rfl, other⟩]

theorem Sound.get?_of_kindless {d : TermDictionary} (sound : d.Sound) {t : Term}
    (kindless : t.kind? = none) : Keyed.get? Term.settled d.ids t = none := by
  rw [Keyed.get?_eq_none_iff]
  intro e member same
  obtain ⟨-, k, kind⟩ := sound.storable e member
  rw [← kind?_settled, same, kind?_settled, kindless] at kind
  cases kind

/-- A dictionary that tells apart just these terms of each kind. -/
structure Faithful (d : TermDictionary) (terms : TermKind → List Term) : Prop where
  inverse : ∀ t n, d.id? t = some n ↔ ∃ u, d.term? n = some u ∧ u.same t = true
  distinct : ∀ k, Distinct.Each Term.settled (terms k)
  ordered : ∀ k (i : Nat) (h : i < (terms k).length),
    d.id? (terms k)[i] = some (TermId.make k ((i + 1 : Nat) : Int))
  numbered : ∀ k, d.idsOf k = (List.range' 1 (terms k).length).map fun (n : Nat) => TermId.make k n
  inRange : ∀ t n, d.id? t = some n → t ≠ .defaultGraph →
    0 < n ∧ n < Number.twoTo 64 ∧ t.kind? = some (TermId.kind n)
  size_eq : d.size = Number.total (TermKind.all.map fun k => (terms k).length)

theorem Sound.faithful {d : TermDictionary} (sound : d.Sound)
    (small : ∀ k, d.count k < TermId.payloadSize) : d.Faithful d.termsOf where
  inverse := by
    intro t n
    refine ⟨?_, ?_⟩
    · intro held
      by_cases reserved : t = .defaultGraph
      · subst reserved
        obtain rfl : TermId.defaultGraph = n := by simpa [id?] using held
        exact ⟨.defaultGraph, rfl, rfl⟩
      · rw [id?, if_neg reserved] at held
        obtain ⟨u, member, same⟩ := Keyed.mem_of_get?_eq_some held
        have other := (sound.ne_defaultGraph small member).2
        exact ⟨u, (sound.mem_of_term? small other).2 member, by simpa [Term.same] using same⟩
    · intro held
      obtain ⟨u, held, same⟩ := held
      have settled : u.settled = t.settled := by simpa [Term.same] using same
      by_cases reserved : n = TermId.defaultGraph
      · subst reserved
        obtain rfl : Term.defaultGraph = u := by simpa [term?] using held
        cases t <;> cases settled
        rfl
      · exact sound.id?_of_mem ((sound.mem_of_term? small reserved).1 held) settled
  distinct := by
    intro k
    have each : ((d.ids.filter fun e => e.1.kind? = some k).map fun e => e.1.settled).Nodup :=
      sound.each.sublist (List.filter_sublist.map _)
    rw [Distinct.Each, termsOf, List.map_map]
    exact each
  ordered := by
    intro k i h
    have inTerms : i < (d.ids.filter fun e => e.1.kind? = some k).length := by
      simpa [termsOf] using h
    have inIds : i < (d.idsOf k).length := by
      simpa [idsOf] using inTerms
    have member := List.mem_of_mem_filter (List.getElem_mem inTerms)
    have number : (d.idsOf k)[i] = TermId.make k ((i + 1 : Nat) : Int) := by
      simp [sound.numbered, Nat.add_comm]
    have here : (d.termsOf k)[i] = (d.ids.filter fun e => e.1.kind? = some k)[i].1 := by
      simp [termsOf]
    have there : (d.idsOf k)[i] = (d.ids.filter fun e => e.1.kind? = some k)[i].2 := by
      simp [idsOf]
    rw [here, ← number, there]
    exact sound.id?_of_mem member rfl
  numbered := by
    intro k
    rw [length_termsOf, sound.numbered]
  inRange := by
    intro t n held other
    rw [id?, if_neg other] at held
    obtain ⟨u, member, same⟩ := Keyed.mem_of_get?_eq_some held
    have notReserved := (sound.ne_defaultGraph small member).2
    obtain ⟨k, payload, kind, rfl, -, -⟩ := sound.made member
    refine ⟨Nat.pos_of_ne_zero notReserved, TermId.make_lt k payload, ?_⟩
    rw [TermId.kind_make, ← kind?_settled, ← same, kind?_settled, kind]
  size_eq := by
    have lengths : (fun k => (d.termsOf k).length) = d.count := funext (length_termsOf d)
    rw [lengths, ← sound.length_ids, size, sound.paired small, List.length_map]

/-- Whatever a new dictionary is asked, and whichever calls fail, its identifiers number the terms of
each kind in the order in which they came first. They stay as they were given, only a new term that
can be stored changes the dictionary, and the default graph has its own identifier from the start. -/
theorem identifiers_faithful (calls : List Call)
    (small : ∀ k, (interned calls k).length < TermId.payloadSize) :
    let d := ({} : TermDictionary).after calls
    d.Faithful (interned calls) ∧
    (∀ t n, d.id? t = some n → ∀ more, (d.after more).id? t = some n) ∧
    (∀ t n, (d.intern t).1 = .ok n → (d.intern t).2.id? t = some n) ∧
    (∀ c, (d.ask c).2 = d ∨
      ∃ t n, c = .intern t ∧ d.id? t = none ∧ (d.ask c).1 = .ok (.id (some n))) ∧
    (∀ name, d.ask (.intern (.var name)) = (.error (.unstorable (.var name)), d)) ∧
    d.ask (.intern .defaultGraph) = (.ok (.id (some 0)), d) ∧
    d.ask (.find .defaultGraph) = (.ok (.id (some 0)), d) ∧
    d.ask (.lookup 0) = (.ok (.term .defaultGraph), d) ∧
    d.ask (.contains .defaultGraph) = (.ok (.held false), d) := by
  intro d
  have sound : d.Sound := sound_empty.after calls
  have terms : d.termsOf = interned calls := funext fun k => termsOf_after calls k
  have room : ∀ k, d.count k < TermId.payloadSize := by
    intro k
    rw [← length_termsOf, terms]
    exact small k
  have unchanged : ∀ c, (d.ask c).2 = d ∨
      ∃ t n, c = .intern t ∧ d.id? t = none ∧ (d.ask c).1 = .ok (.id (some n)) := by
    intro c
    rcases ask_cases d c with same | ⟨t, k, made, -, kind, absent, result⟩
    · exact .inl same
    · have other : t ≠ .defaultGraph := by
        intro same
        subst same
        cases kind
      exact .inr ⟨t, _, made, by rw [id?, if_neg other, absent], by rw [result]⟩
  have refused : ∀ name, d.ask (.intern (.var name)) = (.error (.unstorable (.var name)), d) := by
    intro name
    have absent := sound.get?_of_kindless (t := .var name) rfl
    simp [ask, intern, id?, absent, Term.hashable, Term.kind?, Except.map]
  have reserved : d.contains .defaultGraph = false := by
    rw [contains, sound.get?_of_kindless rfl]
    rfl
  refine ⟨terms ▸ sound.faithful room, fun t n held more => id?_after held more,
    fun t n => id?_of_intern, unchanged, refused, rfl, rfl, rfl, ?_⟩
  rw [ask, reserved]
  rfl

def fiveCalls : List Call :=
  [.intern (.iri "a"), .intern (.var "x"), .intern (.blank "b"), .intern (.iri "c"), .intern (.iri "a")]

theorem identifiers_of_fiveCalls :
    (∀ k, (interned fiveCalls k).length < TermId.payloadSize) ∧
      (({} : TermDictionary).after fiveCalls).id? (.iri "c") = some 2 ∧
      (({} : TermDictionary).after fiveCalls).size = 3 := by
  have small : ∀ k, (interned fiveCalls k).length < TermId.payloadSize := by
    intro k
    cases k <;> decide
  have faithful := (identifiers_faithful fiveCalls small).1
  exact ⟨small, faithful.ordered .iri 1 (by decide), faithful.size_eq⟩

end QuadPull.TermDictionary
