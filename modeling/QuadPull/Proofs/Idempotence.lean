import QuadPull.Proofs.Monotone
import QuadPull.Proofs.Outcome
/-!
What a plan selects brings along all that it was selected for: quads that meet the filters, links that
were followed, and the way along which recursion went.
-/

namespace QuadPull.Pull

variable {Q R : Finset Quad} {strict : Bool}

theorem Reaches.within {p s t : Term} (kept : ∀ q ∈ Q, q.predicate = p → Reaches Q p s q.subject → q ∈ R)
    (reaches : Reaches Q p s t) : Reaches R p s t := by
  induction reaches with
  | start => exact .start
  | onward member along subject object ih => exact .onward (kept _ member along subject) along ih object

theorem Accepts.within {plan : Plan} {s : Term} (kept : ∀ q, OffersAny Q strict plan s q → q ∈ R)
    (accepts : Accepts Q strict plan s) : Accepts R strict plan s := by
  intro p v required
  obtain ⟨q, member, satisfying⟩ := accepts p v required
  have offered : Offers Q strict (.constraint p v) s q := by
    rw [Offers]
    exact ⟨member, satisfying⟩
  exact ⟨q, kept q (offersAny_iff.2 ⟨_, required.1, offered⟩), satisfying⟩

mutual

theorem Offers.within {spec : Spec} {s : Term} {q : Quad} (kept : ∀ r, Offers Q strict spec s r → r ∈ R)
    (offered : Offers Q strict spec s q) : Offers R strict spec s q := by
  have member := kept q offered
  cases spec with
  | property p | wildcard | constraint p v =>
    rw [Offers] at offered ⊢
    exact ⟨member, offered.2⟩
  | nested p plan =>
    simp only [Offers] at kept
    rw [Offers] at offered ⊢
    obtain ⟨link, stored, subject, along, accepts, here⟩ := offered
    have link_kept : link ∈ R := kept link ⟨link, stored, subject, along, accepts, .inl rfl⟩
    have inner_kept : ∀ r, OffersAny Q strict plan link.object r → r ∈ R := fun r inner =>
      kept r ⟨link, stored, subject, along, accepts, .inr inner⟩
    refine ⟨link, link_kept, subject, along, accepts.within inner_kept, ?_⟩
    rcases here with same | inner
    · exact .inl same
    · exact .inr (OffersAny.within inner_kept inner)
  | recursive p =>
    simp only [Offers] at kept
    rw [Offers] at offered ⊢
    obtain ⟨-, along, reaches⟩ := offered
    exact ⟨member, along, reaches.within fun r stored along' subject => kept r ⟨stored, along', subject⟩⟩
  | raw item =>
    rw [Offers] at offered
    exact offered.elim
termination_by sizeOf spec

theorem OffersAny.within {specs : List Spec} {s : Term} {q : Quad}
    (kept : ∀ r, OffersAny Q strict specs s r → r ∈ R) (offered : OffersAny Q strict specs s q) :
    OffersAny R strict specs s q := by
  cases specs with
  | nil =>
    rw [OffersAny] at offered
    exact offered.elim
  | cons spec rest =>
    simp only [OffersAny] at kept
    rw [OffersAny] at offered ⊢
    rcases offered with here | there
    · exact .inl (Offers.within (fun r one => kept r (.inl one)) here)
    · exact .inr (OffersAny.within (fun r one => kept r (.inr one)) there)
termination_by sizeOf specs

end

theorem Selects.within {plan : Plan} {s : Term} {q : Quad} (kept : ∀ r, Selects Q strict plan s r → r ∈ R)
    (selected : Selects Q strict plan s q) : Selects R strict plan s q := by
  obtain ⟨accepts, offered⟩ := selected
  have all_kept : ∀ r, OffersAny Q strict plan s r → r ∈ R := fun r one => kept r ⟨accepts, one⟩
  exact ⟨accepts.within all_kept, offered.within all_kept⟩

theorem Reaches.first {p s t : Term} (reaches : Reaches Q p s t) :
    t = s ∨ ∃ q ∈ Q, q.predicate = p ∧ q.subject = s := by
  rcases reaches.departs with here | ⟨link, member, subject, along, -⟩
  · exact .inl here
  · exact .inr ⟨link, member, along, subject⟩

theorem Offers.rooted {spec : Spec} {s : Term} {q : Quad} (offered : Offers Q strict spec s q) :
    ∃ r, Offers Q strict spec s r ∧ r.subject = s := by
  cases spec with
  | property p | constraint p v =>
    have held := offered
    rw [Offers] at held
    exact ⟨q, offered, held.2.1⟩
  | wildcard =>
    have held := offered
    rw [Offers] at held
    exact ⟨q, offered, held.2⟩
  | nested p plan =>
    rw [Offers] at offered
    obtain ⟨link, stored, subject, along, accepts, -⟩ := offered
    refine ⟨link, ?_, subject⟩
    rw [Offers]
    exact ⟨link, stored, subject, along, accepts, .inl rfl⟩
  | recursive p =>
    have held := offered
    rw [Offers] at held
    obtain ⟨-, -, reaches⟩ := held
    rcases reaches.first with here | ⟨r, stored, along, subject⟩
    · exact ⟨q, offered, here⟩
    · refine ⟨r, ?_, subject⟩
      rw [Offers]
      exact ⟨stored, along, subject ▸ .start⟩
  | raw item =>
    rw [Offers] at offered
    exact offered.elim

theorem Selects.rooted {plan : Plan} {s : Term} {q : Quad} (selected : Selects Q strict plan s q) :
    ∃ r, Selects Q strict plan s r ∧ r.subject = s := by
  obtain ⟨accepts, offered⟩ := selected
  obtain ⟨spec, member, here⟩ := offersAny_iff.1 offered
  obtain ⟨r, first, subject⟩ := here.rooted
  exact ⟨r, ⟨accepts, offersAny_iff.2 ⟨spec, member, first⟩⟩, subject⟩

theorem IsStart.mono (grows : Q ⊆ R) {start : Option Term} {s : Term} (starts : IsStart Q start s) :
    IsStart R start s := by
  cases start with
  | some t => exact starts
  | none =>
    obtain ⟨q, stored, subject⟩ := starts
    exact ⟨q, grows stored, subject⟩

section

variable {plan : Plan} {start : Option Term}
  (selected : ∀ q, q ∈ R ↔ ∃ s, IsStart Q start s ∧ Selects Q strict plan s q)
include selected

theorem subset_of_selected : R ⊆ Q := by
  intro q member
  obtain ⟨s, -, -, offered⟩ := (selected q).1 member
  exact mem_of_offersAny offered

theorem selected_again (q : Quad) :
    (∃ s, IsStart R start s ∧ Selects R strict plan s q) ↔ q ∈ R := by
  have grows := subset_of_selected selected
  refine ⟨?_, ?_⟩
  · intro held
    obtain ⟨s, starts, again⟩ := held
    exact (selected q).2 ⟨s, starts.mono grows, again.mono grows⟩
  · intro member
    obtain ⟨s, starts, once⟩ := (selected q).1 member
    have kept : ∀ r, Selects Q strict plan s r → r ∈ R := fun r one =>
      (selected r).2 ⟨s, starts, one⟩
    -- Without a start the subject must be one of the result again, so a quad of it has to be selected.
    have starts_again : IsStart R start s := by
      cases start with
      | some t => exact starts
      | none =>
        obtain ⟨r, first, subject⟩ := once.rooted
        exact ⟨r, kept r first, subject⟩
    exact ⟨s, starts_again, once.within kept⟩

end

theorem orDefault_orDefault (t : Term) : t.orDefault.orDefault = t.orDefault := by
  cases t with
  | loose l => cases l <;> rfl
  | _ => rfl

theorem unread_of_compiled {items : List Value} {specs : Plan} (compiles : compileItems items = .ok specs) :
    unread items = [] := by
  induction items generalizing specs with
  | nil => rfl
  | cons item rest ih =>
    rw [compileItems] at compiles
    obtain ⟨spec, made, compiles⟩ := exists_of_bind_ok compiles
    obtain ⟨others, later, -⟩ := exists_of_bind_ok compiles
    rw [unread, made]
    exact ih later

theorem left_of_lasting {v : Value} (lasts : v.isSequence = false) : left v = v := by
  cases v with
  | sequence => cases lasts
  | _ => rfl

theorem left_of_sequence {v : Value} {plan : Plan} (once : v.isSequence = true)
    (compiles : compile v = .ok plan) : ∃ object, left v = .sequence [] object := by
  cases v with
  | sequence items object =>
    rw [compile] at compiles
    exact ⟨object, by rw [left, unread_of_compiled compiles]⟩
  | _ => cases once

section

variable {Q : Finset Quad} {settings : LookupSettings} {name : Term} {expression : Value} {start : Option Term}
  {first : SetGraph}

theorem pull_repeated (proper : ∀ q ∈ Q, q.isProper = true) (typed : isTyped expression = true)
    (given : ∀ s ∈ start, s.isProper = true) (once : Pulls Q settings name expression start (.ok first)) :
    ∃ second, pull settings first.name (Graph.set first).source expression start = .ok second ∧
      second.name = first.name ∧ ∀ q, q ∈ second.quads ↔ q ∈ first.quads := by
  obtain ⟨plan, compiles, valid, sound, named, members⟩ := once.of_ok
  have selected : ∀ q, q ∈ first.quads.toFinset ↔
      ∃ s, IsStart Q start s ∧ Selects Q settings.strict.truthy plan s q := by simpa using members
  have grows := subset_of_selected selected
  have first_proper : ∀ q ∈ first.quads.toFinset, q.isProper = true := fun q member => proper q (grows member)
  have again := pulls_of_holds (holds_set first) first_proper typed given settings first.name
  have sound_again : ∀ s, IsStart first.quads.toFinset start s →
      ¬ Breaks first.quads.toFinset settings.strict.truthy plan s :=
    fun s starts breaks => sound s (starts.mono grows) (breaks.mono grows)
  unfold Pulls at again
  simp only [compiles, valid] at again
  obtain ⟨second, pulled, named_again, found⟩ := again.2 sound_again
  refine ⟨second, pulled, ?_, ?_⟩
  · rw [named_again, named, orDefault_orDefault]
  · intro q
    rw [found, selected_again selected, List.mem_toFinset]

theorem pull_of_nothing (valid : settings.ensureValid = .ok ()) (object : Option Nat)
    {source : Source} (holds : source.Holds Q) (proper : ∀ q ∈ Q, q.isProper = true)
    (given : ∀ s ∈ start, s.isProper = true) (name : Term) :
    ∃ g, pull settings name source (.sequence [] object) start = .ok g ∧ g.name = name.orDefault ∧
      g.quads = [] := by
  have compiles : compile (.sequence [] object) = .ok [] := rfl
  have typed : isTyped (.sequence [] object) = true := rfl
  have pulls := pulls_of_holds holds proper typed given settings name
  unfold Pulls at pulls
  simp only [compiles, valid] at pulls
  have sound : ∀ s, IsStart Q start s → ¬ Breaks Q settings.strict.truthy [] s := fun s _ =>
    not_breaks_of_quiet rfl s
  obtain ⟨g, pulled, named, members⟩ := pulls.2 sound
  refine ⟨g, pulled, named, ?_⟩
  rw [List.eq_nil_iff_forall_not_mem]
  intro q member
  obtain ⟨s, -, -, offered⟩ := (members q).1 member
  exact offered

end

/-- A pull that returns a graph returns an equal one when it is made again from that graph. Only a sequence,
which the first pull has used up, then selects nothing. -/
theorem pull_again {g : Graph} {quads : List Quad} (stores : g.Stores quads)
    (proper : ∀ q ∈ quads, q.isProper = true) {settings : LookupSettings} {expression : Value}
    (typed : isTyped expression = true) {start : Option Term} (given : ∀ s ∈ start, s.isProper = true)
    {first : SetGraph} {engine : Engine}
    (returned : g.pullWith settings expression start = .ok (first, engine)) :
    ∃ second engine, (Graph.set first).pullWith settings (left expression) start = .ok (second, engine) ∧
      second.name = first.name ∧
      (expression.isSequence = false → second.sameQuads first = true) ∧
      (expression.isSequence = true → second.quads = []) := by
  have stored_proper : ∀ q ∈ quads.toFinset, q.isProper = true := fun q member =>
    proper q (List.mem_toFinset.1 member)
  have once := pulls_of_holds stores.holds stored_proper typed given settings (g.name?.getD .defaultGraph)
  rw [pull_eq_map, ← Graph.pullWith, returned] at once
  cases kind : expression.isSequence with
  | false =>
    rw [left_of_lasting kind]
    obtain ⟨second, pulled, named, same⟩ := pull_repeated stored_proper typed given once
    obtain ⟨engine', ended⟩ := pullWith_of_pull pulled
    refine ⟨second, engine', ended, named, fun _ => ?_, Bool.noConfusion⟩
    have kept : ∀ {a b : SetGraph}, (∀ q ∈ a.quads, q ∈ b.quads) → a.quads.all b.contains = true := by
      intro a b subset
      rw [List.all_eq_true]
      exact fun q member => Distinct.holds_of_mem (subset q member)
    rw [SetGraph.sameQuads, kept fun q => (same q).1, kept fun q => (same q).2, Bool.and_self]
  | true =>
    obtain ⟨plan, compiles, valid, -, named, members⟩ := once.of_ok
    have first_proper : ∀ q ∈ first.quads.toFinset, q.isProper = true := by
      intro q member
      obtain ⟨s, -, -, offered⟩ := (members q).1 (List.mem_toFinset.1 member)
      exact stored_proper q (mem_of_offersAny offered)
    obtain ⟨object, spent⟩ := left_of_sequence kind compiles
    rw [spent]
    obtain ⟨second, pulled, named_again, none⟩ :=
      pull_of_nothing valid object (holds_set first) first_proper given first.name
    obtain ⟨engine', ended⟩ := pullWith_of_pull pulled
    refine ⟨second, engine', ended, ?_, Bool.noConfusion, fun _ => none⟩
    rw [named_again, named, orDefault_orDefault]

def friends : SetGraph :=
  .ofList .defaultGraph
    [⟨.iri "a", .iri "knows", .iri "b", .defaultGraph⟩, ⟨.iri "b", .iri "knows", .iri "a", .defaultGraph⟩,
      ⟨.iri "b", .iri "age", .typed "30" Vocabulary.xsdInteger, .defaultGraph⟩]

def whomAtThirty : Value :=
  .list [.tuple [.term (.iri "knows"), .list [.tuple [.term (.iri "age"), .int 30]]]]

theorem pull_again_of_friends : ∃ first engine second engine',
    (Graph.served .coroutine none friends).pullWith {} whomAtThirty none = .ok (first, engine) ∧
    first.quads.length = 2 ∧
    (Graph.set first).pullWith {} (left whomAtThirty) none = .ok (second, engine') ∧
    second.sameQuads first = true := by
  have two : ((Graph.served .coroutine none friends).pullWith {} whomAtThirty none).toOption.map
      (·.1.quads.length) = some 2 := by decide +kernel
  have proper : ∀ q ∈ friends.quads, q.isProper = true := by decide
  have given : ∀ s ∈ (none : Option Term), s.isProper = true := by simp
  cases returned : (Graph.served .coroutine none friends).pullWith {} whomAtThirty none with
  | error fault => simp [returned, Except.toOption] at two
  | ok result =>
    obtain ⟨second, engine', again, -, same, -⟩ :=
      pull_again (.served rfl none friends) proper (by decide) given returned
    rw [returned] at two
    exact ⟨result.1, result.2, second, engine', rfl, Option.some.inj two, again, same rfl⟩

def acquaintances : Value := .sequence [.term (.iri "knows")]

/-- The second pull with a sequence returns the empty graph, though the first has found two quads. -/
theorem sequence_is_used_up : ∃ first engine second engine',
    (Graph.set friends).pullWith {} acquaintances none = .ok (first, engine) ∧
    (Graph.set first).pullWith {} (left acquaintances) none = .ok (second, engine') ∧
    first.quads.length = 2 ∧ second.quads = [] ∧ second.sameQuads first = false := by
  have found : ((Graph.set friends).pullWith {} acquaintances none).toOption.map
      (·.1.quads.length) = some 2 := by decide +kernel
  have lost : ((Graph.set friends).pullWith {} acquaintances none).toOption.bind (fun r =>
      ((Graph.set r.1).pullWith {} (left acquaintances) none).toOption.map fun r' =>
        (r'.1.quads, r'.1.sameQuads r.1)) = some ([], false) := by decide +kernel
  cases once : (Graph.set friends).pullWith {} acquaintances none with
  | error fault => simp [once, Except.toOption] at found
  | ok result =>
    rw [once] at found lost
    cases again : (Graph.set result.1).pullWith {} (left acquaintances) none with
    | error fault => simp [again, Except.toOption] at lost
    | ok other =>
      simp only [Except.toOption, Option.bind_some, again, Option.map_some, Option.some.injEq,
        Prod.mk.injEq] at lost
      exact ⟨result.1, result.2, other.1, other.2, rfl, again, Option.some.inj found, lost.1, lost.2⟩

end QuadPull.Pull
