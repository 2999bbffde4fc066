import QuadPull.Proofs.Levels
/-!
What plans select from more quads. With the data grow what can be reached, which subjects a level accepts,
and what a plan offers and selects.
-/

namespace QuadPull.Pull

variable {Q R : Finset Quad} {strict : Bool}

theorem Reaches.mono (grows : Q ⊆ R) {p s t : Term} (reaches : Reaches Q p s t) : Reaches R p s t := by
  induction reaches with
  | start => exact .start
  | onward member along _ object ih => exact .onward (grows member) along ih object

theorem Accepts.mono (grows : Q ⊆ R) {plan : Plan} {s : Term}
    (accepts : Accepts Q strict plan s) : Accepts R strict plan s := by
  intro p v required
  obtain ⟨q, member, satisfying⟩ := accepts p v required
  exact ⟨q, grows member, satisfying⟩

theorem OffersAny.mono (grows : Q ⊆ R) {plan : Plan} {s : Term} {q : Quad}
    (offered : OffersAny Q strict plan s q) : OffersAny R strict plan s q := by
  induction plan using level_induction generalizing s q with
  | step plan ih =>
    obtain ⟨spec, among, offered⟩ := offersAny_iff.1 offered
    refine offersAny_iff.2 ⟨spec, among, ?_⟩
    cases spec with
    | property p | wildcard | constraint p v =>
      rw [Offers] at offered ⊢
      exact ⟨grows offered.1, offered.2⟩
    | nested p level =>
      rw [Offers] at offered ⊢
      obtain ⟨link, member, subject, along, accepts, here⟩ := offered
      exact ⟨link, grows member, subject, along, accepts.mono grows, here.imp_right (ih p level among)⟩
    | recursive p =>
      rw [Offers] at offered ⊢
      obtain ⟨member, along, reaches⟩ := offered
      exact ⟨grows member, along, reaches.mono grows⟩
    | raw item =>
      rw [Offers] at offered
      exact offered.elim

theorem Selects.mono (grows : Q ⊆ R) {plan : Plan} {s : Term} {q : Quad}
    (selected : Selects Q strict plan s q) :
    Selects R strict plan s q := ⟨selected.1.mono grows, OffersAny.mono grows selected.2⟩

theorem Breaks.mono (grows : Q ⊆ R) {plan : Plan} {s : Term}
    (breaks : Breaks Q strict plan s) : Breaks R strict plan s := by
  induction plan using level_induction generalizing s with
  | step plan ih =>
    obtain ⟨accepts, why⟩ := breaks
    refine ⟨accepts.mono grows, why.imp_right fun stumbles => ?_⟩
    obtain ⟨p, level, among, link, member, subject, along, breaks⟩ := stumblesAny_iff_nested.1 stumbles
    have broken := ih p level among breaks
    exact stumblesAny_iff_nested.2 ⟨p, level, among, link, grows member, subject, along, broken⟩

end QuadPull.Pull
