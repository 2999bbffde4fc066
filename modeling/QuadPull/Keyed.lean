/-!
Entries under keys, in the order in which the keys came. Keys are told apart by a form that equal keys
share. What is kept under a key anew takes the place of what was there.
-/

namespace QuadPull.Keyed

variable {α β κ : Type} [DecidableEq κ] (key : α → κ)

def get? (entries : List (α × β)) (a : α) : Option β :=
  let k := key a
  (entries.find? fun e => key e.1 = k).map (·.2)

def put (entries : List (α × β)) (a : α) (b : β) : List (α × β) :=
  if (get? key entries a).isSome then
    entries.map fun e => if key e.1 = key a then (e.1, b) else e
  else entries ++ [(a, b)]

variable {key} {entries : List (α × β)} {a : α} {b : β}

theorem get?_eq_none_iff : get? key entries a = none ↔ ∀ e ∈ entries, key e.1 ≠ key a := by
  simp [get?]

theorem get?_congr {c : α} (same : key a = key c) : get? key entries a = get? key entries c := by
  rw [get?, get?, same]

theorem put_of_get?_eq_none (h : get? key entries a = none) :
    put key entries a b = entries ++ [(a, b)] := by
  simp [put, h]

theorem mem_put {e : α × β} (member : e ∈ put key entries a b) : e.2 = b ∨ e ∈ entries := by
  unfold put at member
  split at member
  · obtain ⟨old, among, same⟩ := List.mem_map.1 member
    split at same
    · exact .inl (same ▸ rfl)
    · exact .inr (same ▸ among)
  · rcases List.mem_append.1 member with old | new
    · exact .inr old
    · exact .inl (List.mem_singleton.1 new ▸ rfl)

theorem mem_of_get?_eq_some (h : get? key entries a = some b) :
    ∃ c, (c, b) ∈ entries ∧ key c = key a := by
  obtain ⟨⟨c, d⟩, found, rfl⟩ := Option.map_eq_some_iff.1 h
  exact ⟨c, List.mem_of_find?_eq_some found, by simpa using List.find?_some found⟩

theorem get?_of_mem (each : (entries.map fun e => key e.1).Nodup) (h : (a, b) ∈ entries) :
    get? key entries a = some b := by
  induction entries with
  | nil => cases h
  | cons e rest ih =>
    rw [List.map_cons, List.nodup_cons] at each
    rcases List.mem_cons.1 h with rfl | inRest
    · simp [get?]
    · have other : key e.1 ≠ key a := fun same =>
        each.1 (List.mem_map.2 ⟨(a, b), inRest, same.symm⟩)
      have found := ih each.2 inRest
      simpa [get?, List.find?_cons, other] using found

end QuadPull.Keyed
