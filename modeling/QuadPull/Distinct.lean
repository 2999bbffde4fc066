/-!
Lists without repetition, in the order of first occurrence. Elements are told apart by a key: of several
that share it, the first stays.
-/

namespace QuadPull.Distinct

variable {α κ : Type} [DecidableEq κ] (key : α → κ)

def holds (xs : List α) (a : α) : Bool :=
  let k := key a
  xs.any fun x => key x = k

def push (xs : List α) (a : α) : List α := if holds key xs a then xs else xs ++ [a]

def pushAll (xs ys : List α) : List α := ys.foldl (push key) xs

def ofList (ys : List α) : List α := pushAll key [] ys

def union (xss : List (List α)) : List α := xss.foldl (pushAll key) []

def without (xs ys : List α) : List α := xs.filter fun x => !holds key ys x

def Each (xs : List α) : Prop := (xs.map key).Nodup

variable {key} {xs ys : List α} {a b : α}

theorem holds_iff : holds key xs a = true ↔ ∃ x ∈ xs, key x = key a := by simp [holds]

theorem holds_iff_mem : holds key xs a = true ↔ key a ∈ xs.map key := by
  simp [holds_iff, List.mem_map]

theorem holds_of_mem (h : a ∈ xs) : holds key xs a = true := holds_iff.2 ⟨a, h, rfl⟩

theorem map_push : (push key xs a).map key = if key a ∈ xs.map key then xs.map key
    else xs.map key ++ [key a] := by
  unfold push
  by_cases h : key a ∈ xs.map key
  · rw [if_pos (holds_iff_mem.2 h), if_pos h]
  · rw [if_neg (fun held => h (holds_iff_mem.1 held)), if_neg h, List.map_append]
    rfl

theorem holds_push : holds key (push key xs a) b = true ↔
    holds key xs b = true ∨ key a = key b := by
  rw [holds_iff_mem, holds_iff_mem, map_push]
  split
  · rename_i h
    exact ⟨Or.inl, fun hb => hb.elim id (· ▸ h)⟩
  · simp [eq_comm]

theorem each_push (h : Each key xs) : Each key (push key xs a) := by
  unfold Each
  rw [map_push]
  split
  · exact h
  · rename_i ha
    rw [List.nodup_append]
    exact ⟨h, by simp, fun x hx y hy => by simp at hy; rintro rfl; exact ha (hy ▸ hx)⟩

theorem holds_pushAll : holds key (pushAll key xs ys) b = true ↔
    holds key xs b = true ∨ holds key ys b = true := by
  unfold pushAll
  induction ys generalizing xs with
  | nil => simp [holds]
  | cons y ys ih => rw [List.foldl_cons, ih, holds_push, or_assoc]; simp [holds]

theorem each_pushAll (h : Each key xs) : Each key (pushAll key xs ys) := by
  unfold pushAll
  induction ys generalizing xs with
  | nil => exact h
  | cons y ys ih => exact ih (each_push h)

theorem mem_of_mem_push (h : b ∈ push key xs a) : b ∈ xs ∨ b = a := by
  unfold push at h
  split at h
  · exact Or.inl h
  · simpa using h

theorem mem_of_mem_pushAll (h : b ∈ pushAll key xs ys) : b ∈ xs ∨ b ∈ ys := by
  unfold pushAll at h
  induction ys generalizing xs with
  | nil => exact Or.inl h
  | cons y ys ih =>
    rcases ih h with h | h
    · rcases mem_of_mem_push h with h | h
      · exact Or.inl h
      · exact Or.inr (h ▸ List.mem_cons_self)
    · exact Or.inr (List.mem_cons_of_mem _ h)

omit [DecidableEq κ] in
theorem each_nil : Each key [] := List.nodup_nil

theorem holds_ofList : holds key (ofList key ys) b = true ↔ holds key ys b = true := by
  rw [ofList, holds_pushAll]
  simp [holds]

theorem each_ofList : Each key (ofList key ys) := each_pushAll each_nil

theorem mem_of_mem_ofList (h : b ∈ ofList key ys) : b ∈ ys := by
  simpa using mem_of_mem_pushAll h

theorem holds_union {xss : List (List α)} :
    holds key (union key xss) b = true ↔ ∃ xs ∈ xss, holds key xs b = true := by
  have step : ∀ acc : List α, holds key (xss.foldl (pushAll key) acc) b = true ↔
      holds key acc b = true ∨ ∃ xs ∈ xss, holds key xs b = true := by
    induction xss with
    | nil => simp
    | cons xs xss ih => intro acc; rw [List.foldl_cons, ih, holds_pushAll]; simp [or_assoc]
  rw [union, step]
  simp [holds]

theorem holds_without : holds key (without key xs ys) b = true ↔
    holds key xs b = true ∧ holds key ys b = false := by
  have shared : ∀ x : α, key x = key b → holds key ys x = holds key ys b := by
    intro x h
    simp [holds, h]
  rw [holds_iff, holds_iff]
  simp only [without, List.mem_filter]
  constructor
  · rintro ⟨x, ⟨hx, free⟩, h⟩
    exact ⟨⟨x, hx, h⟩, by simpa [shared x h] using free⟩
  · rintro ⟨⟨x, hx, h⟩, free⟩
    exact ⟨x, ⟨hx, by simp [shared x h, free]⟩, h⟩

theorem each_without (h : Each key xs) : Each key (without key xs ys) :=
  h.sublist (List.filter_sublist.map key)

theorem mem_of_mem_union {xss : List (List α)} (h : b ∈ union key xss) : ∃ xs ∈ xss, b ∈ xs := by
  have step : ∀ (xss : List (List α)) (acc : List α),
      b ∈ xss.foldl (pushAll key) acc → b ∈ acc ∨ ∃ xs ∈ xss, b ∈ xs := by
    intro xss
    induction xss with
    | nil => intro acc held; exact Or.inl held
    | cons xs xss ih =>
      intro acc held
      rcases ih _ held with held | ⟨ys, member, held⟩
      · rcases mem_of_mem_pushAll held with held | held
        · exact Or.inl held
        · exact Or.inr ⟨xs, List.mem_cons_self, held⟩
      · exact Or.inr ⟨ys, List.mem_cons_of_mem _ member, held⟩
  simpa using step xss [] h

section

theorem mem_iff_holds (apart : ∀ x ∈ xs, key x = key a → x = a) :
    a ∈ xs ↔ holds key xs a = true := by
  constructor
  · exact holds_of_mem
  · intro held
    obtain ⟨x, member, same⟩ := holds_iff.1 held
    exact apart x member same ▸ member

theorem mem_ofList (apart : ∀ x ∈ ys, key x = key a → x = a) : a ∈ ofList key ys ↔ a ∈ ys := by
  rw [mem_iff_holds fun x member => apart x (mem_of_mem_ofList member), holds_ofList,
    mem_iff_holds apart]

theorem mem_pushAll (old : ∀ x ∈ xs, key x = key a → x = a) (new : ∀ y ∈ ys, key y = key a → y = a) :
    a ∈ pushAll key xs ys ↔ a ∈ xs ∨ a ∈ ys := by
  have apart : ∀ x ∈ pushAll key xs ys, key x = key a → x = a := by
    intro x member
    rcases mem_of_mem_pushAll member with member | member
    · exact old x member
    · exact new x member
  rw [mem_iff_holds apart, holds_pushAll, mem_iff_holds old, mem_iff_holds new]

theorem mem_union {xss : List (List α)} (apart : ∀ xs ∈ xss, ∀ x ∈ xs, key x = key a → x = a) :
    a ∈ union key xss ↔ ∃ xs ∈ xss, a ∈ xs := by
  have all : ∀ x ∈ union key xss, key x = key a → x = a := by
    intro x member
    obtain ⟨xs, list, member⟩ := mem_of_mem_union member
    exact apart xs list x member
  rw [mem_iff_holds all, holds_union]
  constructor
  · rintro ⟨xs, list, held⟩
    exact ⟨xs, list, (mem_iff_holds (apart xs list)).2 held⟩
  · rintro ⟨xs, list, member⟩
    exact ⟨xs, list, holds_of_mem member⟩

end

end QuadPull.Distinct
