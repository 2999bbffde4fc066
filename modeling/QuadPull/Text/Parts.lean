/-!
Texts cut at the characters of a kind. No text is lost: the parts with those characters between them are
the text again.
-/

namespace QuadPull.Text

def parts (c : Char) : List Char → List (List Char)
  | [] => [[]]
  | d :: rest =>
    match parts c rest with
    | [] => [[d]]
    | first :: others => if d == c then [] :: first :: others else (d :: first) :: others

theorem parts_ne_nil (c : Char) (cs : List Char) : parts c cs ≠ [] := by
  cases cs with
  | nil => simp [parts]
  | cons d rest =>
    simp only [parts]
    split
    · simp
    · split <;> simp

theorem intercalate_parts (c : Char) (cs : List Char) : [c].intercalate (parts c cs) = cs := by
  induction cs with
  | nil => rfl
  | cons d rest ih =>
    simp only [parts]
    split
    · rename_i empty
      exact absurd empty (parts_ne_nil c rest)
    · rename_i first others cut
      rw [cut] at ih
      split
      · simp_all [List.intercalate]
      · cases others <;> simp_all [List.intercalate]

end QuadPull.Text
