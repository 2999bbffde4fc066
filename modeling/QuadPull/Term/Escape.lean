/-!
Escapes in the written form of a literal (`_escape`): backslash, double quote, line feed, carriage return
and tab are written as two characters. The text is gone over once for each of them, and what comes out is
each character on its own as it is written (`toList_escape`).
-/

namespace QuadPull.Term

/-- The characters that are replaced, in this order, each with the one behind its backslash. Backslashes
come first: the others bring more of them. -/
def escapes : List (Char × Char) :=
  [('\x5c', '\x5c'), ('\x22', '\x22'), ('\n', 'n'), ('\r', 'r'), ('\t', 't')]

def replaceAll (cs : List Char) (e : Char × Char) : List Char :=
  cs.flatMap fun c => if c = e.1 then ['\x5c', e.2] else [c]

def replaceInTurn (table : List (Char × Char)) (cs : List Char) : List Char := table.foldl replaceAll cs

def escape (s : String) : String := String.ofList (replaceInTurn escapes s.toList)

def escapeChar : Char → List Char
  | '\x5c' => ['\x5c', '\x5c']
  | '\x22' => ['\x5c', '\x22']
  | '\n' => ['\x5c', 'n']
  | '\r' => ['\x5c', 'r']
  | '\t' => ['\x5c', 't']
  | c => [c]

def escapeChars (cs : List Char) : List Char := cs.flatMap escapeChar

section

variable {table : List (Char × Char)} {e : Char × Char} {cs : List Char}

def replacement (table : List (Char × Char)) (c : Char) : List Char :=
  (table.lookup c).elim [c] fun letter => ['\x5c', letter]

/-- No replacement finds what an earlier one has written. -/
def Untouched (table : List (Char × Char)) : Prop :=
  table.Pairwise fun e later => later.1 ≠ '\x5c' ∧ later.1 ≠ e.2

theorem replaceAll_of_not_mem (absent : e.1 ∉ cs) : replaceAll cs e = cs := by
  induction cs with
  | nil => rfl
  | cons c cs ih =>
    obtain ⟨other, later⟩ := not_or.1 (mt List.mem_cons.2 absent)
    have kept : replaceAll (c :: cs) e = [c] ++ replaceAll cs e := by
      rw [replaceAll, List.flatMap_cons, if_neg (Ne.symm other)]
      rfl
    rw [kept, ih later, List.singleton_append]

theorem replaceInTurn_append (table : List (Char × Char)) (xs ys : List Char) :
    replaceInTurn table (xs ++ ys) = replaceInTurn table xs ++ replaceInTurn table ys := by
  induction table generalizing xs ys with
  | nil => rfl
  | cons e table ih =>
    have step : replaceAll (xs ++ ys) e = replaceAll xs e ++ replaceAll ys e := List.flatMap_append
    rw [replaceInTurn, List.foldl_cons, step]
    exact ih (replaceAll xs e) (replaceAll ys e)

theorem replaceInTurn_of_not_mem (absent : ∀ e ∈ table, e.1 ∉ cs) : replaceInTurn table cs = cs := by
  induction table with
  | nil => rfl
  | cons e table ih =>
    obtain ⟨first, others⟩ := List.forall_mem_cons.1 absent
    rw [replaceInTurn, List.foldl_cons, replaceAll_of_not_mem first]
    exact ih others

theorem replaceInTurn_single (untouched : Untouched table) (c : Char) :
    replaceInTurn table [c] = replacement table c := by
  induction table with
  | nil => rfl
  | cons e table ih =>
    obtain ⟨after, rest⟩ := List.pairwise_cons.1 untouched
    rw [replaceInTurn, List.foldl_cons, ← replaceInTurn]
    by_cases turn : c = e.1
    · have replaced : replaceAll [c] e = ['\x5c', e.2] := by simp [replaceAll, turn]
      have absent : ∀ later ∈ table, later.1 ∉ ['\x5c', e.2] := by
        intro later member
        simp [after later member]
      have found : (e :: table).lookup c = some e.2 := by rw [turn, List.lookup_cons_self]
      rw [replaced, replaceInTurn_of_not_mem absent, replacement, found]
      rfl
    · have kept : replaceAll [c] e = [c] := replaceAll_of_not_mem (by simpa using Ne.symm turn)
      have passed : (e :: table).lookup c = table.lookup c := by
        rw [List.lookup_cons, beq_false_of_ne turn]
      rw [kept, ih rest, replacement, replacement, passed]

theorem replaceInTurn_eq_flatMap (untouched : Untouched table) (cs : List Char) :
    replaceInTurn table cs = cs.flatMap (replacement table) := by
  induction cs with
  | nil => exact replaceInTurn_of_not_mem fun _ _ => List.not_mem_nil
  | cons c cs ih =>
    rw [← List.singleton_append, replaceInTurn_append, replaceInTurn_single untouched, ih,
      List.flatMap_append, List.flatMap_singleton]

theorem untouched_escapes : Untouched escapes := by simp [Untouched, escapes]

theorem escapeChar_eq (c : Char) : escapeChar c = replacement escapes c := by
  unfold escapeChar
  split
  · rfl
  · rfl
  · rfl
  · rfl
  · rfl
  · rename_i slash quote feed carriage tab
    have missing : escapes.lookup c = none := by
      simpa [List.lookup_eq_none_iff, escapes] using ⟨slash, quote, feed, carriage, tab⟩
    rw [replacement, missing]
    rfl

theorem escapeChar_cases (c : Char) :
    (∃ letter, (c, letter) ∈ escapes ∧ escapeChar c = ['\x5c', letter]) ∨
      (∀ e ∈ escapes, c ≠ e.1) ∧ escapeChar c = [c] := by
  rw [escapeChar_eq, replacement]
  cases found : escapes.lookup c with
  | none => exact .inr ⟨by simpa [List.lookup_eq_none_iff] using found, rfl⟩
  | some letter =>
    obtain ⟨front, back, split, -⟩ := List.lookup_eq_some_iff.1 found
    exact .inl ⟨letter, split ▸ List.mem_append_right front List.mem_cons_self, rfl⟩

theorem toList_escape (s : String) : (escape s).toList = escapeChars s.toList := by
  rw [escape, String.toList_ofList, replaceInTurn_eq_flatMap untouched_escapes, escapeChars,
    funext escapeChar_eq]

end

end QuadPull.Term
