import Mathlib.Algebra.Ring.Parity
import Mathlib.Data.List.DropRight
import QuadPull.Proofs.Readability
/-!
An odd number of backslashes stands before each quote of an escaped text, so none of them closes it.
-/

namespace QuadPull.Term

variable {c : Char} {cs before after : List Char}

def slashes (cs : List Char) : Nat := (cs.rtakeWhile (· = '\x5c')).length

theorem slashes_append_singleton (cs : List Char) (c : Char) :
    slashes (cs ++ [c]) = if c = '\x5c' then slashes cs + 1 else 0 := by
  rw [slashes, List.rtakeWhile_concat, slashes]
  by_cases slash : c = '\x5c'
  · simp [slash]
  · simp [slash]

theorem even_slashes_append (even : Even (slashes cs)) (c : Char) :
    Even (slashes (cs ++ escapeChar c)) := by
  rcases escapeChar_cases c with ⟨letter, -, written⟩ | ⟨others, written⟩
  · -- Two backslashes are added, or the character behind the backslash starts the count anew.
    have split : cs ++ escapeChar c = cs ++ ['\x5c'] ++ [letter] := by
      rw [written, List.append_assoc, List.singleton_append]
    rw [split, slashes_append_singleton, slashes_append_singleton, if_pos rfl]
    by_cases slash : letter = '\x5c'
    · rw [if_pos slash]
      exact even.add even_two
    · rw [if_neg slash]
      exact Even.zero
  · have slash : c ≠ '\x5c' := others ('\x5c', '\x5c') (by decide)
    rw [written, slashes_append_singleton, if_neg slash]
    exact Even.zero

theorem even_slashes (cs : List Char) : Even (slashes (escapeChars cs)) := by
  induction cs using List.reverseRecOn with
  | nil => exact Even.zero
  | append_singleton cs c ih =>
    rw [escapeChars, List.flatMap_append, List.flatMap_singleton]
    exact even_slashes_append ih c

theorem eq_slash_of_quote (cut : escapeChar c = before ++ '"' :: after) : before = ['\x5c'] := by
  rcases escapeChar_cases c with ⟨letter, -, written⟩ | ⟨others, written⟩
  · rw [written] at cut
    match before, cut with
    | [d], cut => rw [(List.cons.inj cut).1]
    | _ :: _ :: before, cut => simp at cut
  · have quote : c ≠ '"' := others ('"', '"') (by decide)
    rw [written] at cut
    cases before with
    | nil => exact absurd (List.cons.inj cut).1 quote
    | cons d before => simp at cut

theorem exists_of_quote (cut : escapeChars cs = before ++ '"' :: after) :
    ∃ front, before = escapeChars front ++ ['\x5c'] := by
  induction cs generalizing before with
  | nil => simp [escapeChars] at cut
  | cons c cs ih =>
    have step : escapeChars (c :: cs) = escapeChar c ++ escapeChars cs := rfl
    rw [step, List.append_eq_append_iff] at cut
    rcases cut with ⟨onward, rfl, later⟩ | ⟨rest, here, later⟩
    · obtain ⟨front, rfl⟩ := ih later
      exact ⟨c :: front, (List.append_assoc ..).symm⟩
    · cases rest with
      | nil =>
        have first : escapeChars cs = [] ++ '"' :: after := later.symm
        obtain ⟨front, ends⟩ := ih first
        simp at ends
      | cons quote rest =>
        obtain ⟨rfl, -⟩ := List.cons.inj later
        exact ⟨[], eq_slash_of_quote here⟩

theorem odd_slashes (cut : escapeChars cs = before ++ '"' :: after) : Odd (slashes before) := by
  obtain ⟨front, rfl⟩ := exists_of_quote cut
  rw [slashes_append_singleton, if_pos rfl]
  exact (even_slashes front).add_one

theorem not_mem_escapeChars (raw : c ∈ ['\n', '\r', '\t']) (cs : List Char) : c ∉ escapeChars cs := by
  intro member
  obtain ⟨d, -, here⟩ := List.mem_flatMap.1 member
  rcases escapeChar_cases d with ⟨letter, among, written⟩ | ⟨others, written⟩
  · rw [written] at here
    have visible : ∀ e ∈ escapes, e.2 ∉ ['\n', '\r', '\t'] := by simp [escapes]
    rcases List.mem_cons.1 here with rfl | here
    · exact absurd raw (by decide)
    · exact visible _ among (List.mem_singleton.1 here ▸ raw)
  · rw [written, List.mem_singleton] at here
    have listed : ∀ d ∈ ['\n', '\r', '\t'], d ∈ escapes.map Prod.fst := by simp [escapes]
    obtain ⟨e, among, same⟩ := List.mem_map.1 (listed c raw)
    exact others e among (here ▸ same.symm)

def unescapeChars : List Char → List Char
  | [] => []
  | '\x5c' :: c :: rest => unescapeChar c :: unescapeChars rest
  | c :: rest => c :: unescapeChars rest

theorem unescapeChars_escapeChar (c : Char) (rest : List Char) :
    unescapeChars (escapeChar c ++ rest) = c :: unescapeChars rest := by
  rcases escapeChar_cases c with ⟨letter, among, written⟩ | ⟨others, written⟩
  · have step : escapeChar c ++ rest = '\x5c' :: letter :: rest := by rw [written]; rfl
    rw [step, unescapeChars, unescapeChar_of_mem among]
  · have slash : c ≠ '\x5c' := others ('\x5c', '\x5c') (by decide)
    rw [written, List.singleton_append, unescapeChars]
    exact fun _ _ same => absurd same slash

theorem unescapeChars_escapeChars (cs rest : List Char) :
    unescapeChars (escapeChars cs ++ rest) = cs ++ unescapeChars rest := by
  induction cs with
  | nil => rfl
  | cons c cs ih =>
    have step : escapeChars (c :: cs) = escapeChar c ++ escapeChars cs := rfl
    rw [step, List.append_assoc, unescapeChars_escapeChar, ih, List.cons_append]

/-- Five replacements, one after the other, write every character on its own. No line feed, carriage return
or tab is left and no quote that closes the text, which is read back to its end as well as up to a closing
quote with anything behind it. -/
theorem escape_reads_back (s : String) (rest : List Char) :
    (escape s).toList = s.toList.flatMap escapeChar ∧
    (∀ c ∈ ['\n', '\r', '\t'], c ∉ (escape s).toList) ∧
    (∀ before after, (escape s).toList = before ++ '"' :: after → Odd (slashes before)) ∧
    unescapeChars (escape s).toList = s.toList ∧
    readLexical ((escape s).toList ++ '"' :: rest) = some (s.toList, rest) := by
  rw [toList_escape]
  refine ⟨rfl, ?_, ?_, ?_, readLexical_escapeChars s.toList rest⟩
  · intro c raw
    exact not_mem_escapeChars raw s.toList
  · intro before after cut
    exact odd_slashes cut
  · have alone := unescapeChars_escapeChars s.toList []
    rwa [List.append_nil, unescapeChars, List.append_nil] at alone

def stacked : String := "\\\"\n"

theorem stacked_reads_back :
    '\n' ∉ (escape stacked).toList ∧
    (escape stacked).toList = ['\x5c', '\x5c', '\x5c'] ++ '"' :: ['\x5c', 'n'] ∧
    Odd (slashes ['\x5c', '\x5c', '\x5c']) ∧
    readLexical ((escape stacked).toList ++ '"' :: ['@', 'e', 'n']) =
      some (stacked.toList, ['@', 'e', 'n']) := by
  obtain ⟨-, unbroken, odd, -, back⟩ := escape_reads_back stacked ['@', 'e', 'n']
  have cut : (escape stacked).toList = ['\x5c', '\x5c', '\x5c'] ++ '"' :: ['\x5c', 'n'] := by decide
  exact ⟨unbroken '\n' (by decide), cut, odd _ _ cut, back⟩

end QuadPull.Term
