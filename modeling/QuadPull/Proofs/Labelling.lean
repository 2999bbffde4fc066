import QuadPull.Proofs.Naming
import QuadPull.Term.Factory

namespace QuadPull.Factory

/-- No label is asked for, or an empty one. -/
def isNumbered (label : Option String) : Bool := label.getD "" = ""

def blankNodes (f : Factory) : List (Option String) → List Term × Factory
  | [] => ([], f)
  | label :: rest =>
    let (node, f) := f.blankNode label
    let (nodes, f) := f.blankNodes rest
    (node :: nodes, f)

def labelOf (f : Factory) (n : Nat) : String := f.stem ++ toString n

variable {f : Factory} {label : Option String}

theorem labelOf_ne_empty (n : Nat) : f.labelOf n ≠ "" := by
  intro none
  have letters := congrArg String.toList none
  rw [labelOf, String.toList_append, Nat.toString_eq_ofList_toDigits, String.toList_ofList] at letters
  exact absurd (List.append_eq_nil_iff.1 letters).2 (List.ne_nil_of_length_pos Nat.length_toDigits_pos)

theorem blankNode_of_numbered (numbered : isNumbered label = true) :
    f.blankNode label = (.blank (f.labelOf f.next), { f with next := f.next + 1 }) := by
  cases label with
  | none => rfl
  | some text =>
    obtain rfl : text = "" := by simpa [isNumbered] using numbered
    rfl

theorem blankNode_of_given (given : isNumbered label = false) :
    ∃ text, label = some text ∧ f.blankNode label = (.blank text, f) := by
  cases label with
  | none => cases given
  | some text =>
    have other : text ≠ "" := by simpa [isNumbered] using given
    exact ⟨text, rfl, by rw [blankNode, if_pos other]⟩

theorem blankNodes_factory (f : Factory) (labels : List (Option String)) :
    (f.blankNodes labels).2 = { f with next := f.next + labels.countP isNumbered } := by
  induction labels generalizing f with
  | nil => rfl
  | cons label rest ih =>
    simp only [blankNodes, ih]
    cases numbered : isNumbered label with
    | true => simp [blankNode_of_numbered numbered, numbered, Nat.add_assoc, Nat.add_comm 1]
    | false =>
      obtain ⟨text, -, asked⟩ := blankNode_of_given (f := f) numbered
      simp [asked, numbered]

theorem length_blankNodes (f : Factory) (labels : List (Option String)) :
    (f.blankNodes labels).1.length = labels.length := by
  induction labels generalizing f with
  | nil => rfl
  | cons label rest ih => exact congrArg (· + 1) (ih _)

theorem blankNode_eq_iff {n : Nat} (ahead : (f.blankNode label).2.next ≤ n) :
    (f.blankNode label).1 = .blank (f.labelOf n) ↔ label = some (f.labelOf n) := by
  cases numbered : isNumbered label with
  | true =>
    rw [blankNode_of_numbered numbered] at ahead ⊢
    have other : f.labelOf f.next ≠ f.labelOf n := fun same => by
      have numbers := Skolem.name_inj same
      simp only at ahead
      omega
    have unlabelled : label ≠ some (f.labelOf n) := by
      rintro rfl
      exact labelOf_ne_empty n (by simpa [isNumbered] using numbered)
    simp [other, unlabelled]
  | false =>
    obtain ⟨text, rfl, asked⟩ := blankNode_of_given (f := f) numbered
    simp [asked]

theorem blankNodes_eq_iff {labels : List (Option String)} {n : Nat}
    (ahead : (f.blankNodes labels).2.next ≤ n) {call : Option String × Term}
    (member : call ∈ labels.zip (f.blankNodes labels).1) :
    call.2 = .blank (f.labelOf n) ↔ call.1 = some (f.labelOf n) := by
  induction labels generalizing f with
  | nil => cases member
  | cons label rest ih =>
    have stem : (f.blankNode label).2.labelOf n = f.labelOf n := by
      have kept := blankNodes_factory f [label]
      simp only [blankNodes] at kept
      rw [labelOf, kept, labelOf]
    have passed : (f.blankNode label).2.next ≤ n := by
      have later := blankNodes_factory (f.blankNode label).2 rest
      simp only [blankNodes, later] at ahead
      omega
    rcases List.mem_cons.1 member with rfl | member
    · exact blankNode_eq_iff passed
    · have others := ih (f := (f.blankNode label).2) ahead member
      rwa [stem] at others

/-- A node without a label is none of those that a factory gave before, except where its own label, the stem
with the count of the calls without a label before it, was asked for. -/
theorem blankNode_fresh_iff (stem : String) (labels : List (Option String)) (last : Option String)
    (numbered : isNumbered last = true) :
    ∃ nodes f label, ({ stem } : Factory).blankNodes labels = (nodes, f) ∧ nodes.length = labels.length ∧
      label = stem ++ toString (labels.countP isNumbered) ∧ (f.blankNode last).1 = .blank label ∧
      ∀ call ∈ labels.zip nodes, call.2 = (f.blankNode last).1 ↔ call.1 = some label := by
  have reached := blankNodes_factory { stem } labels
  have next : (({ stem } : Factory).blankNodes labels).2.next = labels.countP isNumbered := by
    rw [reached, Nat.zero_add]
  have given : ((({ stem } : Factory).blankNodes labels).2.blankNode last).1 =
      .blank (labelOf { stem } (labels.countP isNumbered)) := by
    rw [blankNode_of_numbered numbered, next, reached]
    rfl
  refine ⟨_, _, _, rfl, length_blankNodes _ _, rfl, given, fun call member => ?_⟩
  rw [given]
  exact blankNodes_eq_iff (Nat.le_of_eq next) member

theorem taken_label_comes_again : ∃ nodes f,
    ({ stem := "n" } : Factory).blankNodes [none, some "n1", some "x"] = (nodes, f) ∧
    nodes = [.blank "n0", .blank "n1", .blank "x"] ∧ (f.blankNode (some "")).1 = .blank "n1" ∧
    ∀ call ∈ [none, some "n1", some "x"].zip nodes, call.2 = .blank "n1" ↔ call.1 = some "n1" := by
  obtain ⟨nodes, f, label, made, -, named, given, fresh⟩ :=
    blankNode_fresh_iff "n" [none, some "n1", some "x"] (some "") (by decide)
  obtain rfl : label = "n1" := named
  rw [given] at fresh
  refine ⟨nodes, f, made, ?_, given, fresh⟩
  have all : (({ stem := "n" } : Factory).blankNodes [none, some "n1", some "x"]).1 = nodes := by rw [made]
  exact all.symm

theorem node_given_before : ∃ nodes f, ({} : Factory).blankNodes [some "bnode_0"] = (nodes, f) ∧
    (f.blankNode none).1 ∈ nodes := ⟨_, _, rfl, by decide⟩

end QuadPull.Factory
