namespace QuadPull.Text

/-- Whether a number lies in a class. The bounds of a class, in order, are the first number of each
run and the first one after it, so a number is in a run when an odd number of bounds lies at or below
it. -/
def isWithin (bounds : List Nat) (n : Nat) : Bool :=
  (bounds.takeWhile (· ≤ n)).length % 2 == 1

end QuadPull.Text
