/-!
# Powers

Powers of the two bases that numbers are written in.
-/

namespace DocStore

/-- A power of two. -/
def twoTo (n : Nat) : Nat := Nat.pow 2 n

/-- A power of ten. -/
def tenTo (n : Nat) : Nat := Nat.pow 10 n

/-- One more factor of two. -/
theorem twoTo_succ (n : Nat) : twoTo (n + 1) = twoTo n * 2 := rfl

/-- Powers of two multiply by adding their exponents. -/
theorem twoTo_add (n m : Nat) : twoTo (n + m) = twoTo n * twoTo m :=
  Nat.pow_add 2 n m

/-- No power of two is zero. -/
theorem twoTo_pos (n : Nat) : 0 < twoTo n := by
  induction n with
  | zero => decide
  | succ n ih => rw [twoTo_succ]; omega

end DocStore
