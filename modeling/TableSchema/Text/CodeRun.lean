/-!
# Runs of code points

Unicode properties are stored as short tables of runs. A run is an arithmetic progression of code
points: every letter of a block has stride one, the upper-case letters of a block that alternates
the two cases have stride two.
-/

namespace TableSchema.Text

/-- The code points `first`, `first + stride`, … that do not exceed `last`. -/
structure CodeRun where
  first : Nat
  last : Nat
  stride : Nat
deriving DecidableEq, Repr

/-- Whether a code point lies on the run. -/
def CodeRun.contains (r : CodeRun) (n : Nat) : Bool :=
  r.first ≤ n && n ≤ r.last && (n - r.first) % r.stride == 0

end TableSchema.Text
