/-!
# Top-level segments

A tag is a list of segments separated by commas. A comma inside parentheses belongs to its segment,
so that a default such as `point(0,0)` needs no quoting. Parentheses need not balance: a closing one
without a partner is plain text, and one that is never closed keeps the rest of the tag together.

The scan is written over any alphabet that has commas and parentheses, because the same text is a
list of characters and a list of bytes.

* `cut` — splits at the first comma outside parentheses.
* `segments` — all segments, cut one after the other.
-/

namespace TableSchema.Tag

/-- What a letter of the alphabet means to the scan. -/
inductive Delimiter where
  | opening
  | closing
  | comma
  | plain
deriving DecidableEq, Repr

/-- The depth after a delimiter; it never falls below zero. -/
def Delimiter.depthAfter (depth : Nat) : Delimiter → Nat
  | opening => depth + 1
  | closing => depth - 1
  | comma | plain => depth

/-- The meaning of a character. -/
def Delimiter.ofChar (c : Char) : Delimiter :=
  if c = '(' then opening
  else if c = ')' then closing
  else if c = ',' then comma
  else plain

/-- The meaning of a byte of UTF-8. -/
def Delimiter.ofByte (b : UInt8) : Delimiter :=
  if b = 0x28 then opening
  else if b = 0x29 then closing
  else if b = 0x2C then comma
  else plain

variable {α : Type}

/-- The letters in front of the first comma outside parentheses, and those behind it if there is
such a comma. The scan starts `depth` parentheses deep. -/
def cut (mark : α → Delimiter) (depth : Nat) : List α → List α × Option (List α)
  | [] => ([], none)
  | a :: rest =>
    if mark a = .comma ∧ depth = 0 then ([], some rest)
    else
      let (piece, tail) := cut mark ((mark a).depthAfter depth) rest
      (a :: piece, tail)

/-- What is behind a comma is shorter than the text with the comma. -/
theorem length_lt_of_cut {mark : α → Delimiter} {depth : Nat} {s piece tail : List α}
    (h : cut mark depth s = (piece, some tail)) : tail.length < s.length := by
  induction s generalizing depth piece with
  | nil => simp [cut] at h
  | cons a rest ih =>
    rw [cut] at h
    split at h
    · simp only [Prod.mk.injEq, Option.some.injEq] at h
      simp [← h.2]
    · simp only [Prod.mk.injEq] at h
      exact Nat.lt_succ_of_lt (ih (Prod.ext rfl h.2))

/-- All segments of a text: at least one, and one more than there are separating commas. -/
def segments (mark : α → Delimiter) (s : List α) : List (List α) :=
  match _h : cut mark 0 s with
  | (piece, none) => [piece]
  | (piece, some tail) => piece :: segments mark tail
termination_by s.length
decreasing_by exact length_lt_of_cut _h

end TableSchema.Tag
