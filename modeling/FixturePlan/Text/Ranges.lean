/-!
# Sets of code points

The character classes of Unicode are long but regular, so each is written down as a short list of
intervals, or of runs that take every second code point where upper and lower case alternate.
-/

namespace FixturePlan.Text

/-- Whether a character lies in one of the closed intervals `(first, last)`. -/
def inRanges (ranges : List (Nat × Nat)) (c : Char) : Bool :=
  ranges.any fun (first, last) => first ≤ c.toNat && c.toNat ≤ last

/-- Whether a character lies on one of the runs `(first, last, step)`, which hold `first`,
`first + step`, … up to `last`. -/
def onRuns (runs : List (Nat × Nat × Nat)) (c : Char) : Bool :=
  runs.any fun (first, last, step) =>
    first ≤ c.toNat && c.toNat ≤ last && (c.toNat - first) % step == 0

/-- Send a character through the runs `(first, last, step, image)`: the `k`-th code point after
`first` goes to the `k`-th after `image`. A character on no run stays as it is. -/
def mapRuns (runs : List (Nat × Nat × Nat × Nat)) (c : Char) : Char :=
  match runs.find? fun (first, last, step, _) =>
      first ≤ c.toNat && c.toNat ≤ last && (c.toNat - first) % step == 0 with
  | some (first, _, _, image) => Char.ofNat (image + (c.toNat - first))
  | none => c

def isAscii (c : Char) : Bool := c.toNat < 128

end FixturePlan.Text
