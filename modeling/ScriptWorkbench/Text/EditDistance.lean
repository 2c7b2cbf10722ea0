/-!
# Edit distance

The least number of single-character insertions, deletions and substitutions
that turn one text into another. The table of distances is filled one row at a
time: a row holds the distances from one prefix of the first text to every
prefix of the second.
-/

namespace ScriptWorkbench.Text

/-- The entries of the next row from `last` on. The row before it begins with
the entry that stands above `last`, and has one entry more than `target` has
characters. -/
def nextDistances (character : Char) :
    (last : Nat) → (target : List Char) → (row : List Nat) → List Nat
  | last, [], _ => [last]
  | last, goal :: target, row =>
    let substituted := row.headD 0
    let entry :=
      if character = goal then substituted
      else 1 + min substituted (min (row.tail.headD 0) last)
    last :: nextDistances character entry target row.tail

/-- The distances from `source` to each prefix of `target`, shortest first. From
nothing, every character of the prefix has to be inserted. -/
def distanceRow (source target : List Char) : List Nat :=
  source.zipIdx.foldl
    (fun row pair => nextDistances pair.1 (pair.2 + 1) target row)
    (List.range (target.length + 1))

/-- A row has an entry for each prefix of the shorter text. -/
def editDistance (left right : List Char) : Nat :=
  if left.length < right.length then (distanceRow right left).getLastD 0
  else (distanceRow left right).getLastD 0

example : editDistance "kitten".toList "sitting".toList = 3 := by decide

end ScriptWorkbench.Text
