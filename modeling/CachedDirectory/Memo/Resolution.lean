import CachedDirectory.Memo.BoundedMap

/-!
# Memo of resolved memberships

A memo keeps derived answers together with the generation of the store for which
they were found. An answer of another generation is stale: it is dropped when it
is asked for, and counts as a miss.
-/

namespace CachedDirectory

/-- A memo, with counts of how its questions were answered. The counts are
numbers of 64 bits, and fewer than `2 ^ 64` questions are taken for granted. -/
structure ResolutionMemo (κ ν : Type) where
  answers : BoundedMap κ (Nat × ν)
  hits : Nat := 0
  misses : Nat := 0
  /-- Misses because of an answer of another generation. -/
  stale : Nat := 0
deriving DecidableEq, Repr

namespace ResolutionMemo

variable {κ ν : Type} [DecidableEq κ]

/-- A memo of a capacity and a maximal age, with nothing in it. -/
def empty (capacity maxAge : Nat) : ResolutionMemo κ ν :=
  ⟨⟨capacity, maxAge, []⟩, 0, 0, 0⟩

/-- The answer for a generation, if it is remembered, and the memo after the
question. -/
def get (memo : ResolutionMemo κ ν) (now : Nat) (key : κ) (generation : Nat) :
    Option ν × ResolutionMemo κ ν :=
  match memo.answers.get now key with
  | (some (found, value), answers) =>
      if found = generation then
        (some value, { memo with answers := answers, hits := memo.hits + 1 })
      else
        (none,
          { memo with
            answers := answers.erase key
            misses := memo.misses + 1
            stale := memo.stale + 1 })
  | (none, answers) =>
      (none, { memo with answers := answers, misses := memo.misses + 1 })

/-- The memo after an answer was found for a generation. -/
def insert (memo : ResolutionMemo κ ν) (now : Nat) (key : κ) (generation : Nat)
    (value : ν) :
    ResolutionMemo κ ν :=
  { memo with answers := memo.answers.put now key (generation, value) }

/-- The memo without answers; the counts stay. -/
def clear (memo : ResolutionMemo κ ν) : ResolutionMemo κ ν :=
  { memo with answers := memo.answers.clear }

/-- The number of remembered answers. -/
def size (memo : ResolutionMemo κ ν) : Nat :=
  memo.answers.size

/-- How many questions were asked. -/
def total (memo : ResolutionMemo κ ν) : Nat :=
  memo.hits + memo.misses

end ResolutionMemo

end CachedDirectory
