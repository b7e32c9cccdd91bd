import CachedDirectory.Json
import CachedDirectory.Memo.Resolution
import CachedDirectory.Number.Rounding

/-!
# Counts of a memo as JSON

The counts of a memo are an object. The share of questions that were answered
from it is written with six digits after the point.
-/

namespace CachedDirectory

open Json

namespace ResolutionMemo

variable {κ ν : Type} [DecidableEq κ]

/-- The share of the questions that were answered from a memo; zero before the
first question. -/
def hitRate (memo : ResolutionMemo κ ν) : Rat :=
  if memo.total = 0 then 0 else (memo.hits : Rat) / memo.total

/-- The counts of a memo as JSON. -/
def statsJson (memo : ResolutionMemo κ ν) : Json :=
  object
    [
      ("hits", ofNat memo.hits), ("misses", ofNat memo.misses),
        ("stale", ofNat memo.stale),
      ("entry_count", ofNat memo.size),
      ("hit_rate", string (Number.fixedPoint 6 memo.hitRate))
    ]

end ResolutionMemo

end CachedDirectory
