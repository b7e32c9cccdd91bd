/-!
# Bounded maps

A bounded map keeps its entries in the order of their last use, least recent
first. It holds at most as many as its capacity and forgets an entry once it has
reached the maximal age, counted from the moment it was put; being read does not
make an entry younger. Old entries are dropped when something is put and when
one of them is asked for. Time is a number of nanoseconds.
-/

namespace CachedDirectory

/-- An entry of a bounded map. -/
structure BoundedEntry (κ ν : Type) where
  key : κ
  value : ν
  created : Nat
deriving DecidableEq, Repr

namespace BoundedEntry

variable {κ ν : Type}

/-- Whether an entry has reached an age. -/
def isExpired (entry : BoundedEntry κ ν) (maxAge now : Nat) : Bool :=
  maxAge ≤ now - entry.created

end BoundedEntry

/-- A map bounded by the number and the age of its entries. -/
structure BoundedMap (κ ν : Type) where
  capacity : Nat
  maxAge : Nat
  /-- The entries, least recently used first. -/
  entries : List (BoundedEntry κ ν) := []
deriving DecidableEq, Repr

namespace BoundedMap

variable {κ ν : Type} [DecidableEq κ]

/-- The keys, least recently used first. -/
def keys (map : BoundedMap κ ν) : List κ :=
  map.entries.map (·.key)

/-- The number of entries, expired ones included. -/
def size (map : BoundedMap κ ν) : Nat :=
  map.entries.length

/-- The entry under a key. -/
def find? (map : BoundedMap κ ν) (key : κ) : Option (BoundedEntry κ ν) :=
  map.entries.find? fun entry => entry.key = key

/-- The entries of the other keys. -/
def others (key : κ) (entries : List (BoundedEntry κ ν)) :
    List (BoundedEntry κ ν) :=
  entries.filter fun entry => entry.key ≠ key

/-- The entries that are left when there must be room for one more: the least
recent go. -/
def makeRoom (capacity : Nat) (entries : List (BoundedEntry κ ν)) :
    List (BoundedEntry κ ν) :=
  entries.drop (entries.length + 1 - capacity)

/-- The map after a value was put under a key. A map without capacity stays
empty. -/
def put (map : BoundedMap κ ν) (now : Nat) (key : κ) (value : ν) :
    BoundedMap κ ν :=
  if map.capacity = 0 then
    map
  else
    let live := map.entries.filter fun entry => !entry.isExpired map.maxAge now
    let kept :=
      if live.any fun entry => entry.key = key then others key live
      else makeRoom map.capacity live
    { map with entries := kept ++ [⟨key, value, now⟩] }

/-- The value under a key, and the map after the reading: a live entry becomes
the most recent one, an expired one is dropped. -/
def get (map : BoundedMap κ ν) (now : Nat) (key : κ) :
    Option ν × BoundedMap κ ν :=
  match map.find? key with
  | none => (none, map)
  | some entry =>
      if entry.isExpired map.maxAge now then
        (none, { map with entries := others key map.entries })
      else
        (some entry.value,
          { map with entries := others key map.entries ++ [entry] })

/-- The map without a key. -/
def erase (map : BoundedMap κ ν) (key : κ) : BoundedMap κ ν :=
  { map with entries := others key map.entries }

/-- The value that is removed with a key, expired or not, and the map without
it. -/
def remove (map : BoundedMap κ ν) (key : κ) : Option ν × BoundedMap κ ν :=
  ((map.find? key).map (·.value), map.erase key)

/-- The map with those keys only that are to be kept. -/
def retain (map : BoundedMap κ ν) (keep : κ → Bool) : BoundedMap κ ν :=
  { map with entries := map.entries.filter fun entry => keep entry.key }

/-- The map without entries. -/
def clear (map : BoundedMap κ ν) : BoundedMap κ ν :=
  { map with entries := [] }

end BoundedMap

end CachedDirectory
