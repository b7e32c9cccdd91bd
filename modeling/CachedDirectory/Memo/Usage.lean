import CachedDirectory.Memo.Resolution

/-!
# Uses of bounded maps and memos

A bounded map is used by calls, between which time passes, and so is a memo. A
call is answered with a value or with nothing.
-/

namespace CachedDirectory

/-- A call to a bounded map, or that time passes. -/
inductive MapCall (κ ν : Type) where
  | put (key : κ) (value : ν)
  | get (key : κ)
  | remove (key : κ)
  | retain (keep : κ → Bool)
  | clear
  | advance (nanoseconds : Nat)

/-- A bounded map at a time. -/
structure TimedMap (κ ν : Type) where
  map : BoundedMap κ ν
  now : Nat := 0
deriving DecidableEq, Repr

namespace TimedMap

variable {κ ν : Type} [DecidableEq κ]

/-- A map without entries. -/
def empty (capacity maxAge now : Nat) : TimedMap κ ν :=
  ⟨⟨capacity, maxAge, []⟩, now⟩

/-- The answer to a call, and the map after it. -/
def run (state : TimedMap κ ν) : MapCall κ ν → Option ν × TimedMap κ ν
  | .put key value =>
      (none, { state with map := state.map.put state.now key value })
  | .get key =>
      let (found, map) := state.map.get state.now key
      (found, { state with map := map })
  | .remove key =>
      let (found, map) := state.map.remove key
      (found, { state with map := map })
  | .retain keep => (none, { state with map := state.map.retain keep })
  | .clear => (none, { state with map := state.map.clear })
  | .advance nanoseconds =>
      (none, { state with now := state.now + nanoseconds })

/-- The answers to calls, and the map after them. -/
def runAll : List (MapCall κ ν) → TimedMap κ ν → List (Option ν) × TimedMap κ ν
  | [], state => ([], state)
  | call :: rest, state =>
      let (answer, after) := state.run call
      let (answers, final) := runAll rest after
      (answer :: answers, final)

end TimedMap

/-- A call to a memo, or that time passes. -/
inductive MemoCall (κ ν : Type) where
  | insert (key : κ) (generation : Nat) (value : ν)
  | get (key : κ) (generation : Nat)
  | clear
  | advance (nanoseconds : Nat)

/-- A memo at a time. -/
structure TimedMemo (κ ν : Type) where
  memo : ResolutionMemo κ ν
  now : Nat := 0
deriving DecidableEq, Repr

namespace TimedMemo

variable {κ ν : Type} [DecidableEq κ]

/-- A memo without answers. -/
def empty (capacity maxAge now : Nat) : TimedMemo κ ν :=
  ⟨.empty capacity maxAge, now⟩

/-- The answer to a call, and the memo after it. -/
def run (state : TimedMemo κ ν) : MemoCall κ ν → Option ν × TimedMemo κ ν
  | .insert key generation value =>
      (none,
        { state with memo := state.memo.insert state.now key generation value })
  | .get key generation =>
      let (found, memo) := state.memo.get state.now key generation
      (found, { state with memo := memo })
  | .clear => (none, { state with memo := state.memo.clear })
  | .advance nanoseconds =>
      (none, { state with now := state.now + nanoseconds })

/-- The answers to calls, and the memo after them. -/
def runAll :
    List (MemoCall κ ν) → TimedMemo κ ν → List (Option ν) × TimedMemo κ ν
  | [], state => ([], state)
  | call :: rest, state =>
      let (answer, after) := state.run call
      let (answers, final) := runAll rest after
      (answer :: answers, final)

end TimedMemo

end CachedDirectory
