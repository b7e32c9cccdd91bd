/-!
# Registers

A register keeps records under texts as keys, one under each, in the order of
the keys. Parts of it can be listed from any position.
-/

namespace CachedDirectory

/-- Records under keys, in the order of the keys. -/
structure Register (α : Type) where
  entries : List (String × α) := []
deriving DecidableEq, Repr

namespace Register

variable {α : Type}

/-- The register without records. -/
def empty : Register α :=
  ⟨[]⟩

instance : EmptyCollection (Register α) :=
  ⟨empty⟩

/-- Entries in the order of their keys, with a record put in; one under the same
key is replaced. -/
def insertEntry (key : String) (record : α) :
    List (String × α) → List (String × α)
  | [] => [(key, record)]
  | entry :: rest =>
      if entry.1 < key then entry :: insertEntry key record rest
      else if entry.1 = key then (key, record) :: rest
      else (key, record) :: entry :: rest

/-- The register with a record put in; one under the same key is replaced. -/
def insert (register : Register α) (key : String) (record : α) : Register α :=
  ⟨insertEntry key record register.entries⟩

/-- The register without the record under a key. -/
def erase (register : Register α) (key : String) : Register α :=
  ⟨register.entries.filter fun entry => entry.1 != key⟩

/-- The record under a key. -/
def get? (register : Register α) (key : String) : Option α :=
  register.entries.lookup key

/-- The records in the order of their keys. -/
def toList (register : Register α) : List α :=
  register.entries.map (·.2)

/-- How many records there are. -/
def size (register : Register α) : Nat :=
  register.entries.length

/-- The records from a position on, up to a number of them. -/
def page (register : Register α) (start length : Nat) : List α :=
  ((register.entries.drop start).take length).map (·.2)

theorem page_eq_take_drop (register : Register α) (start length : Nat) :
    register.page start length = (register.toList.drop start).take length := by
  simp [page, toList]

end Register

end CachedDirectory
