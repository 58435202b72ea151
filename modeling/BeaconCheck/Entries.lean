/-!
# Entries in order of insertion

A finite map whose entries keep the order in which their keys first appeared. Giving
a key a new value leaves the entry in its place.

* `get?_insert_self`, `get?_insert_of_ne` — what insertion does to look-up.
-/

namespace BeaconCheck

/-- Keys with their values, in the order in which the keys first appeared. -/
abbrev Entries (κ ν : Type) := List (κ × ν)

namespace Entries

variable {κ ν : Type} [BEq κ]

/-- The value of a key. -/
def get? : Entries κ ν → κ → Option ν
  | [], _ => none
  | (k, v) :: rest, key => if k == key then some v else get? rest key

/-- Gives a key a value: in place if the key is there, at the end if it is not. -/
def insert : Entries κ ν → κ → ν → Entries κ ν
  | [], key, value => [(key, value)]
  | (k, v) :: rest, key, value =>
    if k == key then (k, value) :: rest else (k, v) :: insert rest key value

/-- The entries of a list of pairs; of several values for one key the last stays. -/
def ofPairs (pairs : List (κ × ν)) : Entries κ ν :=
  pairs.foldl (fun entries p => insert entries p.1 p.2) []

/-- The key has a value. -/
def has (entries : Entries κ ν) (key : κ) : Bool :=
  (get? entries key).isSome

section Lemmas

variable [LawfulBEq κ]

theorem get?_insert_self (entries : Entries κ ν) (key : κ) (value : ν) :
    get? (insert entries key value) key = some value := by
  induction entries with
  | nil => simp [insert, get?]
  | cons p rest ih =>
    obtain ⟨k, v⟩ := p
    by_cases h : k == key
    · simp [insert, h, get?]
    · simp [insert, h, get?, ih]

theorem get?_insert_of_ne (entries : Entries κ ν) {key other : κ} (value : ν)
    (hne : other ≠ key) : get? (insert entries key value) other = get? entries other := by
  induction entries with
  | nil => simp [insert, get?, Ne.symm hne]
  | cons p rest ih =>
    obtain ⟨k, v⟩ := p
    by_cases h : k == key
    · have hk : k = key := by simpa using h
      subst hk
      simp [insert, get?, Ne.symm hne]
    · simp [insert, h, get?, ih]

end Lemmas

end Entries

end BeaconCheck
