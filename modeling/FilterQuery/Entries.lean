/-!
# Entries

Values under keys, in the order in which the keys were first used.  A key that is used again keeps
its place and gets the new value.

* `Entries.put`, `Entries.merge` — put values under keys; `List.lookup` finds them.
* `Entries.lookup_put_self`, `Entries.lookup_put_of_ne` — the value that was put last is found, and
  other keys keep their values.
* `Entries.put_of_lookup_eq_none` — a new key comes last.
-/

namespace FilterQuery

/-- Values under keys, in order. -/
abbrev Entries (κ α : Type) := List (κ × α)

namespace Entries

variable {κ α : Type} [BEq κ]

/-- Puts a value under a key; the value that it had before is gone. -/
def put : Entries κ α → κ → α → Entries κ α
  | [], key, value => [(key, value)]
  | (known, old) :: rest, key, value =>
    if known == key then (known, value) :: rest else (known, old) :: put rest key value

/-- Puts all values of the second entries into the first, in order. -/
def merge (entries more : Entries κ α) : Entries κ α :=
  List.foldl (fun known entry => put known entry.1 entry.2) entries more

variable [LawfulBEq κ]

/-- The value that was put last is found. -/
theorem lookup_put_self (entries : Entries κ α) (key : κ) (value : α) :
    List.lookup key (put entries key value) = some value := by
  induction entries with
  | nil => exact List.lookup_cons_self
  | cons entry rest ih =>
    obtain ⟨known, old⟩ := entry
    by_cases h : known = key
    · rw [put, if_pos (beq_iff_eq.mpr h), h]
      exact List.lookup_cons_self
    · have h' : (key == known) = false := beq_false_of_ne fun e => h e.symm
      rw [put, if_neg fun e => h (beq_iff_eq.mp e), List.lookup_cons, h']
      exact ih

/-- Other keys keep their values. -/
theorem lookup_put_of_ne (entries : Entries κ α) {key other : κ} (value : α) (h : other ≠ key) :
    List.lookup other (put entries key value) = List.lookup other entries := by
  have h' : (other == key) = false := beq_false_of_ne h
  induction entries with
  | nil => rw [put, List.lookup_cons, h']
  | cons entry rest ih =>
    obtain ⟨known, old⟩ := entry
    by_cases hk : known = key
    · rw [put, if_pos (beq_iff_eq.mpr hk), List.lookup_cons, List.lookup_cons, hk, h']
    · rw [put, if_neg fun e => hk (beq_iff_eq.mp e), List.lookup_cons, List.lookup_cons, ih]

/-- A value under a new key comes last. -/
theorem put_of_lookup_eq_none (entries : Entries κ α) {key : κ} (value : α)
    (h : List.lookup key entries = none) : put entries key value = entries ++ [(key, value)] := by
  induction entries with
  | nil => rfl
  | cons entry rest ih =>
    obtain ⟨known, old⟩ := entry
    by_cases hk : known = key
    · subst hk
      rw [List.lookup_cons_self] at h
      cases h
    · have h' : (key == known) = false := beq_false_of_ne fun e => hk e.symm
      rw [List.lookup_cons, h'] at h
      rw [put, if_neg fun e => hk (beq_iff_eq.mp e), ih h]
      rfl

end Entries

end FilterQuery
