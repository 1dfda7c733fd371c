import Mathlib.Data.List.AList
import Mathlib.Data.List.Induction

/-!
# Finite tables

A table from keys to values, with at most one value for each key: Mathlib's association lists
with values of one type. The lookup of this file has the plain type `Option ν`, and the order of
the entries is never looked at, so a table stands for an ordered or a hashed map alike.

## Main definitions

* `Table`, `Table.find?`, `Table.set`, `Table.insertNew`, `Table.modify`, `Table.erase`,
  `Table.map`.

## Main results

* `Table.find?_set`, `Table.find?_insertNew`, `Table.find?_modify`, `Table.find?_erase`: each
  operation changes the value of its own key only.
-/

/-- A finite table from `κ` to `ν`. -/
abbrev Table (κ ν : Type*) := AList fun _ : κ => ν

namespace Table

variable {κ ν : Type*} [DecidableEq κ]

/-- The value of a key. -/
def find? (t : Table κ ν) (k : κ) : Option ν := t.lookup k

/-- Gives the key a value, whether it had one or not. -/
def set (t : Table κ ν) (k : κ) (v : ν) : Table κ ν := AList.insert k v t

/-- Gives the key a value unless it has one. -/
def insertNew (t : Table κ ν) (k : κ) (v : ν) : Table κ ν :=
  match t.find? k with
  | none => t.set k v
  | some _ => t

/-- Changes the value of a key that has one. -/
def modify (t : Table κ ν) (k : κ) (f : ν → ν) : Table κ ν :=
  match t.find? k with
  | none => t
  | some v => t.set k (f v)

/-- Removes a key. -/
def erase (t : Table κ ν) (k : κ) : Table κ ν := AList.erase k t

/-- Changes the values of all keys. -/
def map {ν' : Type*} (t : Table κ ν) (f : ν → ν') : Table κ ν' :=
  ⟨t.entries.map (Sigma.map id fun _ => f), t.nodupKeys.map₂ (fun _ => f) t.entries⟩

@[simp] theorem find?_empty (k : κ) : (∅ : Table κ ν).find? k = none := AList.lookup_empty k

@[simp] theorem find?_set_self (t : Table κ ν) (k : κ) (v : ν) : (t.set k v).find? k = some v :=
  AList.lookup_insert t

theorem find?_set_of_ne (t : Table κ ν) {k k' : κ} (v : ν) (h : k' ≠ k) :
    (t.set k v).find? k' = t.find? k' :=
  AList.lookup_insert_ne h

theorem find?_set (t : Table κ ν) (k k' : κ) (v : ν) :
    (t.set k v).find? k' = if k' = k then some v else t.find? k' := by
  split_ifs with h
  · rw [h, find?_set_self]
  · exact find?_set_of_ne t v h

theorem find?_erase (t : Table κ ν) (k k' : κ) :
    (t.erase k).find? k' = if k' = k then none else t.find? k' := by
  split_ifs with h
  · rw [h]
    exact AList.lookup_erase k t
  · exact AList.lookup_erase_ne h

theorem find?_insertNew (t : Table κ ν) (k k' : κ) (v : ν) :
    (t.insertNew k v).find? k' = if k' = k then some ((t.find? k).getD v) else t.find? k' := by
  rw [insertNew]
  cases h : t.find? k with
  | none => exact find?_set t k k' v
  | some w =>
    split_ifs with hk
    · rw [hk, h, Option.getD_some]
    · rfl

theorem find?_modify (t : Table κ ν) (k k' : κ) (f : ν → ν) :
    (t.modify k f).find? k' = if k' = k then (t.find? k).map f else t.find? k' := by
  rw [modify]
  cases h : t.find? k with
  | none =>
    split_ifs with hk
    · rw [hk, h, Option.map_none]
    · rfl
  | some w => rw [find?_set, Option.map_some]

section Map

variable {ν' : Type*} (t : Table κ ν) (f : ν → ν')

theorem find?_map (k : κ) : (t.map f).find? k = (t.find? k).map f := List.dlookup_map₂ k

omit [DecidableEq κ] in
@[simp] theorem keys_map : (t.map f).keys = t.keys := List.map₂_keys (fun _ => f) t.entries

/-- A new value and a change of all values. -/
theorem map_set (k : κ) (v : ν) : (t.set k v).map f = (t.map f).set k (f v) := by
  refine AList.ext ?_
  change (AList.insert k v t).entries.map _ = (AList.insert k (f v) (t.map f)).entries
  rw [AList.entries_insert, AList.entries_insert, List.map_cons, List.kerase, List.kerase, map,
    List.eraseP_map]
  rfl

end Map

theorem mem_iff_find?_isSome {t : Table κ ν} {k : κ} : k ∈ t ↔ (t.find? k).isSome :=
  AList.lookup_isSome.symm

theorem mem_iff_exists_find? {t : Table κ ν} {k : κ} : k ∈ t ↔ ∃ v, t.find? k = some v := by
  rw [mem_iff_find?_isSome, Option.isSome_iff_exists]

theorem find?_eq_none {t : Table κ ν} {k : κ} : t.find? k = none ↔ k ∉ t :=
  AList.lookup_eq_none

theorem mem_of_find? {t : Table κ ν} {k : κ} {v : ν} (h : t.find? k = some v) : k ∈ t :=
  mem_iff_exists_find?.mpr ⟨v, h⟩

@[simp] theorem mem_set {t : Table κ ν} {k k' : κ} {v : ν} : k' ∈ t.set k v ↔ k' = k ∨ k' ∈ t :=
  AList.mem_insert t

theorem mem_insertNew {t : Table κ ν} {k k' : κ} {v : ν} :
    k' ∈ t.insertNew k v ↔ k' = k ∨ k' ∈ t := by
  rw [mem_iff_find?_isSome, mem_iff_find?_isSome, find?_insertNew]
  split_ifs with h <;> simp [h]

theorem mem_erase {t : Table κ ν} {k k' : κ} : k' ∈ t.erase k ↔ k' ≠ k ∧ k' ∈ t :=
  AList.mem_erase

/-- A sequence of new values adds their keys. -/
theorem mem_foldl_set {α : Type*} (key : α → κ) (value : α → ν) (l : List α) {t : Table κ ν}
    {k : κ} :
    k ∈ l.foldl (fun t a => t.set (key a) (value a)) t ↔ (∃ a ∈ l, key a = k) ∨ k ∈ t := by
  induction l generalizing t with
  | nil => simp
  | cons a l ih =>
    rw [List.foldl_cons, ih, mem_set, List.exists_mem_cons_iff, or_assoc, or_left_comm,
      eq_comm (a := k)]

/-- A table built from a sequence of values has no other ones. -/
theorem exists_of_find?_foldl_set {α : Type*} {key : α → κ} {value : α → ν} {l : List α} {k : κ}
    {v : ν} (h : (l.foldl (fun t a => t.set (key a) (value a)) (∅ : Table κ ν)).find? k = some v) :
    ∃ a ∈ l, key a = k ∧ value a = v := by
  induction l using List.reverseRecOn with
  | nil => simp at h
  | append_singleton l a ih =>
    rw [List.foldl_append, List.foldl_cons, List.foldl_nil, find?_set] at h
    split_ifs at h with hk
    · exact ⟨a, by simp, hk.symm, Option.some.inj h⟩
    · obtain ⟨a', ha', heq⟩ := ih h
      exact ⟨a', List.mem_append_left _ ha', heq⟩

/-- A new value for an old key keeps the keys. -/
theorem perm_keys_set_of_mem {t : Table κ ν} {k : κ} {v : ν} (h : k ∈ t) :
    (t.set k v).keys.Perm t.keys := by
  rw [set, AList.keys_insert]
  exact (List.perm_cons_erase (AList.mem_keys.mp h)).symm

/-- A value for a new key adds the key. -/
theorem keys_set_of_notMem {t : Table κ ν} {k : κ} {v : ν} (h : k ∉ t) :
    (t.set k v).keys = k :: t.keys := by
  rw [set, AList.keys_insert, List.erase_of_not_mem (mt AList.mem_keys.mpr h)]

/-- The entries of a table are the keys with their values. -/
theorem mem_entries_iff {t : Table κ ν} {k : κ} {v : ν} :
    (⟨k, v⟩ : Σ _ : κ, ν) ∈ t.entries ↔ t.find? k = some v :=
  AList.mem_lookup_iff.symm

end Table
