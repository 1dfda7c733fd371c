import TacticalMicrogrid.Library.Table

/-!
# Readers that keep the last value of an instance

The values of a topic belong to instances, by their keys. A reader with the history `KEEP_LAST` of
depth one keeps a value until it is taken or until the next value of its instance replaces it.

## Main definitions

* `KeepLast.values`: what a reader takes.
* `KeepLast.store`, `KeepLast.replaced`: the arrival of a value, and the value that it replaces.
* `KeepLast.Thins`: a sequence is left of another one, and has its last value.

## Main results

* `KeepLast.perm_store`: nothing but the replaced value gets lost.
* `KeepLast.length_le_one`, `KeepLast.values_eq_of_forall`: with one instance, a reader has one
  value at most.
* `KeepLast.mem_values_foldl_store`: after a sequence of values a reader has the last one of each
  instance.
* `KeepLast.filter_values`: what a reader takes of one instance.
-/

namespace KeepLast

variable {κ α : Type*} [DecidableEq κ] {key : α → κ} {cache : Table κ α} {a : α} {k : κ}

/-- The values that have not been taken. -/
def values (cache : Table κ α) : List α := cache.entries.map (·.2)

/-- The reader after a value has arrived. -/
def store (key : α → κ) (cache : Table κ α) (a : α) : Table κ α := cache.set (key a) a

/-- The value that the arrival of a value replaces. -/
def replaced (key : α → κ) (cache : Table κ α) (a : α) : List α := (cache.find? (key a)).toList

/-- With a value that arrives, a reader has this value and all others but the replaced one. -/
theorem perm_store : (values (store key cache a) ++ replaced key cache a).Perm
    (a :: values cache) := by
  rw [values, store, Table.set, AList.entries_insert, replaced]
  cases hfind : cache.find? (key a) with
  | none =>
    have hnot : key a ∉ cache.entries.keys := Table.find?_eq_none.mp hfind
    rw [List.kerase_of_notMem_keys hnot, Option.toList_none, List.append_nil]
    rfl
  | some b =>
    have hkey : key a ∈ cache.entries.keys := Table.mem_of_find? hfind
    obtain ⟨b', l₁, l₂, -, hentries, hkerase⟩ := List.exists_of_kerase hkey
    have hb : b' = b := by
      have hmem : (⟨key a, b'⟩ : Σ _ : κ, α) ∈ cache.entries := by simp [hentries]
      exact Option.some.inj ((Table.mem_entries_iff.mp hmem).symm.trans hfind)
    rw [hkerase, values, hentries, hb]
    simp only [List.map_cons, List.map_append, Option.toList_some, List.cons_append,
      List.append_assoc]
    refine List.Perm.cons a (List.Perm.append_left _ ?_)
    exact List.perm_append_comm

/-- Values of one instance, of which there is one of each instance at most, are one at most. -/
theorem length_le_one {β γ : Type*} {key : β → γ} {l : List β} (hkeyed : (l.map key).Nodup)
    (hsame : ∀ b ∈ l, ∀ b' ∈ l, key b = key b') : l.length ≤ 1 := by
  rcases l with _ | ⟨b, _ | ⟨b', l⟩⟩
  · exact Nat.zero_le 1
  · exact le_rfl
  · have heq := hsame b List.mem_cons_self b' (List.mem_cons_of_mem b List.mem_cons_self)
    exact absurd heq (List.ne_of_not_mem_cons (List.nodup_cons.mp hkeyed).1)

/-- With one instance, a reader has one value at most. -/
theorem values_eq_of_forall (h : ∀ k' ∈ cache.keys, k' = k) :
    values cache = (cache.find? k).toList := by
  have hmem : ∀ e : Σ _ : κ, α, e ∈ cache.entries → e.1 = k :=
    fun e he => h e.1 (List.mem_map.mpr ⟨e, he, rfl⟩)
  have hnodup := AList.keys_nodup cache
  rw [AList.keys, List.keys] at hnodup
  rw [values]
  rcases hentries : cache.entries with _ | ⟨e, _ | ⟨e', l⟩⟩
  · cases hfind : cache.find? k with
    | none => rfl
    | some b =>
      have hb := Table.mem_entries_iff.mpr hfind
      rw [hentries] at hb
      cases hb
  · have he : cache.find? k = some e.2 := by
      rw [← hmem e (by simp [hentries])]
      exact Table.mem_entries_iff.mp (by simp [hentries])
    rw [he]
    rfl
  · rw [hentries, List.map_cons, List.map_cons, hmem e (by simp [hentries]),
      hmem e' (by simp [hentries])] at hnodup
    simp at hnodup

/-- After a sequence of values a reader has the last one of each instance. -/
theorem find?_foldl_store (l : List α) (k : κ) :
    (l.foldl (store key) (∅ : Table κ α)).find? k = (l.filter (key · = k)).getLast? := by
  induction l using List.reverseRecOn with
  | nil => rfl
  | append_singleton l a ih =>
    rw [List.foldl_append, List.foldl_cons, List.foldl_nil, store, Table.find?_set, ih,
      List.filter_append]
    by_cases hk : k = key a
    · simp [hk]
    · simp [hk, Ne.symm hk]

/-- What a reader takes after a sequence of values. -/
theorem mem_values_foldl_store {l : List α} :
    a ∈ values (l.foldl (store key) (∅ : Table κ α)) ↔
      (l.filter (key · = key a)).getLast? = some a := by
  rw [values, List.mem_map]
  constructor
  · rintro ⟨⟨k, b⟩, hmem, rfl⟩
    have hlast := (find?_foldl_store l k).symm.trans (Table.mem_entries_iff.mp hmem)
    obtain rfl : key b = k := by simpa using (List.mem_filter.mp (List.mem_of_getLast? hlast)).2
    exact hlast
  · intro hlast
    exact ⟨⟨key a, a⟩, Table.mem_entries_iff.mpr ((find?_foldl_store l (key a)).trans hlast), rfl⟩

/-- The values are kept under their keys. -/
def Keyed (key : α → κ) (cache : Table κ α) : Prop := ∀ e ∈ cache.entries, key e.2 = e.1

omit [DecidableEq κ] in
theorem Keyed.empty : Keyed key (∅ : Table κ α) := fun _ he => absurd he List.not_mem_nil

theorem Keyed.store (h : Keyed key cache) (a : α) : Keyed key (store key cache a) := by
  rintro ⟨k, b⟩ he
  rw [Table.mem_entries_iff, KeepLast.store, Table.find?_set] at he
  split_ifs at he with hk
  · rw [hk, Option.some.inj he]
  · exact h ⟨k, b⟩ (Table.mem_entries_iff.mpr he)

/-- A reader has one value at most of each instance. -/
theorem filter_values (h : Keyed key cache) (k : κ) :
    (values cache).filter (key · = k) = (cache.find? k).toList := by
  obtain ⟨l, hnodup⟩ := cache
  change (l.map (·.2)).filter (key · = k) = (l.dlookup k).toList
  induction l with
  | nil => rfl
  | cons e l ih =>
    obtain ⟨hnot, hnodup'⟩ := List.nodupKeys_cons.mp hnodup
    have hkey : key e.2 = e.1 := h e List.mem_cons_self
    have ih := ih hnodup' fun e' he' => h e' (List.mem_cons_of_mem e he')
    rw [List.map_cons]
    rcases eq_or_ne e.1 k with rfl | hne
    · rw [List.filter_cons_of_pos (by simpa using hkey), ih, List.dlookup_eq_none.mpr hnot,
        List.dlookup_cons_eq]
      rfl
    · rw [List.filter_cons_of_neg (by simpa [hkey] using hne), ih,
        List.dlookup_cons_ne l e hne.symm]

/-! ### Sequences that keep the last value -/

/-- The first sequence is what is left of the second one when values are dropped that later ones
replace: it has the last value. -/
def Thins {α : Type*} (l' l : List α) : Prop := l'.Sublist l ∧ l'.getLast? = l.getLast?

section Thins

variable {α : Type*} {l l' : List α}

theorem Thins.refl (l : List α) : Thins l l := ⟨.refl l, rfl⟩

/-- A new value comes last in both. -/
theorem Thins.append (h : Thins l' l) (new : List α) : Thins (l' ++ new) (l ++ new) := by
  refine ⟨h.1.append (.refl new), ?_⟩
  rw [List.getLast?_append, List.getLast?_append, h.2]

/-- A part that is not the last one can be dropped. -/
theorem Thins.drop {before dropped after : List α} (h : Thins (before ++ (dropped ++ after)) l)
    (hlast : after = [] → dropped = []) : Thins (before ++ after) l := by
  refine ⟨((List.sublist_append_right dropped after).append_left before).trans h.1, ?_⟩
  rw [← h.2]
  rcases List.eq_nil_or_concat after with rfl | ⟨after, a, rfl⟩
  · rw [hlast rfl, List.nil_append]
  · simp [List.concat_eq_append, List.getLast?_append]

end Thins

end KeepLast
