import Mathlib.Data.List.Basic

/-!
# Searches by position

The first and the last position of a list with an element of some kind, and what lies between them:
every list with such an element is, in one way only, a trimmed list with elements of the other kind
on both sides.

## Main definitions

* `Search.findFirst`, `Search.findLast`.
* `Search.Trimmed`: a list that begins and ends with an element of the kind.

## Main results

* `Search.findFirst_of_drop_eq`, `Search.findLast_append_cons`: where the searches end.
* `Search.exists_trimmed`, `Search.trimmed_unique`: the trimmed part of a list.
-/

namespace Search

variable {α : Type*} {p : α → Bool} {s w rest : List α} {x : α} {pos : ℕ}

/-- The first position, from the given one on, of an element with the property. -/
def findFirst (p : α → Bool) (s : List α) (pos : ℕ) : Option ℕ :=
  ((s.drop pos).findIdx? p).map (pos + ·)

/-- The last position of an element with the property. -/
def findLast (p : α → Bool) (s : List α) : Option ℕ :=
  (s.reverse.findIdx? p).map (s.length - 1 - ·)

/-- The list begins and ends with an element that has the property. -/
def Trimmed (p : α → Bool) (s : List α) : Prop :=
  (∃ a ∈ s.head?, p a = true) ∧ ∃ a ∈ s.getLast?, p a = true

/-! ### Where the searches end -/

theorem findFirst_eq_none_iff : findFirst p s pos = none ↔ ∀ a ∈ s.drop pos, p a = false := by
  rw [findFirst, Option.map_eq_none_iff, List.findIdx?_eq_none_iff]

/-- Nothing is found among the elements without the property. -/
theorem findIdx?_append_cons (hw : ∀ a ∈ w, p a = false) (hx : p x = true) :
    (w ++ x :: rest).findIdx? p = some w.length := by
  rw [List.findIdx?_append, List.findIdx?_eq_none_iff.mpr hw, List.findIdx?_cons, if_pos hx,
    Option.map_some, Option.none_or, Nat.zero_add]

theorem findFirst_of_drop_eq (hs : s.drop pos = w ++ x :: rest) (hw : ∀ a ∈ w, p a = false)
    (hx : p x = true) : findFirst p s pos = some (pos + w.length) := by
  rw [findFirst, hs, findIdx?_append_cons hw hx, Option.map_some]

theorem findLast_append_cons (hw : ∀ a ∈ w, p a = false) (hx : p x = true) :
    findLast p (rest ++ x :: w) = some rest.length := by
  have hreverse : (rest ++ x :: w).reverse = w.reverse ++ x :: rest.reverse := by simp
  have hw' : ∀ a ∈ w.reverse, p a = false := fun a ha => hw a (List.mem_reverse.mp ha)
  rw [findLast, hreverse, findIdx?_append_cons hw' hx, Option.map_some]
  simp only [List.length_append, List.length_cons, List.length_reverse, Option.some.injEq]
  omega

/-- A list without the property at all, or its first element with it. -/
theorem exists_first (p : α → Bool) (s : List α) : (∀ a ∈ s, p a = false) ∨
    ∃ w x rest, s = w ++ x :: rest ∧ (∀ a ∈ w, p a = false) ∧ p x = true := by
  cases hfind : s.find? p with
  | none => exact Or.inl fun a ha => Bool.eq_false_iff.mpr (List.find?_eq_none.mp hfind a ha)
  | some x =>
    obtain ⟨hx, w, rest, hs, hw⟩ := List.find?_eq_some_iff_append.mp hfind
    exact Or.inr ⟨w, x, rest, hs, fun a ha => by simpa using hw a ha, hx⟩

/-! ### Trimmed lists -/

section Trimmed

variable {body body' w₁ w₁' w₃ w₃' : List α}

theorem Trimmed.exists_eq_cons (h : Trimmed p body) : ∃ a l, body = a :: l ∧ p a = true := by
  obtain ⟨⟨a, ha, hp⟩, -⟩ := h
  cases body with
  | nil => cases ha
  | cons b l =>
    obtain rfl := Option.some.inj ha
    exact ⟨_, l, rfl, hp⟩

theorem Trimmed.exists_eq_concat (h : Trimmed p body) : ∃ l a, body = l ++ [a] ∧ p a = true := by
  obtain ⟨-, a, ha, hp⟩ := h
  obtain ⟨l, rfl⟩ := List.getLast?_eq_some_iff.mp ha
  exact ⟨l, a, rfl, hp⟩

/-- The first element found is where the trimmed part begins. -/
theorem Trimmed.findFirst_eq (h : Trimmed p body) (hw : ∀ a ∈ w₁, p a = false) (w₃ : List α) :
    findFirst p (w₁ ++ body ++ w₃) 0 = some w₁.length := by
  obtain ⟨a, l, rfl, ha⟩ := h.exists_eq_cons
  have hdrop : (w₁ ++ a :: l ++ w₃).drop 0 = w₁ ++ a :: (l ++ w₃) := by simp
  rw [findFirst_of_drop_eq hdrop hw ha, Nat.zero_add]

/-- The last element found is where the trimmed part ends. -/
theorem Trimmed.findLast_eq (h : Trimmed p body) (hw : ∀ a ∈ w₃, p a = false) (w₁ : List α) :
    findLast p (w₁ ++ body ++ w₃) = some (w₁.length + body.length - 1) := by
  obtain ⟨l, a, rfl, ha⟩ := h.exists_eq_concat
  have hs : w₁ ++ (l ++ [a]) ++ w₃ = (w₁ ++ l) ++ a :: w₃ := by simp
  rw [hs, findLast_append_cons hw ha]
  simp only [List.length_append, List.length_cons, List.length_nil, Option.some.injEq]
  omega

/-- A list without the property at all, or its trimmed part. -/
theorem exists_trimmed (p : α → Bool) (s : List α) : (∀ a ∈ s, p a = false) ∨
    ∃ w₁ body w₃, s = w₁ ++ body ++ w₃ ∧ (∀ a ∈ w₁, p a = false) ∧ Trimmed p body ∧
      ∀ a ∈ w₃, p a = false := by
  rcases exists_first p s with hnone | ⟨w₁, x, rest, rfl, hw₁, hx⟩
  · exact Or.inl hnone
  -- The last element with the property is the first one of the reversed rest.
  rcases exists_first p (x :: rest).reverse with hnone | ⟨v, y, u, hrest, hv, hy⟩
  · have hfalse := hnone x (List.mem_reverse.mpr List.mem_cons_self)
    exact absurd (hfalse.symm.trans hx) Bool.false_ne_true
  · have hsplit : x :: rest = u.reverse ++ [y] ++ v.reverse := by
      rw [← List.reverse_reverse (x :: rest), hrest]
      simp
    refine Or.inr ⟨w₁, u.reverse ++ [y], v.reverse, ?_, hw₁, ⟨?_, y, by simp, hy⟩, ?_⟩
    · rw [hsplit, ← List.append_assoc]
    · refine ⟨x, ?_, hx⟩
      have hhead := congrArg List.head? hsplit
      rw [List.head?_append_of_ne_nil _ (by simp)] at hhead
      exact hhead.symm
    · exact fun a ha => hv a (List.mem_reverse.mp ha)

/-- The trimmed part of a list is unique. -/
theorem trimmed_unique (hs : w₁ ++ body ++ w₃ = w₁' ++ body' ++ w₃')
    (hw₁ : ∀ a ∈ w₁, p a = false) (hbody : Trimmed p body) (hw₃ : ∀ a ∈ w₃, p a = false)
    (hw₁' : ∀ a ∈ w₁', p a = false) (hbody' : Trimmed p body') (hw₃' : ∀ a ∈ w₃', p a = false) :
    w₁ = w₁' ∧ body = body' ∧ w₃ = w₃' := by
  have hfirst : w₁.length = w₁'.length := by
    have h := hbody.findFirst_eq hw₁ w₃
    rw [hs, hbody'.findFirst_eq hw₁'] at h
    exact (Option.some.inj h).symm
  have hlast : w₁.length + body.length - 1 = w₁'.length + body'.length - 1 := by
    have h := hbody.findLast_eq hw₃ w₁
    rw [hs, hbody'.findLast_eq hw₃'] at h
    exact (Option.some.inj h).symm
  have hlength : body.length = body'.length := by
    obtain ⟨a, l, rfl, -⟩ := hbody.exists_eq_cons
    obtain ⟨a', l', rfl, -⟩ := hbody'.exists_eq_cons
    simp only [List.length_cons] at hlast ⊢
    omega
  rw [List.append_assoc, List.append_assoc] at hs
  obtain ⟨hw₁, hrest⟩ := List.append_inj hs hfirst
  obtain ⟨hbody, hw₃⟩ := List.append_inj hrest hlength
  exact ⟨hw₁, hbody, hw₃⟩

end Trimmed

end Search
