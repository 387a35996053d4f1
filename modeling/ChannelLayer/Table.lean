/-!
# Tables

Finite maps with decidable keys. Keys stay in the order of their first insertion, so two tables with the
same bindings may still differ as lists; everything else here is said through `get?`.
-/

set_option autoImplicit false

namespace ChannelLayer

structure Table (κ ν : Type) where
  entries : List (κ × ν) := []
  deriving DecidableEq

namespace Table

variable {κ ν : Type} [DecidableEq κ]

def find : List (κ × ν) → κ → Option ν
  | [], _ => none
  | (j, v) :: rest, k => if j = k then some v else find rest k

def put : List (κ × ν) → κ → ν → List (κ × ν)
  | [], k, v => [(k, v)]
  | (j, w) :: rest, k, v => if j = k then (k, v) :: rest else (j, w) :: put rest k v

def get? (t : Table κ ν) (k : κ) : Option ν := find t.entries k

/-- Binds `k` to `v`, in the place of an earlier binding if there is one. -/
def insert (t : Table κ ν) (k : κ) (v : ν) : Table κ ν := ⟨put t.entries k v⟩

def erase (t : Table κ ν) (k : κ) : Table κ ν := ⟨t.entries.filter fun e => decide (e.1 ≠ k)⟩

omit [DecidableEq κ] in
def keys (t : Table κ ν) : List κ := t.entries.map Prod.fst

omit [DecidableEq κ] in
def isEmpty (t : Table κ ν) : Bool := t.entries.isEmpty

@[simp] theorem get?_empty (k : κ) : ({} : Table κ ν).get? k = none := rfl

theorem find_put (l : List (κ × ν)) (k j : κ) (v : ν) :
    find (put l k v) j = if k = j then some v else find l j := by
  induction l with
  | nil => rfl
  | cons e rest ih =>
    obtain ⟨i, w⟩ := e
    by_cases hik : i = k
    · subst hik
      by_cases hij : i = j <;> simp [put, find, hij]
    · by_cases hij : i = j
      · subst hij
        simp [put, find, hik, Ne.symm hik]
      · simp [put, find, hik, hij, ih]

@[simp] theorem get?_insert (t : Table κ ν) (k j : κ) (v : ν) :
    (t.insert k v).get? j = if k = j then some v else t.get? j := find_put t.entries k j v

theorem get?_insert_self (t : Table κ ν) (k : κ) (v : ν) : (t.insert k v).get? k = some v := by simp

theorem get?_insert_of_ne (t : Table κ ν) {k j : κ} (v : ν) (h : k ≠ j) :
    (t.insert k v).get? j = t.get? j := by simp [h]

theorem find_filter (l : List (κ × ν)) (k j : κ) :
    find (l.filter fun e => decide (e.1 ≠ k)) j = if k = j then none else find l j := by
  induction l with
  | nil => simp [find]
  | cons e rest ih =>
    obtain ⟨i, w⟩ := e
    by_cases hik : i = k
    · subst hik
      by_cases hij : i = j <;> simp_all [find]
    · by_cases hij : i = j
      · subst hij
        simp_all [find, Ne.symm hik]
      · simp_all [find]

@[simp] theorem get?_erase (t : Table κ ν) (k j : κ) :
    (t.erase k).get? j = if k = j then none else t.get? j := find_filter t.entries k j

theorem mem_keys {t : Table κ ν} {k : κ} : k ∈ t.keys ↔ t.get? k ≠ none := by
  obtain ⟨l⟩ := t
  simp only [keys, get?]
  induction l with
  | nil => simp [find]
  | cons e rest ih =>
    obtain ⟨i, w⟩ := e
    by_cases h : i = k
    · simp [find, h]
    · simp only [List.map_cons, List.mem_cons, find, if_neg h, ← ih]
      exact ⟨fun hk => hk.resolve_left (Ne.symm h), .inr⟩

theorem isEmpty_iff {t : Table κ ν} : t.isEmpty = true ↔ ∀ k, t.get? k = none := by
  obtain ⟨l⟩ := t
  cases l with
  | nil => simp [isEmpty, get?, find]
  | cons e rest =>
    obtain ⟨i, w⟩ := e
    simp only [isEmpty, List.isEmpty_cons, Bool.false_eq_true, false_iff]
    intro h
    simpa [get?, find] using h i

end Table

end ChannelLayer
