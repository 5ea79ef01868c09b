import Mathlib.Data.List.Basic
import Mathlib.Data.List.Nodup

/-!
# Finite stores

A store is a list of bindings with distinct keys.  Reading, replacing a value,
adding missing bindings and dropping bindings by their keys are described by
what they do to `get?`.
-/

namespace DamonRs.Library

structure Store (κ α : Type) where
  entries : List (κ × α)
  distinct : (entries.map Prod.fst).Nodup

namespace Store

variable {κ α : Type}

def empty : Store κ α := ⟨[], List.nodup_nil⟩

def keys (store : Store κ α) : List κ := store.entries.map Prod.fst

variable [DecidableEq κ]

/-- The value bound to a key in a list of bindings, the first one if there are several. -/
def find (key : κ) : List (κ × α) → Option α
  | [] => none
  | (other, value) :: rest => if other = key then some value else find key rest

def get? (store : Store κ α) (key : κ) : Option α := find key store.entries

theorem find_isSome (key : κ) (entries : List (κ × α)) :
    (find key entries).isSome = true ↔ key ∈ entries.map Prod.fst := by
  induction entries with
  | nil => simp [find]
  | cons entry rest ih =>
      by_cases same : entry.1 = key
      · simp [find, same]
      · have different : ¬key = entry.1 := fun h => same h.symm
        simp [find, same, different, ih]

theorem find_eq_none (key : κ) (entries : List (κ × α)) :
    find key entries = none ↔ key ∉ entries.map Prod.fst := by
  rw [← find_isSome, Option.not_isSome_iff_eq_none]

theorem get?_isSome (store : Store κ α) (key : κ) :
    (store.get? key).isSome = true ↔ key ∈ store.keys := find_isSome key store.entries

theorem find_append (key : κ) (first second : List (κ × α)) :
    find key (first ++ second) = (find key first).or (find key second) := by
  induction first with
  | nil => rfl
  | cons entry rest ih =>
      by_cases same : entry.1 = key
      · simp [find, same]
      · simp [find, same, ih]

theorem mem_of_find {key : κ} {value : α} {entries : List (κ × α)}
    (found : find key entries = some value) : (key, value) ∈ entries := by
  induction entries with
  | nil => cases found
  | cons entry rest ih =>
      by_cases same : entry.1 = key
      · simp only [find, if_pos same] at found
        injection found with found
        exact List.mem_cons.mpr (.inl (Prod.ext same.symm found.symm))
      · simp only [find, if_neg same] at found
        exact List.mem_cons_of_mem entry (ih found)

/-! ## Replacing a value -/

/-- Change the value of a key that is bound. -/
def update (store : Store κ α) (key : κ) (change : α → α) : Store κ α where
  entries := store.entries.map fun entry =>
    if entry.1 = key then (entry.1, change entry.2) else entry
  distinct := by
    have same : (store.entries.map fun entry =>
        if entry.1 = key then (entry.1, change entry.2) else entry).map Prod.fst =
        store.entries.map Prod.fst := by
      rw [List.map_map]
      apply List.map_congr_left
      intro entry _
      by_cases h : entry.1 = key <;> simp [h]
    rw [same]
    exact store.distinct

@[simp] theorem update_keys (store : Store κ α) (key : κ) (change : α → α) :
    (store.update key change).keys = store.keys := by
  unfold keys update
  rw [List.map_map]
  apply List.map_congr_left
  intro entry _
  by_cases h : entry.1 = key <;> simp [h]

theorem find_map_update (entries : List (κ × α)) (key other : κ) (change : α → α) :
    find other (entries.map fun entry =>
        if entry.1 = key then (entry.1, change entry.2) else entry) =
      if other = key then (find other entries).map change else find other entries := by
  induction entries with
  | nil => simp [find]
  | cons entry rest ih =>
      by_cases atKey : entry.1 = key
      · by_cases same : entry.1 = other
        · have otherKey : other = key := by rw [← same, atKey]
          simp [find, otherKey, atKey]
        · simp only [List.map_cons, if_pos atKey, find, if_neg same]
          exact ih
      · by_cases same : entry.1 = other
        · have otherKey : ¬other = key := by rw [← same]; exact atKey
          simp [find, same, otherKey]
        · simp only [List.map_cons, if_neg atKey, find, if_neg same]
          exact ih

theorem get?_update (store : Store κ α) (key other : κ) (change : α → α) :
    (store.update key change).get? other =
      if other = key then (store.get? other).map change else store.get? other :=
  find_map_update store.entries key other change

/-! ## Dropping bindings -/

/-- Keep the bindings whose key satisfies `keep`. -/
def filterKeys (store : Store κ α) (keep : κ → Bool) : Store κ α where
  entries := store.entries.filter fun entry => keep entry.1
  distinct := (List.filter_sublist.map Prod.fst).nodup store.distinct

theorem find_filter (entries : List (κ × α)) (keep : κ → Bool) (key : κ) :
    find key (entries.filter fun entry => keep entry.1) =
      if keep key then find key entries else none := by
  induction entries with
  | nil => simp [find]
  | cons entry rest ih =>
      by_cases kept : keep entry.1 = true
      · by_cases same : entry.1 = key
        · subst same
          simp [find, kept]
        · simp only [List.filter_cons, if_pos kept, find, if_neg same]
          exact ih
      · by_cases same : entry.1 = key
        · subst same
          rw [List.filter_cons, if_neg kept, ih]
          simp [kept]
        · simp only [List.filter_cons, if_neg kept, find, if_neg same]
          exact ih

theorem get?_filterKeys (store : Store κ α) (keep : κ → Bool) (key : κ) :
    (store.filterKeys keep).get? key = if keep key then store.get? key else none :=
  find_filter store.entries keep key

/-! ## Adding missing bindings -/

/-- Bind a key unless it is bound already. -/
def insertNew (store : Store κ α) (key : κ) (value : α) : Store κ α :=
  if bound : key ∈ store.keys then store
  else ⟨store.entries ++ [(key, value)], by
    have distinct := store.distinct
    simp only [keys] at bound
    rw [List.map_append, List.nodup_append]
    refine ⟨distinct, List.nodup_singleton _, ?_⟩
    rintro first member second secondMember rfl
    simp only [List.map_cons, List.map_nil, List.mem_singleton] at secondMember
    exact bound (secondMember ▸ member)⟩

theorem get?_insertNew (store : Store κ α) (key other : κ) (value : α) :
    (store.insertNew key value).get? other =
      (store.get? other).or (if key = other then some value else none) := by
  unfold insertNew
  split
  · rename_i bound
    by_cases same : key = other
    · subst same
      have isSome := (store.get?_isSome key).mpr bound
      obtain ⟨found, hit⟩ := Option.isSome_iff_exists.mp isSome
      simp [hit]
    · simp [same]
  · unfold get?
    rw [find_append]
    by_cases same : key = other <;> simp [find, same]

/-- Add bindings in order, each unless its key is bound already. -/
def insertAll (store : Store κ α) (bindings : List (κ × α)) : Store κ α :=
  bindings.foldl (fun store binding => store.insertNew binding.1 binding.2) store

theorem get?_insertAll (store : Store κ α) (bindings : List (κ × α)) (key : κ) :
    (store.insertAll bindings).get? key = (store.get? key).or (find key bindings) := by
  unfold insertAll
  induction bindings generalizing store with
  | nil => simp [find]
  | cons binding rest ih =>
      rw [List.foldl_cons, ih, get?_insertNew]
      by_cases same : binding.1 = key
      · cases found : store.get? key <;> simp [find, same]
      · cases found : store.get? key <;> simp [find, same]

end Store

end DamonRs.Library
