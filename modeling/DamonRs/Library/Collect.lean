import DamonRs.Library.Exec
import Mathlib.Data.List.Forall2
import Mathlib.Data.List.ReduceOption
import Mathlib.Data.List.Sort

/-!
# Collecting results

Loops that collect results: programs that keep more state than their result
shows, vectors with reserved room, and lists of what is found for every item.
-/

namespace DamonRs.Library

/-! ## Programs with more state -/

namespace Exec

variable {κ ω ε α β γ δ : Type}

/-- A program represents another one whose result is a part of its own. -/
def Represents (project : β → α) (concrete : Exec κ ω ε β) (plain : Exec κ ω ε α) : Prop :=
  project <$> concrete = plain

namespace Represents

variable {project : β → α} {result : δ → γ}

protected theorem pure {value : β} {shown : α} (same : project value = shown) :
    Represents project (pure value : Exec κ ω ε β) (pure shown) := by
  subst same
  rfl

protected theorem fail (error : ε) :
    Represents project (fail error : Exec κ ω ε β) (fail error) := rfl

protected theorem bind {concrete : Exec κ ω ε β} {plain : Exec κ ω ε α}
    {next : β → Exec κ ω ε δ} {rest : α → Exec κ ω ε γ}
    (first : Represents project concrete plain)
    (second : ∀ value, Represents result (next value) (rest (project value))) :
    Represents result (concrete >>= next) (plain >>= rest) := by
  unfold Represents at first second ⊢
  subst first
  rw [map_run, map_run, bind_assoc, bind_assoc]
  congr 1
  funext value
  rw [pure_bind, ← second value, map_run]

theorem refl (program : Exec κ ω ε α) : Represents id program program := by
  unfold Represents
  funext env world
  rw [map_run, bind_run]
  cases program env world with
  | mk outcome after => cases outcome <;> rfl

/-- Nothing more is nothing else. -/
theorem eq {first second : Exec κ ω ε α} (represents : Represents id first second) :
    first = second :=
  (refl first).symm.trans represents

/-- A step that both programs take. -/
theorem step {program : Exec κ ω ε β} {next : β → Exec κ ω ε δ} {rest : β → Exec κ ω ε γ}
    (second : ∀ value, Represents result (next value) (rest value)) :
    Represents result (program >>= next) (program >>= rest) :=
  (refl program).bind second

protected theorem ite {condition : Prop} [Decidable condition] {first second : Exec κ ω ε β}
    {one two : Exec κ ω ε α} (holds : condition → Represents project first one)
    (fails : ¬condition → Represents project second two) :
    Represents project (if condition then first else second)
      (if condition then one else two) := by
  by_cases decided : condition
  · rw [if_pos decided, if_pos decided]
    exact holds decided
  · rw [if_neg decided, if_neg decided]
    exact fails decided

theorem foldEach {body : β → γ → Exec κ ω ε β} {look : α → γ → Exec κ ω ε α}
    (each : ∀ total item, Represents project (body total item) (look (project total) item))
    (total : β) (items : List γ) :
    Represents project (foldEach body total items) (foldEach look (project total) items) := by
  induction items generalizing total with
  | nil => exact .pure rfl
  | cons item rest ih => exact (each total item).bind fun total => ih total

end Represents

end Exec

namespace Exec

variable {κ ω ε α β : Type}

/-- Collecting what is there in a list. -/
theorem foldEach_append (body : α → Exec κ ω ε (Option β)) (done : List β) (items : List α) :
    foldEach (fun done item => do
        let value ← body item
        pure (done ++ value.toList)) done items = (do
      let values ← mapEach body items
      pure (done ++ values.reduceOption)) := by
  induction items generalizing done with
  | nil =>
      unfold foldEach mapEach
      simp [pure_bind]
  | cons item rest ih =>
      unfold foldEach mapEach
      simp only [bind_assoc, pure_bind]
      congr 1
      funext value
      rw [ih]
      congr 1
      funext values
      cases value with
      | none => simp
      | some value => simp

end Exec

/-! ## Growing vectors -/

/-- Items with the room that is reserved for them. -/
structure Vec (α : Type) where
  items : List α
  capacity : Nat
  fits : items.length ≤ capacity

namespace Vec

variable {α : Type}

def withCapacity (capacity : Nat) : Vec α := ⟨[], capacity, Nat.zero_le _⟩

def clear (vec : Vec α) : Vec α := ⟨[], vec.capacity, Nat.zero_le _⟩

def push (vec : Vec α) (item : α) : Vec α where
  items := vec.items ++ [item]
  capacity := max vec.capacity (vec.items.length + 1)
  fits := by
    rw [List.length_append, List.length_singleton]
    exact Nat.le_max_right ..

def sort (vec : Vec Nat) : Vec Nat where
  items := vec.items.insertionSort (· ≤ ·)
  capacity := vec.capacity
  fits := by
    rw [List.length_insertionSort]
    exact vec.fits

@[simp] theorem withCapacity_items (capacity : Nat) :
    (withCapacity capacity : Vec α).items = [] := rfl

@[simp] theorem clear_items (vec : Vec α) : vec.clear.items = [] := rfl

@[simp] theorem push_items (vec : Vec α) (item : α) :
    (vec.push item).items = vec.items ++ [item] := rfl

@[simp] theorem sort_items (vec : Vec Nat) :
    vec.sort.items = vec.items.insertionSort (· ≤ ·) := rfl

end Vec

/-! ## What is found for every item -/

section Lists

variable {α β : Type}

theorem mapM_eq_some {look : α → Option β} {items : List α} {results : List β} :
    items.mapM look = some results ↔
      List.Forall₂ (fun item result => look item = some result) items results := by
  induction items generalizing results with
  | nil =>
      rw [List.mapM_nil]
      constructor
      · rintro ⟨⟩
        exact .nil
      · rintro ⟨⟩
        rfl
  | cons item rest ih =>
      rw [List.mapM_cons]
      constructor
      · intro mapped
        obtain ⟨result, here, mapped⟩ := Option.bind_eq_some_iff.mp mapped
        obtain ⟨others, later, mapped⟩ := Option.bind_eq_some_iff.mp mapped
        cases mapped
        exact .cons here (ih.mp later)
      · rintro (_ | ⟨here, later⟩)
        rw [here, ih.mpr later]
        rfl

/-- What is found for every item can be listed. -/
theorem exists_forall₂_some {look : α → Option β} {items : List α}
    (found : ∀ item ∈ items, (look item).isSome = true) :
    ∃ results, List.Forall₂ (fun item result => look item = some result) items results := by
  induction items with
  | nil => exact ⟨[], .nil⟩
  | cons item rest ih =>
      obtain ⟨result, here⟩ := Option.isSome_iff_exists.mp (found item (List.mem_cons_self ..))
      obtain ⟨results, others⟩ := ih fun other member => found other (List.mem_cons_of_mem item member)
      exact ⟨result :: results, .cons here others⟩

theorem exists_of_forall₂ {related : α → β → Prop} {items : List α} {results : List β}
    (all : List.Forall₂ related items results) {item : α} (member : item ∈ items) :
    ∃ result, related item result := by
  induction all with
  | nil => cases member
  | cons here _ ih =>
      rcases List.mem_cons.mp member with rfl | later
      · exact ⟨_, here⟩
      · exact ih later

/-- Where not all items have a property there is a last one that has it not. -/
theorem exists_last_not {holds : α → Prop} {items : List α} (some : ¬∀ item ∈ items, holds item) :
    ∃ earlier last later, items = earlier ++ last :: later ∧ ¬holds last ∧
      ∀ item ∈ later, holds item := by
  induction items with
  | nil => exact absurd (fun _ member => by cases member) some
  | cons item rest ih =>
      by_cases later : ∀ other ∈ rest, holds other
      · exact ⟨[], item, rest, rfl, fun here => some (List.forall_mem_cons.mpr ⟨here, later⟩), later⟩
      · obtain ⟨earlier, last, others, rfl, fails, follow⟩ := ih later
        exact ⟨item :: earlier, last, others, rfl, fails, follow⟩

/-- A list related by a function is its image. -/
theorem forall₂_image {holds : α → Prop} {image : α → β} {items : List α} {results : List β} :
    List.Forall₂ (fun item result => holds item ∧ result = image item) items results ↔
      (∀ item ∈ items, holds item) ∧ results = items.map image := by
  rw [List.forall₂_and_left, eq_comm (a := results), ← List.forall₂_eq_eq_eq]
  rw [List.forall₂_map_left_iff]
  simp only [eq_comm]

end Lists

end DamonRs.Library
