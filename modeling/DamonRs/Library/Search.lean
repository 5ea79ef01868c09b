import Mathlib.Data.List.Sort
import Mathlib.Data.List.Lex
import Mathlib.Data.List.TakeWhile
import Mathlib.Order.Basic

/-!
# Binary search by comparison

The search halves a window and never stops early: each comparison only decides
whether the window starts at its middle or stays where it is, and one final
comparison settles the answer.  On a strictly increasing list the search finds
an item exactly when the item is present.
-/

namespace DamonRs.Library

/-- The outcome of a search: a position, or the position for an insertion. -/
inductive SearchResult where
  | found (index : Nat)
  | missing (index : Nat)
  deriving Repr, DecidableEq

namespace SearchResult

/-- The position that was found, if any. -/
def found? : SearchResult → Option Nat
  | found index => some index
  | missing _ => none

@[simp] theorem found?_found (index : Nat) : (found index).found? = some index := rfl

@[simp] theorem found?_missing (index : Nat) : (missing index).found? = none := rfl

/-- The position that was found, or the position for an insertion. -/
def position : SearchResult → Nat
  | found index => index
  | missing index => index

end SearchResult

section Search

variable {α : Type}

/-- Halve the window of `size` items from `base`; `fuel` bounds the number of halvings. -/
def narrow (items : List α) (compare : α → Ordering) : Nat → Nat → Nat → Nat
  | 0, base, _ => base
  | fuel + 1, base, size =>
      if size ≤ 1 then base
      else
        let half := size / 2
        let mid := base + half
        let base := match (items[mid]?).map compare with
          | some .gt => base
          | _ => mid
        narrow items compare fuel base (size - half)

/-- Binary search with a three-way comparison of each item against the target. -/
def binarySearchBy (items : List α) (compare : α → Ordering) : SearchResult :=
  if items.length = 0 then .missing 0
  else
    let base := narrow items compare items.length 0 items.length
    match (items[base]?).map compare with
    | some .eq => .found base
    | some .lt => .missing (base + 1)
    | _ => .missing base

/-- The comparison sends a prefix of the items to `lt`, then at most one to `eq`, then `gt`. -/
def Monotone (items : List α) (compare : α → Ordering) : Prop :=
  ∀ (i j : Nat) (x y : α), i < j → items[i]? = some x → items[j]? = some y →
    compare x ≠ .lt → compare y = .gt

/-- The last item that is not above the target stays inside the window. -/
theorem narrow_inside (items : List α) (compare : α → Ordering)
    (monotone : Monotone items compare) (fuel base size target : Nat) (x : α)
    (enough : size ≤ fuel + 1) (low : base ≤ target) (high : target < base + size)
    (inside : base + size ≤ items.length)
    (hit : items[target]? = some x) (equal : compare x = .eq) :
    narrow items compare fuel base size = target := by
  induction fuel generalizing base size with
  | zero =>
      have : size = 1 := by omega
      simp only [narrow]
      omega
  | succ fuel ih =>
      unfold narrow
      by_cases small : size ≤ 1
      · rw [if_pos small]
        omega
      · rw [if_neg small]
        have half : 0 < size / 2 := Nat.div_pos (by omega) (by omega)
        have halfLt : size / 2 < size := Nat.div_lt_self (by omega) (by omega)
        have midBound : base + size / 2 < items.length := by omega
        have midItem : items[base + size / 2]? = some items[base + size / 2] :=
          List.getElem?_eq_getElem midBound
        simp only [midItem, Option.map_some]
        by_cases above : target < base + size / 2
        · -- everything after the target compares as greater
          have greater : compare items[base + size / 2] = .gt :=
            monotone target (base + size / 2) x _ above hit midItem (by simp [equal])
          simp only [greater]
          exact ih base (size - size / 2) (by omega) low (by omega) (by omega)
        · have notGreater : compare items[base + size / 2] ≠ .gt := by
            intro greater
            rcases Nat.lt_or_ge (base + size / 2) target with before | after
            · have contradiction := monotone (base + size / 2) target _ x before midItem hit
                (by simp [greater])
              simp [equal] at contradiction
            · have same : base + size / 2 = target := by omega
              simp only [same] at greater midItem
              rw [hit] at midItem
              injection midItem with sameItem
              simp [← sameItem, equal] at greater
          have moved : (match some (compare items[base + size / 2]) with
              | some .gt => base
              | _ => base + size / 2) = base + size / 2 := by
            split
            · rename_i greater
              injection greater with greater
              exact absurd greater notGreater
            · rfl
          rw [moved]
          exact ih (base + size / 2) (size - size / 2) (by omega) (by omega) (by omega) (by omega)

/-- A found position holds an item that compares as equal. -/
theorem binarySearchBy_found (items : List α) (compare : α → Ordering) (index : Nat)
    (found : binarySearchBy items compare = .found index) :
    ∃ x, items[index]? = some x ∧ compare x = .eq := by
  unfold binarySearchBy at found
  split at found
  · cases found
  · simp only at found
    split at found
    · rename_i hit
      injection found with same
      subst same
      cases item : items[narrow items compare items.length 0 items.length]? with
      | none => simp [item] at hit
      | some x => exact ⟨x, rfl, by simpa [item] using hit⟩
    · cases found
    · cases found

/-- Every item that compares as equal is found where it stands. -/
theorem binarySearchBy_of_eq (items : List α) (compare : α → Ordering)
    (monotone : Monotone items compare) (index : Nat) (x : α)
    (hit : items[index]? = some x) (equal : compare x = .eq) :
    binarySearchBy items compare = .found index := by
  have bound : index < items.length := (List.getElem?_eq_some_iff.mp hit).1
  have nonempty : items.length ≠ 0 := by omega
  have landed := narrow_inside items compare monotone items.length 0 items.length index x
    (by omega) (Nat.zero_le _) (by omega) (by omega) hit equal
  unfold binarySearchBy
  rw [if_neg nonempty]
  simp only [landed, hit, Option.map_some, equal]

/-! ## Partition points -/

/-- The number of leading items that satisfy a predicate which no later item satisfies. -/
def partitionPoint (items : List α) (holds : α → Bool) : Nat :=
  (binarySearchBy items fun item => if holds item then .lt else .gt).position

/-- The predicate holds on all items before a boundary and on none from it on. -/
def SplitAt (items : List α) (holds : α → Bool) (boundary : Nat) : Prop :=
  ∀ (i : Nat) (x : α), items[i]? = some x → (holds x = true ↔ i < boundary)

/-- The window keeps the boundary between its start and its end. -/
theorem narrow_boundary (items : List α) (holds : α → Bool) (boundary : Nat)
    (split : SplitAt items holds boundary) (fuel base size : Nat) (enough : size ≤ fuel + 1)
    (nonempty : 0 < size) (low : base ≤ boundary) (high : boundary ≤ base + size)
    (inside : base + size ≤ items.length) :
    let landed := narrow items (fun item => if holds item then .lt else .gt) fuel base size
    landed ≤ boundary ∧ boundary ≤ landed + 1 ∧ landed < items.length := by
  induction fuel generalizing base size with
  | zero =>
      have : size = 1 := by omega
      simp only [narrow]
      omega
  | succ fuel ih =>
      unfold narrow
      by_cases small : size ≤ 1
      · rw [if_pos small]
        dsimp only
        omega
      · rw [if_neg small]
        have halfPos : 0 < size / 2 := Nat.div_pos (by omega) (by omega)
        have halfLt : size / 2 < size := Nat.div_lt_self (by omega) (by omega)
        have midBound : base + size / 2 < items.length := by omega
        have midItem : items[base + size / 2]? = some items[base + size / 2] :=
          List.getElem?_eq_getElem midBound
        have atMid := split (base + size / 2) _ midItem
        simp only [midItem, Option.map_some]
        by_cases before : holds items[base + size / 2] = true
        · have below : base + size / 2 < boundary := atMid.mp before
          simp only [if_pos before]
          exact ih (base + size / 2) (size - size / 2) (by omega) (by omega) (by omega)
            (by omega) (by omega)
        · have above : ¬base + size / 2 < boundary := fun below => before (atMid.mpr below)
          simp only [if_neg before]
          exact ih base (size - size / 2) (by omega) (by omega) (by omega) (by omega) (by omega)

theorem partitionPoint_eq (items : List α) (holds : α → Bool) (boundary : Nat)
    (bounded : boundary ≤ items.length) (split : SplitAt items holds boundary) :
    partitionPoint items holds = boundary := by
  unfold partitionPoint binarySearchBy
  by_cases empty : items.length = 0
  · rw [if_pos empty]
    simp only [SearchResult.position]
    omega
  · rw [if_neg empty]
    have landing := narrow_boundary items holds boundary split items.length 0 items.length
      (by omega) (by omega) (by omega) (by omega) (by omega)
    dsimp only at landing ⊢
    obtain ⟨low, high, inside⟩ := landing
    have item := List.getElem?_eq_getElem inside
    have atLanding := split _ _ item
    rw [item, Option.map_some]
    by_cases before : holds items[narrow items
        (fun item => if holds item then .lt else .gt) items.length 0 items.length] = true
    · have below := atLanding.mp before
      simp only [if_pos before, SearchResult.position]
      omega
    · have above : ¬_ := fun below => before (atLanding.mpr below)
      simp only [if_neg before, SearchResult.position]
      omega

end Search

section Ordered

variable {α κ : Type} [LinearOrder κ]

/-- Binary search for an item with a given key. -/
def binarySearchByKey (items : List α) (key : α → κ) (target : κ) : SearchResult :=
  binarySearchBy items fun item => cmp (key item) target

/-- Comparing keys of strictly increasing items against a target is monotone. -/
theorem monotone_of_sorted (items : List α) (key : α → κ) (target : κ)
    (sorted : (items.map key).Pairwise (· < ·)) :
    Monotone items (fun item => cmp (key item) target) := by
  intro i j x y before hx hy notLess
  have increasing : key x < key y := by
    obtain ⟨hi, rfl⟩ := List.getElem?_eq_some_iff.mp hx
    obtain ⟨hj, rfl⟩ := List.getElem?_eq_some_iff.mp hy
    exact List.pairwise_iff_getElem.mp (List.pairwise_map.mp sorted) i j hi hj before
  have least : target ≤ key x := by
    rcases lt_or_ge (key x) target with less | least
    · exact absurd (cmp_eq_lt_iff _ _ |>.mpr less) notLess
    · exact least
  exact (cmp_eq_gt_iff _ _).mpr (lt_of_le_of_lt least increasing)

/-- An item of a strictly increasing list is found where it stands. -/
theorem binarySearchByKey_of_getElem? (items : List α) (key : α → κ)
    (sorted : (items.map key).Pairwise (· < ·)) (index : Nat) (x : α)
    (hit : items[index]? = some x) : binarySearchByKey items key (key x) = .found index :=
  binarySearchBy_of_eq items _ (monotone_of_sorted items key (key x) sorted) index x hit
    (cmp_self_eq_eq _)

/-- What a search finds is a member, whether or not the list is ordered. -/
theorem binarySearchByKey_mem (items : List α) (key : α → κ) (target : κ)
    (isFound : (binarySearchByKey items key target).found?.isSome) :
    target ∈ items.map key := by
  cases result : binarySearchByKey items key target with
  | found index =>
      obtain ⟨x, hit, equal⟩ := binarySearchBy_found items _ index result
      have same : key x = target := (cmp_eq_eq_iff _ _).mp equal
      exact List.mem_map.mpr ⟨x, List.mem_of_getElem? hit, same⟩
  | missing index => simp [result] at isFound

/-- Search in a strictly increasing list succeeds exactly on members. -/
theorem binarySearchByKey_found_iff (items : List α) (key : α → κ) (target : κ)
    (sorted : (items.map key).Pairwise (· < ·)) :
    (binarySearchByKey items key target).found?.isSome ↔ target ∈ items.map key := by
  refine ⟨binarySearchByKey_mem items key target, fun member => ?_⟩
  obtain ⟨x, present, rfl⟩ := List.mem_map.mp member
  obtain ⟨index, hit⟩ := List.mem_iff_getElem?.mp present
  rw [binarySearchByKey_of_getElem? items key sorted index x hit]
  rfl

end Ordered

/-! ## Leading items -/

section Boundary

variable {α : Type}

/-- The leading items end where no later item is like them. -/
theorem splitAt_takeWhile {items : List α} {holds : α → Bool}
    (closed : items.Pairwise fun first second => holds second = true → holds first = true) :
    SplitAt items holds (items.takeWhile holds).length := by
  induction items with
  | nil =>
      intro i x hit
      cases hit
  | cons first rest ih =>
      intro i x hit
      rw [List.pairwise_cons] at closed
      rw [List.takeWhile_cons]
      cases leads : holds first with
      | false =>
          have none : holds x = false := by
            rcases List.mem_cons.mp (List.mem_of_getElem? hit) with rfl | later
            · exact leads
            · by_contra holdsLater
              have earlier := closed.1 x later (Bool.not_eq_false _ ▸ holdsLater)
              rw [leads] at earlier
              cases earlier
          simp [none]
      | true =>
          rw [if_pos rfl, List.length_cons]
          cases i with
          | zero =>
              cases hit
              simp [leads]
          | succ i =>
              rw [Nat.succ_lt_succ_iff]
              exact ih closed.2 i x hit

theorem drop_partitionPoint {items : List α} {holds : α → Bool}
    (closed : items.Pairwise fun first second => holds second = true → holds first = true) :
    items.drop (partitionPoint items holds) = items.dropWhile holds := by
  rw [partitionPoint_eq items holds _ (List.takeWhile_prefix holds).length_le
    (splitAt_takeWhile closed)]
  calc items.drop (items.takeWhile holds).length
      = (items.takeWhile holds ++ items.dropWhile holds).drop (items.takeWhile holds).length := by
        rw [List.takeWhile_append_dropWhile]
    _ = items.dropWhile holds := List.drop_left ..

/-- No item from the end of the leading items on is like them. -/
theorem of_mem_dropWhile {items : List α} {holds : α → Bool}
    (closed : items.Pairwise fun first second => holds second = true → holds first = true) {item : α}
    (later : item ∈ items.dropWhile holds) : holds item = false := by
  rw [← drop_partitionPoint closed, partitionPoint_eq items holds _
    (List.takeWhile_prefix holds).length_le (splitAt_takeWhile closed)] at later
  obtain ⟨i, hit⟩ := List.mem_iff_getElem?.mp later
  rw [List.getElem?_drop] at hit
  have beyond := splitAt_takeWhile closed _ item hit
  by_contra holds_
  have inside := beyond.mp (Bool.not_eq_false _ ▸ holds_)
  omega

end Boundary

/-! ## Lists that can be searched -/

section Searchable

variable {α κ : Type} [LinearOrder κ] {items : List α} {key : α → κ}

/-- The keys are in order, so that a search gives the position of its target, and a
partition point separates the smaller keys from the others. -/
structure Searchable (items : List α) (key : α → κ) : Prop where
  ordered : (items.map key).Pairwise (· < ·)
  found_iff : ∀ target index,
    binarySearchByKey items key target = .found index ↔ (items.map key)[index]? = some target
  partition : ∀ target, SplitAt items (fun item => key item < target)
    (partitionPoint items fun item => key item < target)

theorem Searchable.of_ordered (ordered : (items.map key).Pairwise (· < ·)) :
    Searchable items key where
  ordered := ordered
  found_iff := by
    intro target index
    rw [List.getElem?_map, Option.map_eq_some_iff]
    constructor
    · intro found
      obtain ⟨item, hit, equal⟩ := binarySearchBy_found items _ index found
      exact ⟨item, hit, (cmp_eq_eq_iff _ _).mp equal⟩
    · rintro ⟨item, hit, rfl⟩
      exact binarySearchByKey_of_getElem? items key ordered index item hit
  partition := by
    intro target
    have closed : items.Pairwise fun first second =>
        decide (key second < target) = true → decide (key first < target) = true :=
      (List.pairwise_map.mp ordered).imp fun below less =>
        decide_eq_true (below.trans (of_decide_eq_true less))
    have split := splitAt_takeWhile closed
    rwa [partitionPoint_eq items _ _ (List.takeWhile_prefix _).length_le split]

end Searchable

/-! ## Extensions of a list -/

section Extensions

variable {α κ : Type} [LinearOrder κ]

/-- Between a list and one of its extensions there are only extensions. -/
theorem prefix_of_between {root first second : List κ} (least : root ≤ first)
    (before : first ≤ second) (extension : root <+: second) : root <+: first := by
  induction root generalizing first second with
  | nil => exact List.nil_prefix
  | cons name root ih =>
      obtain ⟨rest, rfl⟩ := extension
      cases first with
      | nil => exact absurd (List.nil_lt_cons ..) (not_lt_of_ge least)
      | cons other first =>
          have notLess := fun less => not_lt_of_ge least (List.cons_lt_cons_iff.mpr less)
          have notGreater := fun less => not_lt_of_ge before (List.cons_lt_cons_iff.mpr less)
          have same : other = name :=
            le_antisymm (not_lt.mp fun less => notGreater (.inl less))
              (not_lt.mp fun less => notLess (.inl less))
          subst same
          refine (List.prefix_cons_inj other).mpr (ih ?_ ?_ (List.prefix_append root rest))
          · exact not_lt.mp fun less => notLess (.inr ⟨rfl, less⟩)
          · exact not_lt.mp fun less => notGreater (.inr ⟨rfl, less⟩)

theorem le_of_extension {root extension : List κ} (inside : root <+: extension) : root ≤ extension := by
  obtain ⟨rest, rfl⟩ := inside
  induction root with
  | nil => exact not_lt.mp (List.not_lt_nil rest)
  | cons name root ih => exact List.cons_le_cons name ih

variable {key : α → List κ} {root : List κ} {items : List α}

/-- Ordered items from a list on start with its extensions. -/
theorem takeWhile_extensions (sorted : (items.map key).Pairwise (· ≤ ·))
    (least : ∀ item ∈ items, root ≤ key item) :
    items.takeWhile (fun item => root.isPrefixOf (key item)) =
      items.filter fun item => root.isPrefixOf (key item) := by
  induction items with
  | nil => rfl
  | cons first rest ih =>
      rw [List.map_cons, List.pairwise_cons] at sorted
      cases inside : root.isPrefixOf (key first) with
      | true =>
          rw [List.takeWhile_cons, List.filter_cons, if_pos inside, if_pos inside,
            ih sorted.2 fun item later => least item (List.mem_cons_of_mem first later)]
      | false =>
          have outside : ∀ item ∈ rest, root.isPrefixOf (key item) = false := by
            intro item later
            by_contra extension
            have between := prefix_of_between (least first (List.mem_cons_self ..))
              (sorted.1 (key item) (List.mem_map_of_mem later))
              (List.isPrefixOf_iff_prefix.mp (Bool.not_eq_false _ ▸ extension))
            rw [List.isPrefixOf_iff_prefix.mpr between] at inside
            cases inside
          rw [List.takeWhile_cons, List.filter_cons, inside, if_neg Bool.false_ne_true,
            if_neg Bool.false_ne_true, eq_comm, List.filter_eq_nil_iff]
          exact fun item later => by simp [outside item later]

/-- The extensions of a list are one range of ordered items, which starts where the list belongs. -/
theorem extensions_range (sorted : (items.map key).Pairwise (· ≤ ·)) :
    (items.drop (partitionPoint items fun item => key item < root)).takeWhile
        (fun item => root.isPrefixOf (key item)) =
      items.filter fun item => root.isPrefixOf (key item) := by
  have closed : items.Pairwise fun first second =>
      decide (key second < root) = true → decide (key first < root) = true := by
    refine (List.pairwise_map.mp sorted).imp fun before less => ?_
    exact decide_eq_true (before.trans_lt (of_decide_eq_true less))
  have whole := List.takeWhile_append_dropWhile (p := fun item => decide (key item < root)) (l := items)
  have none : (items.takeWhile fun item => decide (key item < root)).filter
      (fun item => root.isPrefixOf (key item)) = [] := by
    rw [List.filter_eq_nil_iff]
    intro item leading extension
    have leads := List.mem_takeWhile_imp leading
    have less := of_decide_eq_true leads
    exact absurd (le_of_extension (List.isPrefixOf_iff_prefix.mp extension)) (not_le_of_gt less)
  rw [drop_partitionPoint closed]
  have rest : ((items.dropWhile fun item => decide (key item < root)).map key).Pairwise (· ≤ ·) :=
    sorted.sublist ((List.dropWhile_sublist _).map key)
  rw [takeWhile_extensions rest]
  · conv_rhs => rw [← whole, List.filter_append, none, List.nil_append]
  · intro item later
    exact not_lt.mp (of_decide_eq_false (of_mem_dropWhile closed later))

end Extensions

end DamonRs.Library
