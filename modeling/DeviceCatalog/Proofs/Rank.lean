import DeviceCatalog.SortedSet
import Mathlib.Algebra.Group.Int.Defs
import Mathlib.Algebra.Group.Nat.Defs

/-!
# Rank ranges in unbounded integers

The positions that a rank range selects, without machine words: for a listing that fits into memory
none of the sums of `Rank.span?` leaves the machine range, whatever the two ranks are.
-/

namespace DeviceCatalog.Rank

/-- The position that a rank stands for; a negative rank counts from the end. -/
def place (count : Nat) (rank : Int64) : Int :=
  if rank < 0 then count + rank.toInt else rank.toInt

/-- The first position of a range. -/
def low (count : Nat) (first : Int64) : Int := max 0 (place count first)

/-- The last position of a range. -/
def high (count : Nat) (last : Int64) : Int := min (place count last) (count - 1)

variable {count : Nat} {rank : Int64}

theorem negative_iff : rank < 0 ↔ rank.toInt < 0 := Int64.lt_iff_toInt_lt

theorem toInt_length_add (small : count < 2 ^ 63) (negative : rank < 0) :
    (Int64.ofNat count + rank).toInt = count + rank.toInt := by
  have lower := rank.le_toInt
  have upper := negative_iff.1 negative
  rw [Int64.toInt_add, Int64.toInt_ofNat_of_lt small]
  apply Int.bmod_eq_of_le <;> omega

theorem toInt_length_sub_one (small : count < 2 ^ 63) :
    (Int64.ofNat count - 1).toInt = count - 1 := by
  have one : (1 : Int64).toInt = 1 := rfl
  rw [Int64.toInt_sub, Int64.toInt_ofNat_of_lt small, one]
  apply Int.bmod_eq_of_le <;> omega

theorem toInt_start (small : count < 2 ^ 63) (first : Int64) :
    (if first < 0 then
        if Int64.ofNat count + first < 0 then 0 else Int64.ofNat count + first
      else first).toInt = low count first := by
  rw [low, place]
  split
  next negative =>
    rw [← toInt_length_add small negative]
    split
    next before =>
      have zero : (0 : Int64).toInt = 0 := rfl
      rw [Int.max_eq_left (Int.le_of_lt (negative_iff.1 before)), zero]
    next within =>
      rw [negative_iff] at within
      rw [Int.max_eq_right (Int.not_lt.1 within)]
  next ascending =>
    rw [negative_iff] at ascending
    rw [Int.max_eq_right (Int.not_lt.1 ascending)]

theorem toInt_stop (small : count < 2 ^ 63) (last : Int64) :
    (if last < 0 then Int64.ofNat count + last
      else if last < Int64.ofNat count - 1 then last
      else Int64.ofNat count - 1).toInt = high count last := by
  rw [high, place]
  split
  next negative =>
    have upper := negative_iff.1 negative
    rw [toInt_length_add small negative, Int.min_eq_left (by omega)]
  next =>
    split
    next inside =>
      rw [Int64.lt_iff_toInt_lt, toInt_length_sub_one small] at inside
      rw [Int.min_eq_left (Int.le_of_lt inside)]
    next beyond =>
      rw [Int64.lt_iff_toInt_lt, toInt_length_sub_one small] at beyond
      rw [toInt_length_sub_one small, Int.min_eq_right (Int.not_lt.1 beyond)]

/-- A range selects the positions between the places of its two ranks. -/
theorem span?_eq (small : count < 2 ^ 63) (first last : Int64) :
    span? count first last =
      if low count first ≤ high count last then
        some ((low count first).toNat, (high count last).toNat)
      else none := by
  have nonnegative : 0 ≤ low count first := Int.le_max_left _ _
  have inside : high count last ≤ count - 1 := Int.min_le_right _ _
  by_cases vacant : count = 0
  · rw [span?, if_pos vacant, if_neg (by omega)]
  · have start := toInt_start small first
    have stop := toInt_stop small last
    rw [span?, if_neg vacant]
    dsimp only
    generalize (if first < 0 then _ else first : Int64) = startWord at start ⊢
    generalize (if last < 0 then _ else _ : Int64) = stopWord at stop ⊢
    rw [← stop] at inside
    rw [← start, ← stop]
    by_cases selects : startWord.toInt ≤ stopWord.toInt
    · rw [if_pos selects, if_neg, ← Int64.toNat_toInt, ← Int64.toNat_toInt]
      rw [Int64.lt_iff_toInt_lt, Int64.le_iff_toInt_le, Int64.toInt_ofNat_of_lt small]
      omega
    · rw [if_neg selects, if_pos]
      exact .inl (Int64.lt_iff_toInt_lt.2 (Int.not_le.1 selects))

/-- The entries of a listing at the ranks `first` to `last`. -/
def select {entry : Type} (listing : List entry) (first last : Int64) : List entry :=
  match span? listing.length first last with
  | some (start, stop) => (listing.drop start).take (stop - start + 1)
  | none => []

/-- A range drops what stands before its first position and keeps as many entries as it has
positions. -/
theorem select_eq {entry : Type} {listing : List entry} (small : listing.length < 2 ^ 63)
    (first last : Int64) :
    select listing first last =
      (listing.drop (low listing.length first).toNat).take
        (place listing.length last - low listing.length first + 1).toNat := by
  have nonnegative : 0 ≤ low listing.length first := Int.le_max_left _ _
  have inside : high listing.length last ≤ place listing.length last := Int.min_le_left _ _
  rw [select, span?_eq small]
  split
  next start stop selected =>
    split at selected
    next selects =>
      cases selected
      rw [List.take_eq_take_iff, List.length_drop]
      rw [high] at selects inside ⊢
      omega
    next => cases selected
  next vacant =>
    split at vacant
    next => cases vacant
    next empty =>
      rw [high] at empty
      symm
      rw [List.take_eq_nil_iff, List.drop_eq_nil_iff]
      omega

/-- The ranks from the first to the last select everything. -/
theorem select_all {entry : Type} {listing : List entry} (small : listing.length < 2 ^ 63) :
    select listing 0 (-1) = listing := by
  have first : low listing.length 0 = 0 := rfl
  have last : place listing.length (-1) = listing.length - 1 := rfl
  rw [select_eq small, first, last, Int.toNat_zero, List.drop_zero]
  exact List.take_of_length_le (by omega)

end DeviceCatalog.Rank
