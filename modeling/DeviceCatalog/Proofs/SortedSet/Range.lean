import DeviceCatalog.Proofs.SortedSet.Replay

/-!
# Ranges of a sorted set

A range of ranks is the part of the listing whose ranks lie between two numbers, where a negative rank
has the size of the set added to it. This is said in unbounded integers: for a set that fits into memory
no sum leaves the machine range, so that a descending range is an ascending one with both ends counted
from the other side.
-/

namespace DeviceCatalog

namespace Rank

/-- The entries of a listing whose ranks, counted from zero, lie between two numbers. -/
def between {entry : Type} (listing : List entry) (low high : Int) : List entry :=
  (listing.zipIdx.filter fun ranked => low ≤ ranked.2 ∧ ranked.2 ≤ high).map Prod.fst

/-- The rank that counts from the other end. -/
def mirrored (rank : Int64) : Int64 := -rank - 1

/-- What a rank range computes in machine words is what it stands for in unbounded integers. -/
structure Exact (count : Nat) (first last : Int64) : Prop where
  length : (Int64.ofNat count).toInt = count
  start : first < 0 → (Int64.ofNat count + first).toInt = count + first.toInt
  stop : last < 0 → (Int64.ofNat count + last).toInt = count + last.toInt
  final : (Int64.ofNat count - 1).toInt = count - 1
  positions : ∀ start stop, span? count first last = some (start, stop) →
    (start : Int) = low count first ∧ (stop : Int) = high count last ∧ start ≤ stop ∧ stop < count

variable {entry : Type} {count : Nat}

/-! ## Ranks between two numbers -/

theorem filter_zipIdx (listing : List entry) (start : Nat) (low high : Int) :
    ((listing.zipIdx start).filter fun ranked => low ≤ ranked.2 ∧ ranked.2 ≤ high).map Prod.fst =
      (listing.drop (low - start).toNat).take (high - max (start : Int) low + 1).toNat := by
  induction listing generalizing start with
  | nil => simp
  | cons head rest ih =>
      rw [List.zipIdx_cons, List.filter_cons]
      by_cases before : (start : Int) < low
      · have skipped : (low - start).toNat = (low - (start + 1 : Nat)).toNat + 1 := by omega
        have later : max ((start + 1 : Nat) : Int) low = max (start : Int) low := by omega
        rw [if_neg (by simp; omega), ih, skipped, later, List.drop_succ_cons]
      · have none : (low - start).toNat = 0 := by omega
        have noneLater : (low - (start + 1 : Nat)).toNat = 0 := by omega
        by_cases within : (start : Int) ≤ high
        · have one : (high - max (start : Int) low + 1).toNat =
              (high - max ((start + 1 : Nat) : Int) low + 1).toNat + 1 := by omega
          rw [if_pos (by simp; omega), List.map_cons, ih, none, noneLater, one]
          rfl
        · have nothing : (high - max (start : Int) low + 1).toNat = 0 := by omega
          have nothingLater : (high - max ((start + 1 : Nat) : Int) low + 1).toNat = 0 := by omega
          rw [if_neg (by simp; omega), ih, nothing, nothingLater, List.take_zero, List.take_zero]

/-- The ranks between two numbers come one after another. -/
theorem between_eq (listing : List entry) (low high : Int) :
    between listing low high =
      (listing.drop low.toNat).take (high - max 0 low + 1).toNat := by
  have counted := filter_zipIdx listing 0 low high
  rwa [Int.natCast_zero, Int.sub_zero] at counted

theorem zipIdx_reverse (listing : List entry) :
    listing.reverse.zipIdx =
      (listing.zipIdx.map fun ranked => (ranked.1, listing.length - 1 - ranked.2)).reverse := by
  induction listing with
  | nil => rfl
  | cons head rest ih =>
      have others : (rest.zipIdx 1).map
            (fun ranked => (ranked.1, (head :: rest).length - 1 - ranked.2)) =
          rest.zipIdx.map fun ranked => (ranked.1, rest.length - 1 - ranked.2) := by
        rw [List.zipIdx_succ, List.map_map]
        refine List.map_congr_left fun ranked _ => ?_
        simp only [Function.comp, List.length_cons]
        congr 1
        omega
      rw [List.reverse_cons, List.zipIdx_append, ih, ← others]
      simp

/-- Of a reversed listing the same entries lie between the mirrored numbers, in reversed order. -/
theorem between_reverse (listing : List entry) (low high : Int) :
    between listing.reverse low high =
      (between listing (listing.length - 1 - high) (listing.length - 1 - low)).reverse := by
  rw [between, between, zipIdx_reverse, List.filter_reverse, List.filter_map, List.map_reverse,
    List.map_map]
  congr 2
  refine List.filter_congr fun ranked listed => ?_
  have bound := List.snd_lt_of_mem_zipIdx listed
  simp only [Function.comp, decide_eq_decide]
  omega

/-! ## Rank ranges -/

theorem select_eq_between {listing : List entry} (small : listing.length < 2 ^ 63)
    (first last : Int64) :
    select listing first last =
      between listing (place listing.length first) (place listing.length last) := by
  have start : (low listing.length first).toNat = (place listing.length first).toNat := by
    rw [low]
    omega
  rw [select_eq small, between_eq, start, low]

theorem toInt_mirrored (rank : Int64) : (mirrored rank).toInt = -rank.toInt - 1 := by
  have lower := rank.le_toInt
  have upper := rank.toInt_lt
  rw [mirrored, ← Int64.not_eq_neg_sub, Int64.toInt_not]
  apply Int.bmod_eq_of_le <;> omega

/-- A rank and its mirrored one stand for places that are equally far from the two ends. -/
theorem place_mirrored (count : Nat) (rank : Int64) :
    place count (mirrored rank) = count - 1 - place count rank := by
  have opposite := toInt_mirrored rank
  simp only [place, negative_iff, opposite]
  split <;> split <;> omega

/-- For a listing that fits into memory no sum of a rank range leaves the machine range. -/
theorem exact_of_small (small : count < 2 ^ 63) (first last : Int64) : Exact count first last where
  length := Int64.toInt_ofNat_of_lt small
  start := toInt_length_add small
  stop := toInt_length_add small
  final := toInt_length_sub_one small
  positions start stop selected := by
    have nonnegative : 0 ≤ low count first := Int.le_max_left _ _
    have inside : high count last ≤ count - 1 := Int.min_le_right _ _
    rw [span?_eq small] at selected
    split at selected
    next ordered =>
      cases selected
      omega
    next => cases selected

end Rank

namespace SortedSet

/-- The ranges of a sorted set that fits into memory, ascending and descending, for all pairs of ranks.
A range is the part of the listing that lies between the places of its ranks, a descending range is the
ascending one of the mirrored ranks, reversed, and nothing overflows on the way. -/
theorem range_eq_between (set : SortedSet) (small : set.size < 2 ^ 63) (first last : Int64) :
    set.range first last =
        Rank.between set.members (Rank.place set.size first) (Rank.place set.size last) ∧
      set.revRange first last =
        Rank.between set.members.reverse (Rank.place set.size first) (Rank.place set.size last) ∧
      set.revRange first last = (set.range (Rank.mirrored last) (Rank.mirrored first)).reverse ∧
      (Rank.mirrored first).toInt = -first.toInt - 1 ∧
      (Rank.mirrored last).toInt = -last.toInt - 1 ∧
      Rank.Exact set.size first last := by
  have listed : set.members.length < 2 ^ 63 := by rwa [length_members]
  have reversed : set.members.reverse.length < 2 ^ 63 := by rwa [List.length_reverse]
  have ascending (first last : Int64) : set.range first last =
      Rank.between set.members (Rank.place set.size first) (Rank.place set.size last) := by
    rw [range_eq, Rank.select_eq_between listed, length_members]
  have descending : set.revRange first last =
      Rank.between set.members.reverse (Rank.place set.size first) (Rank.place set.size last) := by
    rw [revRange_eq, Rank.select_eq_between reversed, List.length_reverse, length_members]
  refine ⟨ascending first last, descending, ?_, Rank.toInt_mirrored first, Rank.toInt_mirrored last,
    Rank.exact_of_small small first last⟩
  rw [descending, ascending, Rank.between_reverse, Rank.place_mirrored, Rank.place_mirrored,
    length_members]

/-- The widest range that there is lists everything, in both directions. -/
theorem range_eq_between_widest :
    (replay [.insert "b" .zero, .insert "a" .zero]).size < 2 ^ 63 ∧
      (replay [.insert "b" .zero, .insert "a" .zero]).range Int64.minValue Int64.maxValue = ["a", "b"] ∧
      (replay [.insert "b" .zero, .insert "a" .zero]).revRange Int64.minValue Int64.maxValue =
        ["b", "a"] := by
  have small : (replay [.insert "b" .zero, .insert "a" .zero]).size < 2 ^ 63 := by decide
  have ascending : Rank.between (replay [.insert "b" .zero, .insert "a" .zero]).members
      (Rank.place 2 Int64.minValue) (Rank.place 2 Int64.maxValue) = ["a", "b"] := by decide
  have descending : Rank.between (replay [.insert "b" .zero, .insert "a" .zero]).members.reverse
      (Rank.place 2 Int64.minValue) (Rank.place 2 Int64.maxValue) = ["b", "a"] := by decide
  have ranges := range_eq_between _ small Int64.minValue Int64.maxValue
  exact ⟨small, ranges.1.trans ascending, ranges.2.1.trans descending⟩

end SortedSet

end DeviceCatalog
