import DeviceCatalog.Proofs.Directory.Window
import DeviceCatalog.Proofs.SortedSet.Range

/-!
# Paging through a sorted set

A page of a sorted set is cut out either by the substrate, which is given the ranks of a window, or by
the directory, which slices a listing that it holds already. Both give the same page for every offset
and limit, however large, because nothing that is computed for a window leaves the range of machine
words or turns a position into a rank that counts from the end.
-/

namespace DeviceCatalog.Window

/-- The last rank of a window that takes some entries is computed as in unbounded numbers: the limit is
a number of entries, one less than it is no less than zero, the sum with the offset does not wrap, and
the result is a position at or after the offset, as a rank as well. -/
structure ExactStop (offset : UInt64) (limit : Int64) (stop : UInt64) : Prop where
  count : (limit.toUInt64.toNat : Int) = limit.toInt
  before : (limit.toUInt64 - 1).toNat + 1 = limit.toUInt64.toNat
  sum : (saturatingAdd offset (limit.toUInt64 - 1)).toNat =
    offset.toNat + (limit.toUInt64 - 1).toNat
  capped : stop.toNat = min (offset.toNat + (limit.toUInt64 - 1).toNat) (2 ^ 63 - 1)
  rank : stop.toInt64.toInt = stop.toNat
  ordered : offset.toNat ≤ stop.toNat
  span : (stop - offset).toNat + offset.toNat = stop.toNat
  taken : (stop - offset + 1).toNat = (stop - offset).toNat + 1

/-- What is computed for a window is exact, and a last rank that counts from the end is given for no
window but one without a limit. -/
structure Exact (offset : UInt64) (limit : Int64) (window : Window) : Prop where
  start : window.start = offset
  first : window.ranks.1.toInt = offset.toNat
  unlimited : limit = -1 → window.stop = none ∧ window.ranks.2 = -1
  limited : limit ≠ -1 → ∃ stop, window.stop = some stop ∧ window.ranks.2 = stop.toInt64 ∧
    ExactStop offset limit stop

variable {offset : UInt64} {limit : Int64} {window : Window}

theorem exactStop_lastRank (inRange : offset.toNat < 2 ^ 63) (positive : 0 < limit) :
    ExactStop offset limit (lastRank offset limit) := by
  have bound := limit.toInt_lt
  have some : 0 < limit.toInt := Int64.lt_iff_toInt_lt.1 positive
  have count := toNat_limit positive
  have before := toNat_limit_sub_one positive
  have sum := toNat_saturatingAdd offset (limit.toUInt64 - 1)
  have last := toNat_lastRank offset positive
  have span : (lastRank offset limit - offset).toNat =
      (lastRank offset limit).toNat - offset.toNat :=
    UInt64.toNat_sub_of_le _ _ (UInt64.le_iff_toNat_le.2 (by omega))
  constructor
  case count => omega
  case before => omega
  case sum => omega
  case capped => omega
  case rank => exact toInt_toInt64 (by omega)
  case ordered => omega
  case span => omega
  case taken =>
    rw [toNat_taken inRange positive]
    omega

theorem exact_of_resolve (resolved : resolve offset limit = .ok (some window)) :
    Exact offset limit window := by
  obtain ⟨inRange, ⟨rfl, rfl⟩ | ⟨positive, rfl⟩⟩ := of_resolve_eq_some resolved
  · exact ⟨rfl, toInt_toInt64 inRange, fun _ => ⟨rfl, rfl⟩, fun limited => absurd rfl limited⟩
  · refine ⟨rfl, toInt_toInt64 inRange, ?_, fun _ => ⟨_, rfl, rfl, exactStop_lastRank inRange positive⟩⟩
    rintro rfl
    exact absurd positive (by decide)

/-- The window of an offset and a limit, and the page of a sorted set that it stands for. There is no
window exactly when the offset is no rank or the limit is below `-1`, and it is empty exactly when nothing
is asked for. Otherwise the ranks of the window select what the window covers of the full descending
listing: the entries after the first `offset`, all of them for the limit `-1` and `limit` of them
else. -/
theorem revRange_ranks (set : SortedSet) (small : set.size < 2 ^ 63) (offset : UInt64)
    (limit : Int64) :
    ((∃ failure, resolve offset limit = .error failure) ↔ 2 ^ 63 ≤ offset.toNat ∨ limit < -1) ∧
      (resolve offset limit = .ok none ↔
        (¬ ∃ failure, resolve offset limit = .error failure) ∧ limit = 0) ∧
      ∀ window, resolve offset limit = .ok (some window) →
        set.revRange 0 (-1) = set.members.reverse ∧
        set.revRange window.ranks.1 window.ranks.2 = window.slice (set.revRange 0 (-1)) ∧
        window.slice (set.revRange 0 (-1)) =
          (if limit = -1 then (set.revRange 0 (-1)).drop offset.toNat
            else ((set.revRange 0 (-1)).drop offset.toNat).take limit.toInt.toNat) ∧
        Exact offset limit window ∧ Rank.Exact set.size window.ranks.1 window.ranks.2 := by
  have listed : set.members.reverse.length < 2 ^ 63 := by
    rwa [List.length_reverse, SortedSet.length_members]
  have full : set.revRange 0 (-1) = set.members.reverse := by
    rw [SortedSet.revRange_eq, Rank.select_all listed]
  refine ⟨?refused, ?nothing, fun window resolved => ⟨full, ?ranks, ?entries, exact_of_resolve resolved,
    Rank.exact_of_small small _ _⟩⟩
  case refused =>
    obtain ⟨refused, reason, found⟩ | ⟨inRange, ⟨rfl, found⟩ | ⟨rfl, found⟩ | ⟨positive, found⟩⟩ :=
      resolve_cases offset limit
    · exact iff_of_true ⟨_, found⟩ refused
    · have above : ¬ (0 : Int64) < -1 := by decide
      exact iff_of_false (by simp [found]) (not_or.2 ⟨Nat.not_le.2 inRange, above⟩)
    · have above : ¬ (-1 : Int64) < -1 := by decide
      exact iff_of_false (by simp [found]) (not_or.2 ⟨Nat.not_le.2 inRange, above⟩)
    · have above : ¬ limit < -1 := fun below =>
        absurd (Int64.lt_trans positive below) (by decide)
      exact iff_of_false (by simp [found]) (not_or.2 ⟨Nat.not_le.2 inRange, above⟩)
  case nothing =>
    obtain ⟨_, _, found⟩ | ⟨_, ⟨rfl, found⟩ | ⟨rfl, found⟩ | ⟨positive, found⟩⟩ :=
      resolve_cases offset limit
    · simp [found]
    · simp [found]
    · simp [found]
    · have some : limit ≠ 0 := by
        rintro rfl
        exact absurd positive (by decide)
      simp [found, some]
  case ranks => rw [full, SortedSet.revRange_eq, select_ranks resolved listed]
  case entries =>
    obtain ⟨inRange, ⟨rfl, rfl⟩ | ⟨positive, rfl⟩⟩ := of_resolve_eq_some resolved
    · rfl
    · have limited : limit ≠ -1 := by
        rintro rfl
        exact absurd positive (by decide)
      rw [full, if_neg limited, slice_limited listed inRange positive]

/-- The largest limit after an offset of one: the last rank is the largest one, and the page ends with the
listing. -/
theorem revRange_ranks_largest :
    let set := SortedSet.replay [.insert "b" .zero, .insert "a" .zero]
    let window : Window := ⟨1, some largestRank⟩
    set.size < 2 ^ 63 ∧ resolve 1 Int64.maxValue = .ok (some window) ∧
      set.revRange window.ranks.1 window.ranks.2 = ["a"] ∧ window.slice ["b", "a"] = ["a"] := by
  intro set window
  have small : set.size < 2 ^ 63 := by decide
  have resolved : resolve 1 Int64.maxValue = .ok (some window) := by rfl
  have limited : Int64.maxValue ≠ -1 := by decide
  have listed : set.members.reverse = ["b", "a"] := by decide
  obtain ⟨full, ranks, entries, _⟩ := (revRange_ranks set small 1 Int64.maxValue).2.2 window resolved
  rw [full, listed] at ranks entries
  rw [if_neg limited] at entries
  exact ⟨small, resolved, ranks.trans entries, entries⟩

end DeviceCatalog.Window
