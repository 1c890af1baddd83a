import DeviceCatalog.Proofs.Rank
import DeviceCatalog.SortedSet
import Mathlib.Data.List.Perm.Basic
import Mathlib.Data.List.Nodup

/-!
# Listings of a sorted set

The listing of a sorted set has each member once and ascends strictly, so it is the only strictly
ascending list of the pairs of the set, and a range of ranks is a range of this listing.
-/

namespace DeviceCatalog.SortedSet

variable {set : SortedSet}

/-- One pair stands before another one. -/
def Before (left right : Score × String) : Prop := order left right = .lt

theorem before_iff {left right : Score × String} :
    Before left right ↔
      left.1.rank < right.1.rank ∨ left.1.rank = right.1.rank ∧ left.2 < right.2 := by
  have lex : order left right =
      (compare left.1.rank right.1.rank).then (compareOfLessAndEq left.2 right.2) := rfl
  rw [Before, lex, Ordering.then_eq_lt, Nat.compare_eq_lt, Nat.compare_eq_eq,
    compareOfLessAndEq_eq_lt]

theorem before_asymm {left right : Score × String} (before : Before left right) :
    ¬ Before right left := Std.OrientedCmp.not_lt_of_lt before

theorem before_irrefl (pair : Score × String) : ¬ Before pair pair :=
  fun before => before_asymm before before

theorem pairwise_entries (set : SortedSet) : set.entries.Pairwise Before :=
  Std.ExtTreeSet.ordered_toList

theorem nodup_of_pairwise {pairs : List (Score × String)} (ordered : pairs.Pairwise Before) :
    pairs.Nodup := by
  refine ordered.imp fun before same => ?_
  subst same
  exact before_irrefl _ before

/-- The listing is the only ascending list of the pairs of the set. -/
theorem eq_entries {pairs : List (Score × String)} (ordered : pairs.Pairwise Before)
    (same : ∀ score member, (score, member) ∈ pairs ↔ set.score? member = some score) :
    pairs = set.entries := by
  have permuted : pairs.Perm set.entries := by
    rw [List.perm_ext_iff_of_nodup (nodup_of_pairwise ordered)
      (nodup_of_pairwise set.pairwise_entries)]
    rintro ⟨score, member⟩
    rw [same, mem_entries_iff]
  refine permuted.eq_of_pairwise (fun left right _ _ before after => ?_) ordered
    set.pairwise_entries
  exact absurd after (before_asymm before)

theorem nodup_members (set : SortedSet) : set.members.Nodup := by
  refine (List.nodup_map_iff_inj_on (nodup_of_pairwise set.pairwise_entries)).2 ?_
  rintro ⟨score, member⟩ left ⟨otherScore, other⟩ right rfl
  rw [mem_entries_iff] at left right
  rw [left] at right
  rw [Option.some.inj right]

theorem mem_members {member : String} : member ∈ set.members ↔ (set.score? member).isSome := by
  rw [members, List.mem_map, Option.isSome_iff_exists]
  constructor
  · rintro ⟨⟨score, other⟩, listed, rfl⟩
    exact ⟨score, (mem_entries_iff set score other).1 listed⟩
  · rintro ⟨score, scored⟩
    exact ⟨(score, member), (mem_entries_iff set score member).2 scored, rfl⟩

/-- The listing is as long as the set counts members. -/
theorem length_members (set : SortedSet) : set.members.length = set.size := by
  have permuted : set.members.Perm set.scores.keys := by
    have distinct : set.scores.keys.Nodup := by
      simpa [List.Nodup] using set.scores.distinct_keys
    rw [List.perm_ext_iff_of_nodup set.nodup_members distinct]
    intro member
    rw [mem_members, score?, Std.ExtTreeMap.mem_keys, Std.ExtTreeMap.mem_iff_isSome_getElem?]
  rw [permuted.length_eq, Std.ExtTreeMap.length_keys, size]

theorem range_eq (first last : Int64) :
    set.range first last = Rank.select set.members first last := by
  rw [range, ← length_members]
  rfl

theorem revRange_eq (first last : Int64) :
    set.revRange first last = Rank.select set.members.reverse first last := by
  rw [revRange, ← length_members, ← List.length_reverse]
  rfl

theorem mem_of_mem_revRange {first last : Int64} {member : String}
    (listed : member ∈ set.revRange first last) : member ∈ set.members := by
  rw [revRange] at listed
  split at listed
  next => exact List.mem_reverse.1 (List.mem_of_mem_drop (List.mem_of_mem_take listed))
  next => cases listed

end DeviceCatalog.SortedSet
