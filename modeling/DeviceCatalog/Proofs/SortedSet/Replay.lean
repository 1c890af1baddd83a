import DeviceCatalog.Proofs.Score.TotalOrder
import DeviceCatalog.Proofs.SortedSet
import DeviceCatalog.Proofs.Text
import Mathlib.Data.List.Induction

/-!
# What a sorted set holds after any changes

A sorted set that has come about by insertions and removals holds each member with the score of the
last change that was about it. Its two collections never drift apart, whatever the scores are: the
ordered listing has one entry for each member, also where a score was replaced by one that is equal as
a number, or is no number at all.
-/

namespace DeviceCatalog.SortedSet

/-- A change of a sorted set. -/
inductive Change where
  | insert (member : String) (score : Score)
  | erase (member : String)
deriving DecidableEq, Repr

namespace Change

/-- The member that a change is about. -/
def member : Change → String
  | insert member _ => member
  | erase member => member

/-- The score that a change leaves its member with. -/
def score? : Change → Option Score
  | insert _ score => some score
  | erase _ => none

/-- The set after a change. -/
def apply (set : SortedSet) : Change → SortedSet
  | insert member score => (set.insert member score).2
  | erase member => (set.erase member).2

end Change

/-- The set that changes make of the empty set, in their order. -/
def replay (changes : List Change) : SortedSet := changes.foldl Change.apply .empty

/-- The score that the last change about a member has left it with, if any. -/
def lastScore? (changes : List Change) (member : String) : Option Score :=
  (changes.reverse.find? (·.member = member)).bind Change.score?

/-- One pair stands before another one: the scores are in the total order of the floating-point
standard, and for equal scores the members are in the order of their bytes. -/
def Ascends (left right : Score × String) : Prop :=
  left.1.Precedes right.1 ∨ left.1 = right.1 ∧ Bytes.ofText left.2 < Bytes.ofText right.2

/-- The set holds exactly these members and scores, in both of its collections. -/
structure Represents (set : SortedSet) (scores : String → Option Score) : Prop where
  score : ∀ member, set.score? member = scores member
  listed : ∀ score member, (score, member) ∈ set.entries ↔ scores member = some score
  once : set.members.Nodup
  ascending : set.entries.Pairwise Ascends
  size : set.size = set.entries.length
  isEmpty : set.isEmpty = set.entries.isEmpty

variable {set : SortedSet}

/-! ## One change -/

theorem ascends_iff {left right : Score × String} : Ascends left right ↔ Before left right := by
  rw [Ascends, before_iff, Score.precedes_iff_rank_lt, Text.ofText_lt_iff]
  refine or_congr_right (and_congr_left fun _ => ⟨?_, Score.rank_injective⟩)
  exact congrArg Score.rank

theorem length_entries (set : SortedSet) : set.entries.length = set.size := by
  rw [← length_members, members, List.length_map]

/-- A set whose members have these scores represents them. -/
theorem represents_of_score? {scores : String → Option Score}
    (same : ∀ member, set.score? member = scores member) : set.Represents scores where
  score := same
  listed score member := by rw [mem_entries_iff, same]
  once := set.nodup_members
  ascending := set.pairwise_entries.imp ascends_iff.2
  size := set.length_entries.symm
  isEmpty := by
    rw [isEmpty_eq, ← length_entries, Bool.eq_iff_iff, beq_iff_eq, List.isEmpty_iff,
      List.length_eq_zero_iff]

/-- A change leaves its member with its score, and all other members as they were. -/
theorem score?_apply (set : SortedSet) (change : Change) (member : String) :
    (change.apply set).score? member =
      if change.member = member then change.score? else set.score? member := by
  cases change with
  | insert added score => exact set.score?_insert added member score
  | erase removed => exact set.score?_erase removed member

/-- An insertion says whether the member is new. -/
theorem insert_eq_true_iff {member : String} {score : Score} :
    (set.insert member score).1 = true ↔ set.score? member = none := by
  unfold insert score?
  split
  next previous present => simp [present]
  next absent => simp [absent]

/-- A removal says whether the member was there. -/
theorem erase_eq_true_iff {member : String} :
    (set.erase member).1 = true ↔ set.score? member ≠ none := by
  unfold erase score?
  split
  next previous present => simp [present]
  next absent => simp [absent]

/-! ## All changes -/

theorem replay_concat (changes : List Change) (change : Change) :
    replay (changes ++ [change]) = change.apply (replay changes) := by
  rw [replay, List.foldl_append]
  rfl

theorem lastScore?_concat (changes : List Change) (change : Change) (member : String) :
    lastScore? (changes ++ [change]) member =
      if change.member = member then change.score? else lastScore? changes member := by
  rw [lastScore?, List.reverse_append, List.reverse_singleton, List.singleton_append,
    List.find?_cons]
  by_cases same : change.member = member
  · simp [same]
  · simp [same, lastScore?]

theorem score?_replay (changes : List Change) (member : String) :
    (replay changes).score? member = lastScore? changes member := by
  induction changes using List.reverseRecOn with
  | nil => exact score?_empty member
  | append_singleton changes change ih =>
      rw [replay_concat, score?_apply, lastScore?_concat, ih]

/-- After any insertions and removals, with any scores, a sorted set represents what the last changes
have left its members with. An insertion then answers whether its member is new, and a removal whether
its member is there. -/
theorem represents_replay (changes : List Change) :
    (replay changes).Represents (lastScore? changes) ∧
      (∀ member score, ((replay changes).insert member score).1 = true ↔
        lastScore? changes member = none) ∧
      ∀ member, ((replay changes).erase member).1 = true ↔ lastScore? changes member ≠ none := by
  refine ⟨represents_of_score? (score?_replay changes), fun member score => ?_, fun member => ?_⟩
  · rw [insert_eq_true_iff, score?_replay]
  · rw [erase_eq_true_iff, score?_replay]

/-- A member moves from the negative zero to the positive one, and another one is no number. -/
example :
    (replay [.insert "a" ⟨0x8000000000000000⟩, .insert "b" ⟨0x7FF8000000000000⟩, .insert "c" .zero,
      .insert "a" .zero, .erase "c"]).entries = [(.zero, "a"), (⟨0x7FF8000000000000⟩, "b")] := by
  decide

end DeviceCatalog.SortedSet
