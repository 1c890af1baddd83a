import DeviceCatalog.Score
import DeviceCatalog.Text

/-!
# Sorted sets

A sorted set holds distinct members, each with a score, and lists them ascending by score and, where
scores are equal, by member. It keeps two collections in step: a map from members to scores, which
answers questions about one member, and an ordered collection of score and member pairs, which
answers questions about ranks. The invariant `inStep` says that the two describe the same pairs, so
an entry is found again in the ordered collection by the score that the map holds for it.

A range of the listing is asked for by its first and last rank, both inclusive and both machine
integers; a negative rank counts from the end, so `-1` is the last member. Ranks before the first
member are moved to it at the low end only: a range that ends before the first member is empty.
`Rank.span?` works in machine words, as the ranks do, so that its own sums can be shown not to overflow.
-/

namespace DeviceCatalog

/-- The first and last position that a rank range selects in a listing of `count` members, or none
when it selects nothing. -/
def Rank.span? (count : Nat) (first last : Int64) : Option (Nat × Nat) :=
  if count = 0 then none
  else
    let length := Int64.ofNat count
    let start :=
      if first < 0 then
        if length + first < 0 then 0 else length + first
      else first
    let stop :=
      if last < 0 then length + last
      else if last < length - 1 then last
      else length - 1
    if stop < start ∨ length ≤ start then none
    else some (start.toNatClampNeg, stop.toNatClampNeg)

namespace SortedSet

/-- Pairs are ordered by score first, then by member. -/
abbrev order : Score × String → Score × String → Ordering := @compare _ lexOrd

instance : Std.TransCmp order :=
  let _ := @lexOrd Score String _ _
  inferInstanceAs (Std.TransOrd (Score × String))

instance : Std.LawfulEqCmp order :=
  let _ := @lexOrd Score String _ _
  inferInstanceAs (Std.LawfulEqOrd (Score × String))

end SortedSet

/-- Scored members, by member and in rank order. -/
structure SortedSet where
  /-- The score of each member. -/
  scores : Text.Map Score
  /-- The same pairs in rank order. -/
  ordered : Std.ExtTreeSet (Score × String) SortedSet.order
  /-- Both collections hold the same pairs. -/
  inStep : ∀ score member, (score, member) ∈ ordered ↔ scores[member]? = some score

namespace SortedSet

/-- The set without members. -/
def empty : SortedSet where
  scores := ∅
  ordered := ∅
  inStep := by simp

instance : Inhabited SortedSet := ⟨empty⟩

/-- The score of a member. -/
def score? (set : SortedSet) (member : String) : Option Score := set.scores[member]?

/-- How many members there are. -/
def size (set : SortedSet) : Nat := set.scores.size

/-- Whether there is no member. -/
def isEmpty (set : SortedSet) : Bool := set.scores.isEmpty

/-- Pairs of score and member, ascending. -/
def entries (set : SortedSet) : List (Score × String) := set.ordered.toList

/-- Members, ascending. -/
def members (set : SortedSet) : List String := set.entries.map Prod.snd

/-- Adds a member or gives it a new score; the answer also says whether the member is new. The pair
that the member had before leaves the ordered collection. -/
def insert (set : SortedSet) (member : String) (score : Score) : Bool × SortedSet :=
  match old : set.scores[member]? with
  | some previous =>
    (false,
      { scores := set.scores.insert member score
        ordered := (set.ordered.erase (previous, member)).insert (score, member)
        inStep := by
          intro otherScore other
          simp only [Std.ExtTreeSet.mem_insert, Std.ExtTreeSet.mem_erase, set.inStep,
            Std.ExtTreeMap.getElem?_insert, Std.LawfulEqCmp.compare_eq_iff_eq, Prod.mk.injEq]
          grind })
  | none =>
    (true,
      { scores := set.scores.insert member score
        ordered := set.ordered.insert (score, member)
        inStep := by
          intro otherScore other
          simp only [Std.ExtTreeSet.mem_insert, set.inStep,
            Std.ExtTreeMap.getElem?_insert, Std.LawfulEqCmp.compare_eq_iff_eq, Prod.mk.injEq]
          grind })

/-- Removes a member; the answer also says whether the member was there. -/
def erase (set : SortedSet) (member : String) : Bool × SortedSet :=
  match old : set.scores[member]? with
  | some previous =>
    (true,
      { scores := set.scores.erase member
        ordered := set.ordered.erase (previous, member)
        inStep := by
          intro otherScore other
          simp only [Std.ExtTreeSet.mem_erase, set.inStep, Std.ExtTreeMap.getElem?_erase,
            Std.LawfulEqCmp.compare_eq_iff_eq, Prod.mk.injEq, ne_eq]
          by_cases same : member = other
          · rw [← same, old]
            simp
          · simp [same] })
  | none => (false, set)

/-- Members at the ranks `first` to `last`, ascending. -/
def range (set : SortedSet) (first last : Int64) : List String :=
  match Rank.span? set.size first last with
  | some (start, stop) => (set.members.drop start).take (stop - start + 1)
  | none => []

/-- Members at the ranks `first` to `last` of the descending listing. -/
def revRange (set : SortedSet) (first last : Int64) : List String :=
  match Rank.span? set.size first last with
  | some (start, stop) => (set.members.reverse.drop start).take (stop - start + 1)
  | none => []

/-- A set is known from the scores of its members. -/
theorem ext_score? {left right : SortedSet}
    (same : ∀ member, left.score? member = right.score? member) : left = right := by
  have scores : left.scores = right.scores := Std.ExtTreeMap.ext_getElem? same
  have ordered : left.ordered = right.ordered := by
    apply Std.ExtTreeSet.ext_mem
    rintro ⟨score, member⟩
    rw [left.inStep, right.inStep, scores]
  cases left
  cases right
  simp_all

@[simp] theorem score?_empty (member : String) : empty.score? member = none := by
  simp [empty, score?]

@[simp] theorem score?_insert (set : SortedSet) (member other : String) (score : Score) :
    (set.insert member score).2.score? other =
      if member = other then some score else set.score? other := by
  unfold insert score?
  split <;> simp [Std.ExtTreeMap.getElem?_insert]

@[simp] theorem score?_erase (set : SortedSet) (member other : String) :
    (set.erase member).2.score? other = if member = other then none else set.score? other := by
  unfold erase score?
  split
  · simp [Std.ExtTreeMap.getElem?_erase]
  · rename_i absent
    by_cases same : member = other
    · subst same
      simp [absent]
    · simp [same]

/-- Removing a member that is not there changes nothing. -/
theorem erase_of_absent {set : SortedSet} {member : String} (absent : set.score? member = none) :
    (set.erase member).2 = set := by
  apply ext_score?
  intro other
  rw [score?_erase]
  by_cases same : member = other
  · simp [← same, absent]
  · simp [same]

/-- A set is empty when it counts no member. -/
theorem isEmpty_eq (set : SortedSet) : set.isEmpty = (set.size == 0) :=
  Std.ExtTreeMap.isEmpty_eq_size_beq_zero

/-- Only a member that was not there is counted. -/
theorem size_insert (set : SortedSet) (member : String) (score : Score) :
    (set.insert member score).2.size =
      if (set.score? member).isSome then set.size else set.size + 1 := by
  unfold insert size score?
  split
  next previous present =>
    simp [Std.ExtTreeMap.size_insert, Std.ExtTreeMap.contains_eq_isSome_getElem?, present]
  next absent =>
    simp [Std.ExtTreeMap.size_insert, Std.ExtTreeMap.contains_eq_isSome_getElem?, absent]

/-- A set without members has no scores. -/
theorem score?_of_isEmpty {set : SortedSet} (empty : set.isEmpty = true) (member : String) :
    set.score? member = none := by
  rw [isEmpty, Std.ExtTreeMap.isEmpty_iff] at empty
  rw [score?, empty]
  simp

@[simp] theorem isEmpty_empty : empty.isEmpty = true := rfl

@[simp] theorem isEmpty_insert (set : SortedSet) (member : String) (score : Score) :
    (set.insert member score).2.isEmpty = false := by
  unfold insert isEmpty
  split <;> simp

/-- Only a member that was there is no longer counted. -/
theorem size_erase (set : SortedSet) (member : String) :
    (set.erase member).2.size =
      if (set.score? member).isSome then set.size - 1 else set.size := by
  unfold erase size score?
  split
  next previous present =>
    simp [Std.ExtTreeMap.size_erase, Std.ExtTreeMap.mem_iff_isSome_getElem?, present]
  next absent => simp [absent]

/-- The ordered listing has one entry per member. -/
theorem mem_entries_iff (set : SortedSet) (score : Score) (member : String) :
    (score, member) ∈ set.entries ↔ set.score? member = some score := by
  simp [entries, score?, Std.ExtTreeSet.mem_toList, set.inStep]

end SortedSet

end DeviceCatalog
