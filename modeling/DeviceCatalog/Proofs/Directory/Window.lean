import DeviceCatalog.Directory.Window
import DeviceCatalog.Proofs.Rank

/-!
# Windows and the pages they cut out

A window is applied in two ways, as ranks and to a listing at hand. Both give the page that the
offset and the limit ask for, on every listing that fits into memory.
-/

namespace DeviceCatalog.Window

variable {entry : Type} {offset : UInt64} {limit : Int64} {window : Window}

/-- A page of a listing: `offset` entries are skipped, and of the others `limit` are taken, or all of
them when the limit is `-1`. -/
def page (offset : UInt64) (limit : Int64) (listing : List entry) : Except Error (List entry) :=
  if 2 ^ 63 ≤ offset.toNat then
    .error (.invalidInput ("offset " ++ Nat.repr offset.toNat ++ " out of range"))
  else if limit = -1 then .ok (listing.drop offset.toNat)
  else if 0 ≤ limit then .ok ((listing.drop offset.toNat).take limit.toInt.toNat)
  else .error (.invalidInput ("limit must be -1 or non-negative, got " ++ Int.repr limit.toInt))

/-! ## Machine words -/

theorem toNat_largestRank : largestRank.toNat = 2 ^ 63 - 1 := by decide +kernel

theorem toNat_saturatingAdd (left right : UInt64) :
    (saturatingAdd left right).toNat = min (left.toNat + right.toNat) (2 ^ 64 - 1) := by
  have leftBound := left.toNat_lt
  have rightBound := right.toNat_lt
  have sum : (left + right).toNat = (left.toNat + right.toNat) % 2 ^ 64 := UInt64.toNat_add left right
  have largest : (0xFFFFFFFFFFFFFFFF : UInt64).toNat = 2 ^ 64 - 1 := by decide +kernel
  rw [saturatingAdd]
  split
  next wraps =>
    rw [UInt64.lt_iff_toNat_lt, sum] at wraps
    rw [largest]
    omega
  next fits =>
    rw [UInt64.lt_iff_toNat_lt, sum] at fits
    rw [sum]
    omega

theorem toInt_toInt64 {word : UInt64} (small : word.toNat < 2 ^ 63) :
    word.toInt64.toInt = word.toNat := by
  have known : word.toInt64 = Int64.ofNat word.toNat := by
    rw [← UInt64.toInt64_ofNat', UInt64.ofNat_toNat]
  rw [known, Int64.toInt_ofNat_of_lt small]

theorem out_of_range_iff : largestRank < offset ↔ 2 ^ 63 ≤ offset.toNat := by
  rw [UInt64.lt_iff_toNat_lt, toNat_largestRank]
  omega

/-- The last rank of a window that takes some entries. -/
def lastRank (offset : UInt64) (limit : Int64) : UInt64 :=
  let last := saturatingAdd offset (limit.toUInt64 - 1)
  if last < largestRank then last else largestRank

theorem toNat_limit (positive : 0 < limit) : limit.toUInt64.toNat = limit.toInt.toNat := by
  rw [Int64.toNat_toUInt64_of_le (Int64.le_of_lt positive), Int64.toNat_toInt]

theorem toNat_limit_sub_one (positive : 0 < limit) :
    (limit.toUInt64 - 1).toNat = limit.toInt.toNat - 1 := by
  have count := toNat_limit positive
  have some : 0 < limit.toInt := Int64.lt_iff_toInt_lt.1 positive
  have one : (1 : UInt64).toNat = 1 := rfl
  rw [UInt64.toNat_sub_of_le _ _ (UInt64.le_iff_toNat_le.2 (by omega)), count, one]

theorem toNat_lastRank (offset : UInt64) (positive : 0 < limit) :
    (lastRank offset limit).toNat = min (offset.toNat + limit.toInt.toNat - 1) (2 ^ 63 - 1) := by
  have bound := limit.toInt_lt
  have some : 0 < limit.toInt := Int64.lt_iff_toInt_lt.1 positive
  have last := toNat_saturatingAdd offset (limit.toUInt64 - 1)
  rw [toNat_limit_sub_one positive] at last
  simp only [lastRank]
  split
  next inside =>
    rw [UInt64.lt_iff_toNat_lt, toNat_largestRank] at inside
    omega
  next beyond =>
    rw [UInt64.lt_iff_toNat_lt, toNat_largestRank] at beyond
    rw [toNat_largestRank]
    omega

/-! ## Windows -/

/-- An offset and a limit are refused as an invalid input, or they ask for nothing, for all entries after
the offset, or for a number of them. -/
theorem resolve_cases (offset : UInt64) (limit : Int64) :
    (2 ^ 63 ≤ offset.toNat ∨ limit < -1) ∧
        (∃ reason, resolve offset limit = .error (.invalidInput reason)) ∨
      offset.toNat < 2 ^ 63 ∧
        (limit = 0 ∧ resolve offset limit = .ok none ∨
          limit = -1 ∧ resolve offset limit = .ok (some ⟨offset, none⟩) ∨
          0 < limit ∧ resolve offset limit = .ok (some ⟨offset, some (lastRank offset limit)⟩)) := by
  rw [resolve]
  split
  next beyond => exact .inl ⟨.inl (out_of_range_iff.1 beyond), _, rfl⟩
  next inRange =>
    rw [out_of_range_iff, Nat.not_le] at inRange
    split
    next unlimited => exact .inr ⟨inRange, .inr (.inl ⟨unlimited, rfl⟩)⟩
    next limited =>
      split
      next nothing => exact .inr ⟨inRange, .inl ⟨nothing, rfl⟩⟩
      next some =>
        split
        next positive => exact .inr ⟨inRange, .inr (.inr ⟨positive, rfl⟩)⟩
        next negative =>
          have below : limit < -1 := by
            have none : (0 : Int64).toInt = 0 := rfl
            have all : (-1 : Int64).toInt = -1 := rfl
            rw [← Int64.toInt_inj] at limited some
            rw [Int64.lt_iff_toInt_lt] at negative ⊢
            omega
          exact .inl ⟨.inr below, _, rfl⟩

/-- The windows that an offset and a limit can be resolved to. -/
theorem of_resolve_eq_some (resolved : resolve offset limit = .ok (some window)) :
    offset.toNat < 2 ^ 63 ∧
      (limit = -1 ∧ window = ⟨offset, none⟩ ∨
        0 < limit ∧ window = ⟨offset, some (lastRank offset limit)⟩) := by
  obtain ⟨_, _, found⟩ | ⟨inRange, ⟨_, found⟩ | ⟨unlimited, found⟩ | ⟨positive, found⟩⟩ :=
    resolve_cases offset limit
  · cases found.symm.trans resolved
  · cases found.symm.trans resolved
  · cases found.symm.trans resolved
    exact ⟨inRange, .inl ⟨unlimited, rfl⟩⟩
  · cases found.symm.trans resolved
    exact ⟨inRange, .inr ⟨positive, rfl⟩⟩

theorem mem_of_mem_slice {listing : List entry} {member : entry}
    (covered : member ∈ window.slice listing) : member ∈ listing := by
  rw [slice] at covered
  split at covered
  next => exact List.mem_of_mem_drop (List.mem_of_mem_take covered)
  next => exact List.mem_of_mem_drop covered

/-- How many entries a limited window takes: as many as its limit, up to the largest rank. -/
theorem toNat_taken (inRange : offset.toNat < 2 ^ 63) (positive : 0 < limit) :
    (lastRank offset limit - offset + 1).toNat =
      min limit.toInt.toNat (2 ^ 63 - offset.toNat) := by
  have last := toNat_lastRank offset positive
  have some : 0 < limit.toInt := Int64.lt_iff_toInt_lt.1 positive
  have one : (1 : UInt64).toNat = 1 := rfl
  have span : (lastRank offset limit - offset).toNat =
      (lastRank offset limit).toNat - offset.toNat :=
    UInt64.toNat_sub_of_le _ _ (UInt64.le_iff_toNat_le.2 (by omega))
  rw [UInt64.toNat_add, span, last, one]
  omega

theorem slice_limited {listing : List entry} (small : listing.length < 2 ^ 63)
    (inRange : offset.toNat < 2 ^ 63) (positive : 0 < limit) :
    slice ⟨offset, some (lastRank offset limit)⟩ listing =
      (listing.drop offset.toNat).take limit.toInt.toNat := by
  simp only [slice]
  rw [toNat_taken inRange positive, List.take_eq_take_iff, List.length_drop]
  omega

/-- A page is refused when its window is, it is empty when there is none, and otherwise it is what the
window covers. -/
theorem page_eq {listing : List entry} (small : listing.length < 2 ^ 63) :
    page offset limit listing =
      (resolve offset limit).map fun window =>
        match window with
        | none => []
        | some window => window.slice listing := by
  rw [page, resolve]
  by_cases beyond : largestRank < offset
  · rw [if_pos beyond, if_pos (out_of_range_iff.1 beyond)]
    rfl
  · have inRange := Nat.not_le.1 fun large => beyond (out_of_range_iff.2 large)
    rw [if_neg beyond, if_neg (Nat.not_le.2 inRange)]
    by_cases unlimited : limit = -1
    · rw [if_pos unlimited, if_pos unlimited]
      rfl
    · rw [if_neg unlimited, if_neg unlimited]
      by_cases nothing : limit = 0
      · subst nothing
        rfl
      · rw [if_neg nothing]
        by_cases positive : 0 < limit
        · rw [if_pos positive, if_pos (Int64.le_of_lt positive)]
          exact congrArg Except.ok (slice_limited small inRange positive).symm
        · rw [if_neg positive, if_neg]
          · rfl
          · exact fun nonnegative => nothing (Int64.le_antisymm (Int64.not_lt.1 positive) nonnegative)

theorem place_toInt64 {word : UInt64} (small : word.toNat < 2 ^ 63) (count : Nat) :
    Rank.place count word.toInt64 = word.toNat := by
  have known := toInt_toInt64 small
  rw [Rank.place, if_neg, known]
  rw [Rank.negative_iff, known]
  omega

/-- The ranks of a window select what the window covers. -/
theorem select_ranks (resolved : resolve offset limit = .ok (some window)) {listing : List entry}
    (small : listing.length < 2 ^ 63) :
    Rank.select listing window.ranks.1 window.ranks.2 = window.slice listing := by
  obtain ⟨inRange, ⟨unlimited, rfl⟩ | ⟨positive, rfl⟩⟩ := of_resolve_eq_some resolved
  · have last : Rank.place listing.length (-1) = listing.length - 1 := rfl
    simp only [ranks, slice]
    rw [Rank.select_eq small, Rank.low, place_toInt64 inRange, last, Int.max_eq_right (by omega),
      Int.toNat_natCast, List.take_of_length_le]
    rw [List.length_drop]
    omega
  · have stop := toNat_lastRank offset positive
    have some : 0 < limit.toInt := Int64.lt_iff_toInt_lt.1 positive
    have taken : (((lastRank offset limit).toNat : Int) - offset.toNat + 1).toNat =
        min limit.toInt.toNat (2 ^ 63 - offset.toNat) := by omega
    simp only [ranks, slice]
    rw [Rank.select_eq small, Rank.low, place_toInt64 inRange, place_toInt64 (by omega),
      Int.max_eq_right (by omega), Int.toNat_natCast, toNat_taken inRange positive, taken]

end DeviceCatalog.Window
