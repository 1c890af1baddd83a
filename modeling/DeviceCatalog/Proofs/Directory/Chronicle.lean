import DeviceCatalog.Proofs.Directory.Listing
import DeviceCatalog.Proofs.Score.Nearest
import DeviceCatalog.Proofs.Text

/-!
# How listings descend

The listing of a group in terms of numbers and bytes: it descends by the double nearest to the time of
the last write, and where these are equal by the bytes of the record key. Doubles keep times of at
most fifty-three bits apart, so a listing of such times descends by the times themselves.
-/

namespace DeviceCatalog.Catalog

/-- Greater by a measure, or as great and with a record key of greater bytes. -/
def Descends (layout : Layout) (measure : Device → Int) (left right : Device) : Prop :=
  measure right < measure left ∨
    measure right = measure left ∧
      Bytes.ofText (layout.recordKey right.id) < Bytes.ofText (layout.recordKey left.id)

/-- The list has the devices of one kind, each once, in descending order. -/
structure Lists (catalog : Catalog) (layout : Layout) (keep : Device → Prop)
    (measure : Device → Int) (listing : List Device) : Prop where
  mem : ∀ device, device ∈ listing ↔ catalog.Holds device ∧ keep device
  nodup : listing.Nodup
  descends : listing.Pairwise (Descends layout measure)

/-- The list has the devices of one kind, the last written first, as far as doubles tell their times
apart. -/
structure Chronicles (catalog : Catalog) (layout : Layout) (keep : Device → Prop)
    (listing : List Device) : Prop where
  lists : catalog.Lists layout keep (fun device => (Directory.scoreOf device).value) listing
  nearest : ∀ device ∈ listing,
    Score.Nearest device.modified.toInt (Directory.scoreOf device)
  exact : (∀ device ∈ listing, device.modified.toInt.natAbs ≤ 2 ^ 53) →
    catalog.Lists layout keep (fun device => device.modified.toInt) listing

variable {catalog : Catalog} {layout : Layout} {keep : Device → Prop} [DecidablePred keep]
variable {score : Device → Score} {measure : Device → Int}

theorem precedes_iff {left right : Device} :
    Precedes layout score left right ↔
      (score right).rank < (score left).rank ∨
        (score right).rank = (score left).rank ∧
          Bytes.ofText (layout.recordKey right.id) < Bytes.ofText (layout.recordKey left.id) := by
  rw [Text.ofText_lt_iff]
  exact SortedSet.before_iff

/-- A listing descends by every measure that has its devices in the order of their scores. -/
theorem lists_listing (valid : catalog.Valid layout)
    (measures : ∀ left right, catalog.Holds left → catalog.Holds right → keep left → keep right →
      ((score left).rank < (score right).rank ↔ measure left < measure right)) :
    catalog.Lists layout keep measure (catalog.listing layout keep score) := by
  refine ⟨fun device => mem_listing valid, nodup_listing valid, ?_⟩
  refine (pairwise_listing valid).imp_of_mem fun {left right} leftIn rightIn precedes => ?_
  obtain ⟨leftHeld, leftKept⟩ := (mem_listing valid).1 leftIn
  obtain ⟨rightHeld, rightKept⟩ := (mem_listing valid).1 rightIn
  have forward := measures right left rightHeld leftHeld rightKept leftKept
  have backward := measures left right leftHeld rightHeld leftKept rightKept
  rcases precedes_iff.1 precedes with greater | ⟨equal, bytes⟩
  · exact .inl (forward.1 greater)
  · exact .inr ⟨by omega, bytes⟩

theorem rank_scoreOf_lt_iff {left right : Device} :
    (Directory.scoreOf left).rank < (Directory.scoreOf right).rank ↔
      (Directory.scoreOf left).value < (Directory.scoreOf right).value :=
  Score.rank_lt_iff Score.signed_ofInt64 Score.signed_ofInt64

/-- A time comes after an earlier one in a listing only where their doubles are the same. -/
theorem pairwise_modified (valid : catalog.Valid layout) :
    (catalog.listing layout keep Directory.scoreOf).Pairwise fun left right =>
      right.modified ≤ left.modified ∨ Directory.scoreOf right = Directory.scoreOf left := by
  refine (pairwise_listing valid).imp fun {left right} precedes => ?_
  rcases precedes_iff.1 precedes with greater | ⟨equal, _⟩
  · refine .inl (Int64.not_lt.1 fun later => ?_)
    have ordered := Score.rank_ofInt64_mono (Int64.le_of_lt later)
    exact absurd greater (Nat.not_lt.2 ordered)
  · exact .inr (Score.rank_injective equal)

/-- The devices of one kind, listed by their scores. -/
theorem chronicles_listing (valid : catalog.Valid layout) :
    catalog.Chronicles layout keep (catalog.listing layout keep Directory.scoreOf) := by
  refine ⟨?_, fun device _ => Score.nearest_ofInt64 device.modified, fun small => ?_⟩
  · exact lists_listing valid fun _ _ _ _ _ _ => rank_scoreOf_lt_iff
  · refine lists_listing valid fun left right leftHeld rightHeld leftKept rightKept => ?_
    have leftValue := Score.value_ofInt64 (small left ((mem_listing valid).2 ⟨leftHeld, leftKept⟩))
    have rightValue :=
      Score.value_ofInt64 (small right ((mem_listing valid).2 ⟨rightHeld, rightKept⟩))
    have unit : (0 : Int) < Score.one := Int.natCast_pos.2 Score.one_pos
    rw [rank_scoreOf_lt_iff, Directory.scoreOf, Directory.scoreOf, leftValue, rightValue]
    exact Int.mul_lt_mul_right unit

/-- All devices, listed by their record keys. -/
theorem lists_all (valid : catalog.Valid layout) :
    catalog.Lists layout (fun _ => True) (fun _ => 0) (catalog.all layout) :=
  lists_listing valid fun _ _ _ _ _ _ => by simp

end DeviceCatalog.Catalog
