import DeviceCatalog.Proofs.Directory.Selection

/-!
# Listings of the image of a catalog

The descending listing of an index is the listing of the catalog, key for key. Since a device has the
same score in each of its groups, a listing by several labels is the listing of the first label with
the devices that lack another label left out.
-/

namespace DeviceCatalog

namespace Catalog

open SortedSet (Before order)

variable {catalog : Catalog} {layout : Layout} {keep : Device → Prop} {score : Device → Score}
variable {device : Device}

/-- One device stands before another one in a listing. -/
def Precedes (layout : Layout) (score : Device → Score) (left right : Device) : Prop :=
  Before (pairOf layout score right) (pairOf layout score left)

theorem nodup_devices (valid : catalog.Valid layout) : catalog.devices.Nodup := by
  rw [devices, List.Nodup, List.pairwise_map]
  refine catalog.distinct_keys_toList.imp_of_mem fun {left right} leftIn rightIn apart same => ?_
  rw [Std.ExtTreeMap.mem_toList_iff_getElem?_eq_some] at leftIn rightIn
  have keys : left.1 = right.1 := by
    rw [← valid.keyed _ _ leftIn, ← valid.keyed _ _ rightIn, same]
  exact apart (Std.LawfulEqCmp.compare_eq_iff_eq.2 keys)

variable [DecidablePred keep]

theorem mem_listing (valid : catalog.Valid layout) :
    device ∈ catalog.listing layout keep score ↔ catalog.Holds device ∧ keep device := by
  rw [listing, List.mem_mergeSort, List.mem_filter, mem_devices valid, decide_eq_true_iff]

theorem nodup_listing (valid : catalog.Valid layout) :
    (catalog.listing layout keep score).Nodup := by
  rw [listing]
  exact ((nodup_devices valid).filter _).perm (List.mergeSort_perm _ _).symm

/-- A listing descends strictly. -/
theorem pairwise_listing (valid : catalog.Valid layout) :
    (catalog.listing layout keep score).Pairwise (Precedes layout score) := by
  have sorted : (catalog.listing layout keep score).Pairwise fun left right =>
      (order (pairOf layout score right) (pairOf layout score left)).isLE = true := by
    rw [listing]
    apply List.pairwise_mergeSort
    · exact fun left middle right first second => Std.TransCmp.isLE_trans second first
    · intro left right
      have swapped : order (pairOf layout score left) (pairOf layout score right) =
          (order (pairOf layout score right) (pairOf layout score left)).swap :=
        Std.OrientedCmp.eq_swap
      rw [swapped]
      cases order (pairOf layout score right) (pairOf layout score left) <;> rfl
  refine (sorted.and (nodup_listing valid)).imp_of_mem fun {left right} leftIn rightIn both => ?_
  obtain ⟨ordered, apart⟩ := both
  cases compared : order (pairOf layout score right) (pairOf layout score left) with
  | lt => exact compared
  | eq =>
      have pairs := Std.LawfulEqCmp.compare_eq_iff_eq.1 compared
      have ids : left.id = right.id := Layout.recordKey_injective (congrArg Prod.snd pairs).symm
      exact absurd (((mem_listing valid).1 leftIn).1.eq_of_id ((mem_listing valid).1 rightIn).1 ids)
        apart
  | gt =>
      rw [compared] at ordered
      cases ordered

theorem precedes_asymm {left right : Device} (before : Precedes layout score left right) :
    ¬ Precedes layout score right left := SortedSet.before_asymm before

/-- A listing is the only list of its devices that descends. -/
theorem eq_listing (valid : catalog.Valid layout) {candidate : List Device}
    (ordered : candidate.Pairwise (Precedes layout score))
    (same : ∀ device, device ∈ candidate ↔ catalog.Holds device ∧ keep device) :
    candidate = catalog.listing layout keep score := by
  have distinct : candidate.Nodup := by
    refine ordered.imp fun before equal => ?_
    subst equal
    exact precedes_asymm before before
  have permuted : candidate.Perm (catalog.listing layout keep score) := by
    rw [List.perm_ext_iff_of_nodup distinct (nodup_listing valid)]
    intro device
    rw [same, mem_listing valid]
  refine permuted.eq_of_pairwise (fun left right _ _ before after => ?_) ordered
    (pairwise_listing valid)
  exact absurd after (precedes_asymm before)

/-- The descending listing of a set that scores the devices of one kind. -/
theorem members_of_scores (valid : catalog.Valid layout) {set : SortedSet}
    (scores : ∀ member rank,
      set.score? member = some rank ↔ catalog.Scored layout keep score member rank) :
    set.members.reverse =
      (catalog.listing layout keep score).map fun device => layout.recordKey device.id := by
  have entries : (catalog.listing layout keep score).reverse.map (pairOf layout score) =
      set.entries := by
    apply SortedSet.eq_entries
    · rw [List.pairwise_map, List.pairwise_reverse]
      exact pairwise_listing valid
    · intro rank member
      rw [scores]
      simp only [List.mem_map, List.mem_reverse, mem_listing valid, pairOf, Prod.mk.injEq]
      constructor
      · rintro ⟨device, ⟨held, kept⟩, rfl, rfl⟩
        exact ⟨device, held, kept, rfl, rfl⟩
      · rintro ⟨device, held, kept, rfl, rfl⟩
        exact ⟨device, ⟨held, kept⟩, rfl, rfl⟩
  rw [SortedSet.members, ← entries, List.map_map, ← List.map_reverse, List.reverse_reverse]
  rfl

/-- The devices of a listing that also carry further labels. -/
theorem filter_listing (valid : catalog.Valid layout) (further : Device → Prop)
    [DecidablePred further] :
    (catalog.listing layout keep score).filter further =
      catalog.listing layout (fun device => keep device ∧ further device) score := by
  apply eq_listing valid
  · exact (pairwise_listing valid).filter _
  · intro device
    rw [List.mem_filter, mem_listing valid, decide_eq_true_iff, and_assoc]

theorem listing_congr (valid : catalog.Valid layout) {other : Device → Prop} [DecidablePred other]
    (same : ∀ device, keep device ↔ other device) :
    catalog.listing layout keep score = catalog.listing layout other score := by
  apply eq_listing valid (pairwise_listing valid)
  intro device
  rw [mem_listing valid, same]

/-- The devices with one label that carry further ones are those with all of the labels. -/
theorem filter_members_label (valid : catalog.Valid layout) (first : String) (rest : List String) :
    (catalog.members layout (.label first)).filter
        (fun device => ∀ label ∈ rest, label ∈ device.labels) =
      catalog.listing layout (fun device => ∀ label ∈ first :: rest, label ∈ device.labels)
        Directory.scoreOf := by
  rw [members, filter_listing valid]
  apply listing_congr valid
  intro device
  rw [List.forall_mem_cons]
  rfl

/-- It makes no difference to a listing how often a label is asked for. -/
theorem labelled_of_eraseDups (valid : catalog.Valid layout) {labels rest : List String}
    {first : String} (distinct : labels.eraseDups = first :: rest) :
    catalog.labelled layout labels =
      catalog.listing layout (fun device => ∀ label ∈ first :: rest, label ∈ device.labels)
        Directory.scoreOf := by
  have given : labels ≠ [] := by
    rintro rfl
    cases distinct
  rw [labelled, if_neg given]
  apply listing_congr valid
  intro device
  rw [← distinct]
  simp only [List.mem_eraseDups]

/-- A listing has no more entries than the catalog has devices. -/
theorem length_listing_le (catalog : Catalog) (layout : Layout) (keep : Device → Prop)
    [DecidablePred keep] (score : Device → Score) :
    (catalog.listing layout keep score).length ≤ catalog.size := by
  have count : catalog.devices.length = catalog.size := by
    rw [devices, List.length_map, Std.ExtTreeMap.length_toList]
  rw [listing, List.length_mergeSort, ← count]
  exact List.length_filter_le _ _

/-- The devices of a selection. -/
def selected (catalog : Catalog) (layout : Layout) : Directory.Selection → List Device
  | .all => catalog.all layout
  | .service name => catalog.members layout (.service name)
  | .profile name => catalog.members layout (.profile name)
  | .labelled labels => catalog.labelled layout labels

end Catalog

namespace Mirrors

open Directory Action

variable {layout : Layout} {space : KeySpace} {catalog : Catalog}

/-! ## Records -/

/-- Under the record keys of stored devices these devices are found. -/
theorem devicesAt_recordKeys (mirrors : Mirrors layout space catalog) {devices : List Device}
    (held : ∀ device ∈ devices, catalog.Holds device) :
    space.devicesAt (devices.map fun device => layout.recordKey device.id) = .ok devices := by
  rw [KeySpace.devicesAt_eq_ok_iff]
  induction devices with
  | nil => exact .nil
  | cons device rest ih =>
      rw [List.forall_mem_cons] at held
      exact .cons (mirrors.records_iff.2 ⟨held.1, rfl⟩) (ih held.2)

/-- A page of record keys leads to the same page of devices. -/
theorem page_recordKeys (mirrors : Mirrors layout space catalog) {listing : List Device}
    (held : ∀ device ∈ listing, catalog.Holds device) (offset : UInt64) (limit : Int64) :
    (Window.page offset limit (listing.map fun device => layout.recordKey device.id) >>=
      space.devicesAt) = Window.page offset limit listing := by
  rw [Window.page, Window.page]
  split
  next => rfl
  next =>
    split
    next =>
      rw [← List.map_drop]
      exact mirrors.devicesAt_recordKeys fun device listed => held device (List.mem_of_mem_drop listed)
    next =>
      split
      next =>
        rw [← List.map_drop, ← List.map_take]
        exact mirrors.devicesAt_recordKeys fun device listed =>
          held device (List.mem_of_mem_drop (List.mem_of_mem_take listed))
      next => rfl

/-! ## Indexes -/

variable {keep : Device → Prop} [DecidablePred keep] {score : Device → Score} {key : String}

/-- An index lists the record keys of its devices. -/
theorem ranked_eq (mirrors : Mirrors layout space catalog)
    (ranks : Entry.Ranks space[key]? (catalog.Scored layout keep score)) :
    space.ranked key =
      (catalog.listing layout keep score).map fun device => layout.recordKey device.id := by
  obtain ⟨set, read, scores⟩ := ranks.sortedSet
  rw [KeySpace.ranked, read]
  exact Catalog.members_of_scores mirrors.valid scores

theorem hasIndex (mirrors : Mirrors layout space catalog)
    (ranks : Entry.Ranks space[key]? (catalog.Scored layout keep score))
    (small : catalog.size < 2 ^ 63) : space.HasIndex key := by
  obtain ⟨set, read, scores⟩ := ranks.sortedSet
  have listed := Catalog.members_of_scores mirrors.valid scores
  refine ⟨set, read, ?_⟩
  rw [← SortedSet.length_members, ← List.length_reverse, listed, List.length_map]
  exact Nat.lt_of_le_of_lt (catalog.length_listing_le layout keep score) small

/-- The group of a label has the record keys of the devices that carry it. -/
theorem mem_ranked_label (mirrors : Mirrors layout space catalog) {device : Device}
    (held : catalog.Holds device) (label : String) :
    layout.recordKey device.id ∈ space.ranked (layout.labelIndex label) ↔
      label ∈ device.labels := by
  rw [← Layout.groupIndex, mirrors.ranked_eq (mirrors.groups (.label label)), List.mem_map]
  constructor
  · rintro ⟨other, listed, same⟩
    obtain ⟨otherHeld, carries⟩ := (Catalog.mem_listing mirrors.valid).1 listed
    exact held.eq_of_id otherHeld (Layout.recordKey_injective same).symm ▸ carries
  · exact fun carries => ⟨device, (Catalog.mem_listing mirrors.valid).2 ⟨held, carries⟩, rfl⟩

/-! ## Selections -/

theorem hasIndex_of_mem_queried (mirrors : Mirrors layout space catalog)
    (small : catalog.size < 2 ^ 63) (selection : Selection) :
    ∀ key ∈ selection.queried layout space, space.HasIndex key := by
  have group (group : Group) := mirrors.hasIndex (mirrors.groups group) small
  have ids := mirrors.hasIndex mirrors.ids small
  have indexes : ∀ key ∈ (selection.indexes layout).1 :: (selection.indexes layout).2,
      space.HasIndex key := by
    intro key listed
    cases selection with
    | all => exact List.mem_singleton.1 listed ▸ ids
    | service name => exact List.mem_singleton.1 listed ▸ group (.service name)
    | profile name => exact List.mem_singleton.1 listed ▸ group (.profile name)
    | labelled labels =>
        rw [Selection.indexes] at listed
        split at listed
        next => exact List.mem_singleton.1 listed ▸ ids
        next first rest _ =>
          rw [← List.map_cons (f := layout.labelIndex)] at listed
          obtain ⟨label, _, rfl⟩ := List.mem_map.1 listed
          exact group (.label label)
  rw [List.forall_mem_cons] at indexes
  rw [Selection.queried, List.forall_mem_cons]
  exact ⟨indexes.1, fun key read => indexes.2 key (KeySpace.mem_of_mem_consulted read)⟩

/-- A selection lists the record keys of its devices. -/
theorem listing_eq (mirrors : Mirrors layout space catalog) (selection : Selection) :
    selection.listing layout space =
      (catalog.selected layout selection).map fun device => layout.recordKey device.id := by
  cases selection with
  | all => exact (Selection.listing_of_alone rfl).trans (mirrors.ranked_eq mirrors.ids)
  | service name =>
      exact (Selection.listing_of_alone rfl).trans (mirrors.ranked_eq (mirrors.groups (.service name)))
  | profile name =>
      exact (Selection.listing_of_alone rfl).trans (mirrors.ranked_eq (mirrors.groups (.profile name)))
  | labelled labels =>
      cases distinct : labels.eraseDups with
      | nil =>
          have absent : labels = [] := by
            apply List.eq_nil_iff_forall_not_mem.2
            intro label listed
            rw [← List.mem_eraseDups, distinct] at listed
            cases listed
          subst absent
          exact (Selection.listing_of_alone rfl).trans (mirrors.ranked_eq mirrors.ids)
      | cons first rest =>
          have indexes : (Selection.labelled labels).indexes layout =
              (layout.labelIndex first, rest.map layout.labelIndex) := by
            rw [Selection.indexes, distinct]
          have group := mirrors.ranked_eq (mirrors.groups (.label first))
          have held : ∀ device ∈ catalog.members layout (.label first), catalog.Holds device :=
            fun device listed => ((Catalog.mem_listing mirrors.valid).1 listed).1
          rw [Selection.listing, indexes, Catalog.selected,
            Catalog.labelled_of_eraseDups mirrors.valid distinct,
            ← Catalog.filter_members_label mirrors.valid]
          dsimp only
          rw [← Layout.groupIndex, group, KeySpace.common, List.filter_map]
          refine congrArg _ (List.filter_congr fun device listed => ?_)
          simp only [Function.comp, List.forall_mem_map,
            mirrors.mem_ranked_label (held device listed)]

theorem holds_of_mem_selected (mirrors : Mirrors layout space catalog) {selection : Selection}
    {device : Device} (listed : device ∈ catalog.selected layout selection) :
    catalog.Holds device := by
  cases selection with
  | all | service | profile => exact ((Catalog.mem_listing mirrors.valid).1 listed).1
  | labelled labels =>
      rw [Catalog.selected, Catalog.labelled] at listed
      split at listed
      next => exact ((Catalog.mem_listing mirrors.valid).1 listed).1
      next => exact ((Catalog.mem_listing mirrors.valid).1 listed).1

/-- A page query gives a page of the devices that it selects. -/
theorem evaluate_selection {source : Type} [Clock source] (mirrors : Mirrors layout space catalog)
    (small : catalog.size < 2 ^ 63) (selection : Selection) (offset : UInt64) (limit : Int64)
    (clock : source) :
    (selection.action layout offset limit).run.evaluate space clock =
      (Window.page offset limit (catalog.selected layout selection), space, clock) := by
  rw [Selection.evaluate_action (mirrors.hasIndex_of_mem_queried small selection),
    mirrors.listing_eq, mirrors.page_recordKeys fun _ => mirrors.holds_of_mem_selected]

/-! ## Counts -/

/-- An index counts as many members as its listing has entries. -/
theorem answer_zcard (mirrors : Mirrors layout space catalog)
    (ranks : Entry.Ranks space[key]? (catalog.Scored layout keep score)) :
    space.answer (.zcard key) = .ok (catalog.listing layout keep score).length := by
  obtain ⟨set, read, scores⟩ := ranks.sortedSet
  have listed := Catalog.members_of_scores mirrors.valid scores
  have counted : set.size = (catalog.listing layout keep score).length := by
    rw [← SortedSet.length_members, ← List.length_reverse, listed, List.length_map]
  rw [← counted]
  exact congrArg (Except.map _) read

end Mirrors

end DeviceCatalog
