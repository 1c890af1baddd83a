import DeviceCatalog.Proofs.Directory.Upkeep

/-!
# Kinds of the keys of a layout

Every key of a layout is meant for one kind of value: records are strings, the index of ids and the
groups are sorted sets, and the name table is a hash. The batches of the directory keep to this,
whatever devices they are about, so none of their commands is ever refused on a key space that does.
-/

namespace DeviceCatalog

/-- Which kind of value a key of the layout holds. -/
inductive Layout.Keeps (layout : Layout) : String → Kind → Prop
  | record {id : String} : layout.Admits id → layout.Keeps (layout.recordKey id) .string
  | ids : layout.Keeps layout.idIndex .sortedSet
  | names : layout.Keeps layout.nameIndex .hash
  | group (group : Group) : layout.Keeps (layout.groupIndex group) .sortedSet

namespace Layout.Keeps

variable {layout : Layout} {key : String} {kind : Kind}

theorem kind_idIndex (keeps : layout.Keeps key kind) (same : key = layout.idIndex) :
    kind = .sortedSet := by
  cases keeps with
  | record admits => exact absurd same admits.ne_idIndex
  | ids => rfl
  | names => exact absurd same Layout.nameIndex_ne_idIndex
  | group group => rfl

theorem kind_nameIndex (keeps : layout.Keeps key kind) (same : key = layout.nameIndex) :
    kind = .hash := by
  cases keeps with
  | record admits => exact absurd same admits.ne_nameIndex
  | ids => exact absurd same.symm Layout.nameIndex_ne_idIndex
  | names => rfl
  | group group => exact absurd same (Layout.groupIndex_ne_nameIndex group)

theorem kind_groupIndex (keeps : layout.Keeps key kind) {group : Group}
    (same : key = layout.groupIndex group) : kind = .sortedSet := by
  cases keeps with
  | record admits => exact absurd same (admits.ne_groupIndex group)
  | ids => rfl
  | names => exact absurd same.symm (Layout.groupIndex_ne_nameIndex group)
  | group other => rfl

theorem kind_recordKey (keeps : layout.Keeps key kind) {id : String} (admits : layout.Admits id)
    (same : key = layout.recordKey id) : kind = .string := by
  cases keeps with
  | record other => rfl
  | ids => exact absurd same.symm admits.ne_idIndex
  | names => exact absurd same.symm admits.ne_nameIndex
  | group group => exact absurd same.symm (admits.ne_groupIndex group)

theorem unique {first second : Kind} (left : layout.Keeps key first)
    (right : layout.Keeps key second) : first = second := by
  cases left with
  | record admits => exact (right.kind_recordKey admits rfl).symm
  | ids => exact (right.kind_idIndex rfl).symm
  | names => exact (right.kind_nameIndex rfl).symm
  | group group => exact (right.kind_groupIndex rfl).symm

end Layout.Keeps

/-- The kinds of the keys of a layout. -/
def Layout.typing (layout : Layout) : Typing := ⟨layout.Keeps, Layout.Keeps.unique⟩

namespace Directory

variable {layout : Layout} {device old new : Device}

theorem suits_insertion (admits : layout.Admits device.id) :
    ∀ command ∈ insertion layout device, layout.typing.Suits command :=
  forall_insertion (.record admits) .ids .names .group

theorem suits_removal : ∀ command ∈ removal layout device, layout.typing.Suits command :=
  forall_removal trivial .ids .names .group

theorem suits_replacement (admits : layout.Admits new.id) :
    ∀ command ∈ replacement layout old new, layout.typing.Suits command :=
  forall_replacement (.record admits) .names .names .group .group

end Directory

/-- The image of a catalog holds under each key the kind of value that the key is meant for. -/
theorem Mirrors.fits {layout : Layout} {space : KeySpace} {catalog : Catalog}
    (mirrors : Mirrors layout space catalog) : layout.typing.Fits space := by
  intro key kind keeps
  cases keeps with
  | @record id admits =>
      cases held : space[layout.recordKey id]? with
      | none => exact .inl rfl
      | some entry =>
          rcases mirrors.only _ entry held with ⟨device, stored, same⟩ | index
          · obtain ⟨bytes, record, _⟩ := mirrors.records device stored
            rw [← same, held] at record
            cases record
            exact .inr rfl
          · exact absurd index admits.not_isIndex
  | ids => exact mirrors.ids.kind
  | names => exact mirrors.names.kind
  | group group => exact (mirrors.groups group).kind

end DeviceCatalog
