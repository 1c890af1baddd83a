import DeviceCatalog.Proofs.Directory.Coherence
import DeviceCatalog.Proofs.Directory.Simulation
import DeviceCatalog.Proofs.SortedSet.Replay
import DeviceCatalog.Proofs.Substrate.Confinement

/-!
# Pages of any key space

What a page results in when nothing is known about the key space but that the indexes in question are
sorted sets. The indexes alone decide which keys the page is made of. The records behind these keys are
all there is to the rest: when each of them can be read they are the page, one for one, and otherwise
the whole page fails. Indexes that disagree with one another or with the records do no further harm.
-/

namespace DeviceCatalog

namespace KeySpace

/-- The key holds an index that can be read: a sorted set that fits into memory, or nothing. -/
def HasIndex (space : KeySpace) (key : String) : Prop :=
  ∃ set, space.sortedSet key = .ok set ∧ set.size < 2 ^ 63

/-- The members of an index, descending. -/
def ranked (space : KeySpace) (key : String) : List String :=
  match space.sortedSet key with
  | .ok set => set.members.reverse
  | .error _ => []

/-- The keys that are members of all of the indexes. -/
def common (space : KeySpace) (keys indexes : List String) : List String :=
  keys.filter fun key => ∀ index ∈ indexes, key ∈ space.ranked index

/-- The indexes that have to be read for this, one after another: none once no key is left. -/
def consulted (space : KeySpace) : List String → List String → List String
  | _, [] => []
  | keys, index :: rest =>
      if keys = [] then []
      else index :: space.consulted (keys.filter (· ∈ space.ranked index)) rest

/-- The devices whose records stand under the keys. -/
def devicesAt (space : KeySpace) (keys : List String) : Except Error (List Device) :=
  keys.mapM fun key => Directory.deviceOfSlot (key, space.bytes? key)

variable {space : KeySpace} {key : String}

/-! ## Indexes -/

theorem HasIndex.answer_zrevrange (index : space.HasIndex key) (first last : Int64) :
    space.answer (.zrevrange key first last) = .ok (Rank.select (space.ranked key) first last) := by
  obtain ⟨set, read, _⟩ := index
  rw [answer, ranked, read]
  exact congrArg Except.ok (set.revRange_eq first last)

theorem HasIndex.length_ranked (index : space.HasIndex key) :
    (space.ranked key).length < 2 ^ 63 := by
  obtain ⟨set, read, small⟩ := index
  rw [ranked, read]
  simpa [SortedSet.length_members] using small

/-- The ranks from the first to the last list an index whole, descending or ascending. -/
theorem HasIndex.answer_all (index : space.HasIndex key) :
    space.answer (.zrevrange key 0 (-1)) = .ok (space.ranked key) ∧
      space.answer (.zrange key 0 (-1)) = .ok (space.ranked key).reverse := by
  have fits := index.length_ranked
  refine ⟨by rw [index.answer_zrevrange, Rank.select_all fits], ?_⟩
  obtain ⟨set, read, _⟩ := index
  rw [ranked, read, List.length_reverse] at fits
  rw [answer, ranked, read, List.reverse_reverse]
  refine congrArg Except.ok ?_
  exact (set.range_eq 0 (-1)).trans (Rank.select_all fits)

theorem hasIndex_congr {other : KeySpace} (agree : other[key]? = space[key]?) :
    other.HasIndex key ↔ space.HasIndex key := by
  rw [HasIndex, HasIndex, sortedSet_congr agree]

theorem ranked_congr {other : KeySpace} (agree : other[key]? = space[key]?) :
    other.ranked key = space.ranked key := by
  rw [ranked, ranked, sortedSet_congr agree]

theorem common_nil (keys : List String) : space.common keys [] = keys := by
  rw [common]
  exact List.filter_eq_self.2 (by simp)

theorem common_cons (keys : List String) (index : String) (rest : List String) :
    space.common keys (index :: rest) =
      space.common (keys.filter (· ∈ space.ranked index)) rest := by
  rw [common, common, List.filter_filter]
  exact List.filter_congr fun member _ => by simp [Bool.and_comm]

theorem mem_of_mem_consulted {keys indexes : List String}
    (read : key ∈ space.consulted keys indexes) : key ∈ indexes := by
  induction indexes generalizing keys with
  | nil => cases read
  | cons index rest ih =>
      rw [consulted] at read
      split at read
      next => cases read
      next => exact (List.mem_cons.1 read).elim (by simp [·]) fun later => by simp [ih later]

/-- Which indexes are read, and what is found, depends on the indexes alone that are read. -/
theorem consulted_congr {other : KeySpace} {keys indexes : List String}
    (agree : ∀ key ∈ space.consulted keys indexes, other[key]? = space[key]?) :
    other.consulted keys indexes = space.consulted keys indexes ∧
      other.common keys indexes = space.common keys indexes := by
  induction indexes generalizing keys with
  | nil => exact ⟨rfl, by rw [common_nil, common_nil]⟩
  | cons index rest ih =>
      by_cases vacant : keys = []
      · rw [vacant, consulted, consulted, if_pos rfl, if_pos rfl]
        exact ⟨rfl, rfl⟩
      · rw [consulted, if_neg vacant, List.forall_mem_cons] at agree
        rw [consulted, consulted, if_neg vacant, if_neg vacant, common_cons, common_cons,
          ranked_congr agree.1]
        obtain ⟨read, found⟩ := ih agree.2
        exact ⟨congrArg (index :: ·) read, found⟩

/-! ## Records -/

theorem deviceOfSlot_eq_ok_iff {device : Device} :
    Directory.deviceOfSlot (key, space.bytes? key) = .ok device ↔ space.Records key device := by
  rw [Records]
  cases space.bytes? key with
  | none => simp [Directory.deviceOfSlot]
  | some bytes =>
      cases decoded : Device.decode bytes with
      | error failure => simp [Directory.deviceOfSlot, Except.mapError, decoded]
      | ok found => simp [Directory.deviceOfSlot, Except.mapError, decoded]

theorem exists_of_deviceOfSlot_eq_error {slot : String × Option Bytes} {error : Error}
    (failed : Directory.deviceOfSlot slot = .error error) :
    ∃ cause, error = Directory.damaged cause := by
  obtain ⟨key, none | bytes⟩ := slot
  · cases failed
    exact ⟨_, rfl⟩
  · rw [Directory.deviceOfSlot] at failed
    cases decoded : Device.decode bytes with
    | error failure =>
        rw [decoded] at failed
        cases failed
        exact ⟨_, rfl⟩
    | ok device =>
        rw [decoded] at failed
        cases failed

theorem devicesAt_cons (key : String) (rest : List String) :
    space.devicesAt (key :: rest) = do
      let device ← Directory.deviceOfSlot (key, space.bytes? key)
      return device :: (← space.devicesAt rest) := by
  rw [devicesAt, List.mapM_cons]
  rfl

/-- Devices are found under keys when they are those of the records there, one for one. -/
theorem devicesAt_eq_ok_iff {keys : List String} {devices : List Device} :
    space.devicesAt keys = .ok devices ↔ List.Forall₂ space.Records keys devices := by
  induction keys generalizing devices with
  | nil =>
      rw [List.forall₂_nil_left_iff]
      exact ⟨fun found => (Except.ok.inj found).symm, fun found => congrArg Except.ok found.symm⟩
  | cons key rest ih =>
      rw [List.forall₂_cons_left_iff, devicesAt_cons]
      simp only [← deviceOfSlot_eq_ok_iff, ← ih]
      cases Directory.deviceOfSlot (key, space.bytes? key) with
      | error failure => exact ⟨nofun, fun ⟨_, _, slot, _⟩ => nomatch slot⟩
      | ok device =>
          cases space.devicesAt rest with
          | error failure => exact ⟨nofun, fun ⟨_, _, _, others, _⟩ => nomatch others⟩
          | ok others =>
              constructor
              · intro found
                exact ⟨device, others, rfl, rfl, (Except.ok.inj found).symm⟩
              · rintro ⟨_, _, slot, found, rfl⟩
                cases slot
                cases found
                rfl

/-- The devices under keys are found when each key holds a record that can be read. -/
theorem exists_devicesAt_iff {keys : List String} :
    (∃ devices, space.devicesAt keys = .ok devices) ↔
      ∀ key ∈ keys, ∃ device, space.Records key device := by
  simp only [devicesAt_eq_ok_iff]
  induction keys with
  | nil => simp
  | cons key rest ih =>
      simp only [List.forall_mem_cons, ← ih, List.forall₂_cons_left_iff]
      constructor
      · rintro ⟨_, device, others, records, found, _⟩
        exact ⟨⟨device, records⟩, others, found⟩
      · rintro ⟨⟨device, records⟩, others, found⟩
        exact ⟨_, device, others, records, found, rfl⟩

theorem exists_of_devicesAt_eq_error {keys : List String} {error : Error}
    (failed : space.devicesAt keys = .error error) : ∃ cause, error = Directory.damaged cause := by
  induction keys with
  | nil => cases failed
  | cons key rest ih =>
      rw [devicesAt_cons] at failed
      cases slot : Directory.deviceOfSlot (key, space.bytes? key) with
      | error failure =>
          rw [slot] at failed
          cases failed
          exact exists_of_deviceOfSlot_eq_error slot
      | ok device =>
          cases others : space.devicesAt rest with
          | error failure =>
              rw [slot, others] at failed
              cases failed
              exact ih others
          | ok devices =>
              rw [slot, others] at failed
              cases failed

theorem devicesAt_congr {other : KeySpace} {keys : List String}
    (agree : ∀ key ∈ keys, other.bytes? key = space.bytes? key) :
    other.devicesAt keys = space.devicesAt keys := by
  induction keys with
  | nil => rfl
  | cons key rest ih =>
      rw [List.forall_mem_cons] at agree
      rw [devicesAt_cons, devicesAt_cons, agree.1, ih agree.2]

end KeySpace

namespace Directory

/-! ## Evaluating page queries -/

namespace Action

variable {space : KeySpace} {source : Type} [Clock source]

theorem evaluate_fetch (keys : List String) (clock : source) :
    (fetch keys).run.evaluate space clock = (space.devicesAt keys, space, clock) := by
  have slots : (keys.zip (keys.map space.bytes?)).mapM deviceOfSlot = space.devicesAt keys := by
    rw [← List.map_prod_left_eq_zip, List.mapM_map]
    rfl
  rw [fetch]
  split
  next vacant =>
    rw [List.isEmpty_iff.1 vacant]
    rfl
  next =>
    rw [evaluate_bind_of_ok (evaluate_ask rfl), slots]
    rfl

/-- An action that takes what a window covers of a listing, for the window of a page. -/
theorem evaluate_window {listing : List String} (fits : listing.length < 2 ^ 63)
    {offset : UInt64} {limit : Int64} {clock : source} {take : Window → Action (List Device)}
    (takes : ∀ window, Window.resolve offset limit = .ok (some window) →
      (take window).run.evaluate space clock =
        (space.devicesAt (window.slice listing), space, clock)) :
    ((do
      match ← Action.ofExcept (Window.resolve offset limit) with
      | none => return []
      | some window => take window : Action (List Device)).run.evaluate space clock) =
      (Window.page offset limit listing >>= space.devicesAt, space, clock) := by
  rw [Window.page_eq fits]
  cases resolved : Window.resolve offset limit with
  | error failure => rfl
  | ok window =>
      cases window with
      | none => rfl
      | some window =>
          rw [evaluate_bind_of_ok (evaluate_ofExcept (some window) clock)]
          exact takes window resolved

theorem evaluate_page {key : String} (index : space.HasIndex key) (offset : UInt64) (limit : Int64)
    (clock : source) :
    (page key offset limit).run.evaluate space clock =
      (Window.page offset limit (space.ranked key) >>= space.devicesAt, space, clock) := by
  refine evaluate_window index.length_ranked fun window resolved => ?_
  have answered := index.answer_zrevrange window.ranks.1 window.ranks.2
  rw [Window.select_ranks resolved index.length_ranked] at answered
  rw [evaluate_bind_of_ok (evaluate_ask answered), evaluate_fetch]

/-- Intersecting with the groups of labels keeps the keys that are in all of them. -/
theorem evaluate_keepLabelled {layout : Layout} {labels keys : List String}
    (readable : ∀ key ∈ space.consulted keys (labels.map layout.labelIndex), space.HasIndex key)
    (clock : source) :
    (keepLabelled layout keys labels).run.evaluate space clock =
      (.ok (space.common keys (labels.map layout.labelIndex)), space, clock) := by
  induction labels generalizing keys with
  | nil =>
      rw [List.map_nil, KeySpace.common_nil]
      rfl
  | cons label rest ih =>
      rw [keepLabelled]
      split
      next vacant =>
        rw [List.isEmpty_iff.1 vacant]
        rfl
      next inhabited =>
        rw [List.isEmpty_iff] at inhabited
        rw [List.map_cons, KeySpace.consulted, if_neg inhabited, List.forall_mem_cons] at readable
        have kept : keys.filter ((space.ranked (layout.labelIndex label)).reverse.contains ·) =
            keys.filter (· ∈ space.ranked (layout.labelIndex label)) :=
          List.filter_congr fun key _ => by simp
        rw [evaluate_bind_of_ok (evaluate_ask readable.1.answer_all.2), kept, ih readable.2,
          List.map_cons, KeySpace.common_cons]

end Action

/-! ## Selections -/

/-- What the devices of a page are selected by. -/
inductive Selection where
  | all
  | service (name : String)
  | profile (name : String)
  | labelled (labels : List String)
deriving DecidableEq, Repr

namespace Selection

/-- The query for a page. -/
def action (layout : Layout) (offset : UInt64) (limit : Int64) : Selection → Action (List Device)
  | all => allDevices layout offset limit
  | service name => devicesByService layout offset limit name
  | profile name => devicesByProfile layout offset limit name
  | labelled labels => devicesByLabels layout offset limit labels

/-- The index that is listed, and the indexes that a key of the listing has to be in as well. -/
def indexes (layout : Layout) : Selection → String × List String
  | all => (layout.idIndex, [])
  | service name => (layout.serviceIndex name, [])
  | profile name => (layout.profileIndex name, [])
  | labelled labels =>
    match labels.eraseDups with
    | [] => (layout.idIndex, [])
    | first :: rest => (layout.labelIndex first, rest.map layout.labelIndex)

/-- The keys that are selected, in descending order. -/
def listing (layout : Layout) (space : KeySpace) (selection : Selection) : List String :=
  space.common (space.ranked (selection.indexes layout).1) (selection.indexes layout).2

/-- The keys of the indexes that are queried for them. -/
def queried (layout : Layout) (space : KeySpace) (selection : Selection) : List String :=
  (selection.indexes layout).1 ::
    space.consulted (space.ranked (selection.indexes layout).1) (selection.indexes layout).2

/-- What becomes of a page of these keys: its devices are those of the records under the keys, one for
one, and when a record is missing or cannot be read there are no devices at all. -/
structure Pages (space : KeySpace) (keys : List String) (outcome : Except Error (List Device)) :
    Prop where
  succeeds : (∃ devices, outcome = .ok devices) ↔ ∀ key ∈ keys, ∃ device, space.Records key device
  aligned : ∀ devices, outcome = .ok devices ↔ List.Forall₂ space.Records keys devices
  fails : ∀ error, outcome = .error error → error.kind = .databaseError

variable {layout : Layout} {space : KeySpace} {selection : Selection}

theorem pages_devicesAt (space : KeySpace) (keys : List String) :
    Pages space keys (space.devicesAt keys) where
  succeeds := KeySpace.exists_devicesAt_iff
  aligned _ := KeySpace.devicesAt_eq_ok_iff
  fails error failed := by
    obtain ⟨cause, rfl⟩ := KeySpace.exists_of_devicesAt_eq_error failed
    rfl

theorem listing_of_alone (alone : (selection.indexes layout).2 = []) :
    selection.listing layout space = space.ranked (selection.indexes layout).1 := by
  rw [listing, alone, KeySpace.common_nil]

/-- A selection depends on the indexes alone that are queried for it. -/
theorem listing_congr {other : KeySpace}
    (agree : ∀ key ∈ selection.queried layout space, other[key]? = space[key]?) :
    selection.queried layout other = selection.queried layout space ∧
      selection.listing layout other = selection.listing layout space := by
  rw [queried, List.forall_mem_cons] at agree
  obtain ⟨read, found⟩ := KeySpace.consulted_congr agree.2
  rw [queried, queried, listing, listing, KeySpace.ranked_congr agree.1]
  exact ⟨congrArg (_ :: ·) read, found⟩

theorem length_listing (readable : ∀ key ∈ selection.queried layout space, space.HasIndex key) :
    (selection.listing layout space).length < 2 ^ 63 :=
  Nat.lt_of_le_of_lt (List.length_filter_le _ _)
    (readable _ List.mem_cons_self).length_ranked

variable {source : Type} [Clock source]

/-- A page query takes the devices of the records that a page of the listing leads to. -/
theorem evaluate_action (readable : ∀ key ∈ selection.queried layout space, space.HasIndex key)
    (offset : UInt64) (limit : Int64) (clock : source) :
    (selection.action layout offset limit).run.evaluate space clock =
      (Window.page offset limit (selection.listing layout space) >>= space.devicesAt,
        space, clock) := by
  have fits := length_listing readable
  rw [queried, List.forall_mem_cons] at readable
  obtain ⟨first, rest⟩ := readable
  cases selection with
  | all | service | profile =>
      rw [listing_of_alone rfl]
      exact Action.evaluate_page first offset limit clock
  | labelled labels =>
      rw [action, devicesByLabels]
      cases distinct : labels.eraseDups with
      | nil =>
          have indexes : (labelled labels).indexes layout = (layout.idIndex, []) := by
            rw [indexes, distinct]
          rw [indexes] at first
          rw [listing_of_alone (by rw [indexes]), indexes]
          exact Action.evaluate_page first offset limit clock
      | cons label others =>
          have indexes : (labelled labels).indexes layout =
              (layout.labelIndex label, others.map layout.labelIndex) := by
            rw [indexes, distinct]
          rw [indexes] at first rest
          cases others with
          | nil =>
              rw [listing_of_alone (by rw [indexes]; rfl), indexes]
              exact Action.evaluate_page first offset limit clock
          | cons second others =>
              refine Action.evaluate_window fits fun window _ => ?_
              rw [Action.evaluate_bind_of_ok (Action.evaluate_ask first.answer_all.1),
                Action.evaluate_bind_of_ok (Action.evaluate_keepLabelled rest clock),
                Action.evaluate_fetch, listing, indexes]

variable {offset : UInt64} {limit : Int64} {keys : List String}

theorem run_eq_devicesAt {link : Link} (quiet : link.Quiet) (clock : source)
    (readable : ∀ key ∈ selection.queried layout link.memory.space, link.memory.space.HasIndex key)
    (covered : Window.page offset limit (selection.listing layout link.memory.space) = .ok keys) :
    ((selection.action layout offset limit).run.run link clock).1 =
      link.memory.space.devicesAt keys := by
  have evaluated := Script.run_of_quiet (selection.action layout offset limit).run quiet clock
  rw [evaluate_action readable, covered] at evaluated
  exact congrArg Prod.fst evaluated.2

/-- A page of any key space in which the indexes that are queried can be read. The page is there exactly
when every key of it leads to a record that can be read, and it then has their devices, one for one; in
all other cases the whole page fails as damaged. Nothing matters to it but the queried indexes and what
is stored under the keys of the page. -/
theorem run_action {link : Link} (quiet : link.Quiet) (clock : source)
    (readable : ∀ key ∈ selection.queried layout link.memory.space, link.memory.space.HasIndex key)
    (covered : Window.page offset limit (selection.listing layout link.memory.space) = .ok keys) :
    Pages link.memory.space keys ((selection.action layout offset limit).run.run link clock).1 ∧
      ∀ (other : Link) (otherClock : source), other.Quiet →
        (∀ key ∈ selection.queried layout link.memory.space,
          other.memory.space[key]? = link.memory.space[key]?) →
        (∀ key ∈ keys, other.memory.space.bytes? key = link.memory.space.bytes? key) →
        ((selection.action layout offset limit).run.run other otherClock).1 =
          ((selection.action layout offset limit).run.run link clock).1 := by
  rw [run_eq_devicesAt quiet clock readable covered]
  refine ⟨pages_devicesAt _ keys, fun other otherClock otherQuiet agree same => ?_⟩
  obtain ⟨queries, lists⟩ := listing_congr agree
  have otherReadable : ∀ key ∈ selection.queried layout other.memory.space,
      other.memory.space.HasIndex key := by
    rw [queries]
    exact fun key asked => (KeySpace.hasIndex_congr (agree key asked)).2 (readable key asked)
  have otherCovered :
      Window.page offset limit (selection.listing layout other.memory.space) = .ok keys := by
    rw [lists, covered]
  rw [run_eq_devicesAt otherQuiet otherClock otherReadable otherCovered,
    KeySpace.devicesAt_congr same]

/-- The index of ids lists a key without a record before that of a device: the first page fails, the
second one is there. -/
theorem run_action_dangling :
    let device := Device.plain "a" "b" "s" "p"
    let key := Layout.standard.recordKey "a"
    let index := SortedSet.replay [.insert key .zero, .insert "~" .zero]
    let space : KeySpace := (∅ : KeySpace).insert Layout.standard.idIndex (.sortedSet index)
      |>.insert key (.string device.encode)
    let link : Link := { Link.empty with memory := { Memory.empty with space := space } }
    let listing := all.listing .standard space
    let outcome offset :=
      ((all.action .standard offset 1).run.run link (⟨0, 1⟩ : ManualClock)).1
    link.Quiet ∧ (∀ key ∈ all.queried .standard space, space.HasIndex key) ∧
      Window.page 0 1 listing = .ok ["~"] ∧ Window.page 1 1 listing = .ok [key] ∧
      (∀ devices, outcome 0 ≠ .ok devices) ∧ outcome 1 = .ok [device] := by
  intro device key index space link listing outcome
  have quiet : link.Quiet := ⟨rfl, rfl, rfl⟩
  have read : space.sortedSet Layout.standard.idIndex = .ok index := by
    have apart : key ≠ Layout.standard.idIndex := by decide
    have held : space[Layout.standard.idIndex]? = some (.sortedSet index) := by
      simp only [space, Text.Map.lookup_insert, if_neg apart, if_true]
    rw [KeySpace.sortedSet, held]
  have readable : ∀ key ∈ all.queried .standard space, space.HasIndex key := by
    rintro key (_ | ⟨_, ⟨⟩⟩)
    exact ⟨index, read, by decide⟩
  have listed : listing = ["~", key] := by
    have ranked : space.ranked Layout.standard.idIndex = ["~", key] := by
      rw [KeySpace.ranked, read]
      decide
    exact (listing_of_alone rfl).trans ranked
  have first : Window.page 0 1 listing = .ok ["~"] := by rw [listed]; rfl
  have second : Window.page 1 1 listing = .ok [key] := by rw [listed]; rfl
  have records : space.Records key device := by
    have held : space[key]? = some (.string device.encode) := by
      simp only [space, Text.Map.lookup_insert, if_true]
    exact ⟨device.encode, KeySpace.bytes?_eq_some_iff.2 held, device.decode_encode⟩
  have missing : ¬ ∃ device, space.Records "~" device := by
    rintro ⟨device, bytes, record, _⟩
    have other : key ≠ "~" := by decide
    have foreign : Layout.standard.idIndex ≠ "~" := by decide
    rw [KeySpace.bytes?_eq_some_iff] at record
    simp [space, other, foreign] at record
  have pages {offset : UInt64} {keys : List String}
      (covered : Window.page offset 1 listing = .ok keys) :=
    (run_action quiet (⟨0, 1⟩ : ManualClock) readable covered).1
  refine ⟨quiet, readable, first, second, fun devices found => ?_, ?_⟩
  · exact missing ((pages first).succeeds.1 ⟨devices, found⟩ "~" (by simp))
  · exact ((pages second).aligned [device]).2 (.cons records .nil)

end Selection

end Directory

end DeviceCatalog
