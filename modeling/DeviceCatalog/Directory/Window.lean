import DeviceCatalog.Error

/-!
# Windows of a listing

A page of a listing is asked for by the number of entries to skip and the number of entries to
take, where `-1` takes all that remain. The substrate pages by inclusive signed ranks instead. A
window is the resolved form of a page, and it can be applied in both ways: as a pair of ranks, and
to a listing that is already at hand. All of its arithmetic is done in machine words.
-/

namespace DeviceCatalog

/-- A non-empty page: the first rank and the last one, where a window without a last rank runs to
the end of the listing. -/
structure Window where
  start : UInt64
  stop : Option UInt64
deriving DecidableEq, Repr

namespace Window

/-- The largest rank that the substrate can be asked for. -/
def largestRank : UInt64 := 0x7FFFFFFFFFFFFFFF

/-- A sum that stays at the largest word instead of wrapping around. -/
def saturatingAdd (left right : UInt64) : UInt64 :=
  if left + right < left then 0xFFFFFFFFFFFFFFFF else left + right

/-- The window that skips `offset` entries and takes `limit` of them; there is none when nothing
is to be taken. A limit of zero is told apart here because a last rank before the first one would
count from the end of the listing. -/
def resolve (offset : UInt64) (limit : Int64) : Except Error (Option Window) :=
  if largestRank < offset then
    .error (.invalidInput ("offset " ++ Nat.repr offset.toNat ++ " out of range"))
  else if limit = -1 then .ok (some ⟨offset, none⟩)
  else if limit = 0 then .ok none
  else if 0 < limit then
    let last := saturatingAdd offset (limit.toUInt64 - 1)
    .ok (some ⟨offset, some (if last < largestRank then last else largestRank)⟩)
  else
    .error (.invalidInput ("limit must be -1 or non-negative, got " ++ Int.repr limit.toInt))

/-- The window as inclusive ranks. -/
def ranks (window : Window) : Int64 × Int64 :=
  (window.start.toInt64,
    match window.stop with
    | some stop => stop.toInt64
    | none => -1)

/-- The part of a listing that the window covers. -/
def slice {entry : Type} (window : Window) (listing : List entry) : List entry :=
  let rest := listing.drop window.start.toNat
  match window.stop with
  | some stop => rest.take (stop - window.start + 1).toNat
  | none => rest

end Window

end DeviceCatalog
