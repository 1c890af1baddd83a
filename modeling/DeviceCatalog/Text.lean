import Std.Data.ExtTreeMap
import Std.Data.ExtTreeSet

/-!
# Text and bytes

Stored values are bytes; keys, names and members are text. This module relates the two through
UTF-8 and fixes the order of text: by code points, which is also the order of the UTF-8 bytes.
-/

namespace DeviceCatalog

/-- A stored value. -/
abbrev Bytes := List UInt8

namespace Bytes

/-- The UTF-8 encoding of a text. -/
def ofText (text : String) : Bytes := text.toByteArray.data.toList

/-- The text that the bytes encode, when they are valid UTF-8. -/
def text? (bytes : Bytes) : Option String := String.fromUTF8? ⟨bytes.toArray⟩

@[simp] theorem text?_ofText (text : String) : text? (ofText text) = some text := by
  have valid : text.toByteArray.IsValidUTF8 := text.isValidUTF8
  simp [text?, ofText, String.fromUTF8?, String.fromUTF8, valid]

theorem ofText_append (left right : String) : ofText (left ++ right) = ofText left ++ ofText right := by
  simp [ofText, String.toByteArray_append]

end Bytes

namespace Text

/-- Parts joined by a separator; no separator stands before the first part or after the last. -/
def join (separator : String) : List String → String
  | [] => ""
  | [part] => part
  | part :: next :: rest => part ++ separator ++ join separator (next :: rest)

@[simp] theorem join_pair (separator first second : String) :
    join separator [first, second] = first ++ separator ++ second := rfl

@[simp] theorem join_three (separator first second third : String) :
    join separator [first, second, third] =
      first ++ separator ++ (second ++ separator ++ third) := rfl

/-- Whether a text starts with another. -/
def startsWith (text start : String) : Bool := start.toList.isPrefixOf text.toList

/-- A map from texts, listed by code points. -/
abbrev Map (value : Type) := Std.ExtTreeMap String value

/-! Looking up a text after a change, with the texts told apart by equality. -/

theorem Map.lookup_insert {value : Type} (map : Map value) (text other : String) (held : value) :
    (map.insert text held)[other]? = if text = other then some held else map[other]? := by
  rw [Std.ExtTreeMap.getElem?_insert]
  by_cases same : text = other <;> simp [same]

theorem Map.lookup_erase {value : Type} (map : Map value) (text other : String) :
    (map.erase text)[other]? = if text = other then none else map[other]? := by
  rw [Std.ExtTreeMap.getElem?_erase]
  by_cases same : text = other <;> simp [same]

/-- Erasing a text that is not there changes nothing. -/
theorem Map.erase_of_absent {value : Type} {map : Map value} {text : String}
    (absent : map.contains text = false) : map.erase text = map := by
  apply Std.ExtTreeMap.ext_getElem?
  intro other
  rw [lookup_erase]
  split
  next same =>
    rw [Std.ExtTreeMap.contains_eq_isSome_getElem?, same] at absent
    exact (Option.isSome_eq_false_iff.1 absent |> Option.isNone_iff_eq_none.1).symm
  next => rfl

/-- Entries with distinct texts make up a map of which they are the entries. -/
theorem Map.lookup_ofList {value : Type} {entries : List (String × value)}
    (distinct : (entries.map Prod.fst).Nodup) (text : String) (held : value) :
    (Std.ExtTreeMap.ofList entries : Map value)[text]? = some held ↔ (text, held) ∈ entries := by
  have apart : entries.Pairwise fun left right => ¬ compare left.1 right.1 = .eq := by
    simpa [List.Nodup, List.pairwise_map] using distinct
  constructor
  · intro found
    by_cases listed : text ∈ entries.map Prod.fst
    · obtain ⟨⟨name, other⟩, member, rfl⟩ := List.mem_map.1 listed
      rw [Std.ExtTreeMap.getElem?_ofList_of_mem (Std.LawfulEqCmp.compare_eq_iff_eq.2 rfl) apart
        member] at found
      cases found
      exact member
    · rw [Std.ExtTreeMap.getElem?_ofList_of_contains_eq_false (by simpa using listed)] at found
      cases found
  · exact Std.ExtTreeMap.getElem?_ofList_of_mem (Std.LawfulEqCmp.compare_eq_iff_eq.2 rfl) apart

/-- A map is made up of its entries, in whatever order they are listed. -/
theorem Map.ofList_of_perm {value : Type} {entries : List (String × value)} {map : Map value}
    (listed : entries.Perm map.toList) : Std.ExtTreeMap.ofList entries = map := by
  have distinct : (map.toList.map Prod.fst).Nodup := by
    rw [List.Nodup, List.pairwise_map]
    simpa using! map.distinct_keys_toList
  apply Std.ExtTreeMap.ext_getElem?
  intro text
  apply Option.ext
  intro held
  rw [lookup_ofList ((listed.map Prod.fst).nodup_iff.2 distinct), listed.mem_iff]
  exact Std.ExtTreeMap.mem_toList_iff_getElem?_eq_some

/-- A set of texts, listed by code points and without repetition. -/
abbrev Set := Std.ExtTreeSet String

/-- A text starts with another exactly when the rest of it can be written after the other. -/
theorem startsWith_iff (text start : String) :
    startsWith text start = true ↔ ∃ rest, text = start ++ rest := by
  simp only [startsWith, List.isPrefixOf_iff_prefix]
  constructor
  · rintro ⟨rest, same⟩
    refine ⟨String.ofList rest, ?_⟩
    apply String.toList_inj.1
    simp [same]
  · rintro ⟨rest, rfl⟩
    exact ⟨rest.toList, by simp⟩

end Text

end DeviceCatalog
