import DeviceCatalog.Settings
import DeviceCatalog.Proofs.Toml

/-!
# Settings are loaded as they were saved

Saving writes a document of up to five lines, and the document reads back as the tree of the settings,
whatever characters their texts are made of. What the checks say about the settings is all that can
keep them from being loaded again.
-/

namespace DeviceCatalog.Settings

open Toml Toml.Draft

/-- The tree of the document that settings are written as. -/
def entries (settings : Settings) : Entries :=
  [("collection", .string settings.collection), ("separator", .string settings.separator)] ++
    match settings.redis with
    | none => []
    | some address => [("redis", .table .header [("url", .string address)])]

theorem ofEntries?_entries (settings : Settings) : ofEntries? settings.entries = some settings := by
  obtain ⟨collection, separator, redis⟩ := settings
  cases redis with
  | none => rfl
  | some address => rfl

theorem settingLine_append (name text : String) (rest : List Char) :
    settingLine name text ++ rest =
      name.toList ++ ' ' :: '=' :: ' ' :: (writeText text ++ '\n' :: rest) := by
  simp [settingLine]

/-- The lines of the layout, which come first. -/
theorem lines?_layout (collection separator : String) (fuel : Nat) (rest : List Char) :
    lines? (fuel + 2) .start
        (settingLine "collection" collection ++ (settingLine "separator" separator ++ rest)) =
      lines? fuel ⟨entries ⟨collection, separator, none⟩, []⟩ rest := by
  have first : Entries.defineIn? [] [] "collection" (.string collection) [] =
      some [("collection", .string collection)] := rfl
  have second : Entries.defineIn? [] [] "separator" (.string separator)
        [("collection", .string collection)] =
      some (entries ⟨collection, separator, none⟩) := rfl
  rw [settingLine_append, lines?_writeText (by decide), start, first, Option.bind_some,
    settingLine_append, lines?_writeText (by decide), second, Option.bind_some]

/-- The lines of the address, which come last. -/
theorem lines?_address (collection separator address : String) (fuel : Nat) :
    lines? (fuel + 3) ⟨entries ⟨collection, separator, none⟩, []⟩
        ("\n[redis]\n".toList ++ settingLine "url" address) =
      some ⟨entries ⟨collection, separator, some address⟩, ["redis"]⟩ := by
  have header : "\n[redis]\n".toList ++ settingLine "url" address =
      '\n' :: '[' :: ("redis".toList ++ ']' :: '\n' :: (settingLine "url" address ++ [])) := by
    simp
  have opened : (entries ⟨collection, separator, none⟩).openTable? [] "redis" =
      some (entries ⟨collection, separator, none⟩ ++ [("redis", .table .header [])]) := rfl
  have defined : Entries.defineIn? ["redis"] [] "url" (.string address)
        (entries ⟨collection, separator, none⟩ ++ [("redis", .table .header [])]) =
      some (entries ⟨collection, separator, some address⟩) := rfl
  have ended (draft : Draft) : lines? fuel draft [] = some draft := by
    cases fuel <;> rfl
  rw [header, lines?_empty, lines?_header (by decide), opened, Option.bind_some,
    settingLine_append, lines?_writeText (by decide), defined, Option.bind_some, ended]

/-- The document that settings are written as reads back as their tree. -/
theorem read?_write (settings : Settings) : read? settings.write = some settings.entries := by
  have lines : ∃ opened, lines? 5 .start settings.write.toList = some ⟨settings.entries, opened⟩ := by
    obtain ⟨collection, separator, redis⟩ := settings
    rw [write, String.toList_ofList, List.append_assoc, lines?_layout]
    cases redis with
    | none => exact ⟨_, rfl⟩
    | some address => exact ⟨_, lines?_address collection separator address 0⟩
  obtain ⟨others, written⟩ : ∃ others, settings.write.toList = "collection".toList ++ others := by
    rw [write, String.toList_ofList, List.append_assoc, settingLine_append]
    exact ⟨_, rfl⟩
  have unmarked : withoutMark settings.write.toList = settings.write.toList := by
    rw [written]
    rfl
  have enough : 5 ≤ settings.write.toList.length := by
    rw [written, List.length_append]
    exact Nat.le_trans (by decide) (Nat.le_add_right _ _)
  obtain ⟨opened, lines⟩ := lines
  rw [read?, unmarked]
  simp only [lines?_mono lines enough, Option.map_some]

theorem parse_write (settings : Settings) : parse settings.write = .ok settings := by
  rw [parse, read?_write, Option.bind_eq_bind, Option.bind_some, ofEntries?_entries]

/-- What was saved is loaded again, up to the checks. -/
theorem load_file_write (settings : Settings) :
    load (.file (Bytes.ofText settings.write)) = settings.validate.map fun _ => settings := by
  rw [load, Bytes.text?_ofText]
  simp only [parse_write]
  change (settings.validate.bind fun _ => .ok settings) = _
  cases settings.validate <;> rfl

/-! ## Saving and loading -/

theorem exists_invalid_of_validate {settings : Settings} {failure : SettingsError}
    (refused : settings.validate = .error failure) : ∃ reason, failure = .invalid reason := by
  rw [validate] at refused
  split at refused
  next => exact ⟨_, (Except.error.inj refused).symm⟩
  split at refused
  next => exact ⟨_, (Except.error.inj refused).symm⟩
  split at refused
  next => exact ⟨_, (Except.error.inj refused).symm⟩
  next => cases refused

/-- Settings that were loaded have passed the checks. -/
theorem validate_of_load {settings : Settings} {path : FileState}
    (loaded : load path = .ok settings) : settings.validate = .ok () := by
  cases path with
  | absent => cases loaded
  | folder => cases loaded
  | file content =>
      rw [load] at loaded
      split at loaded
      next => cases loaded
      next text _ =>
        cases parsed : parse text with
        | error failure =>
            rw [parsed] at loaded
            cases loaded
        | ok read =>
            rw [parsed] at loaded
            change (read.validate.bind fun _ => .ok read) = .ok settings at loaded
            cases checked : read.validate with
            | error failure =>
                rw [checked] at loaded
                cases loaded
            | ok =>
                rw [checked] at loaded
                cases loaded
                exact checked

/-- Where a file can be written, settings are saved whatever their texts are, and what is loaded then
are the very settings that were saved. Only the checks can refuse them, with the reason that they give
for the settings themselves. So settings that were loaded can be saved and loaded again. -/
theorem load_of_save (settings : Settings) :
    (∀ path, path ≠ .folder → ∃ saved, settings.save path = .ok saved ∧
      (settings.validate = .ok () → load saved = .ok settings) ∧
      ∀ failure, settings.validate = .error failure →
        (∃ reason, failure = .invalid reason) ∧ load saved = .error failure) ∧
    ∀ path, load path = .ok settings →
      ∃ saved, settings.save path = .ok saved ∧ load saved = .ok settings := by
  have saves {path : FileState} (writable : path ≠ .folder) :
      settings.save path = .ok (.file (Bytes.ofText settings.write)) := by
    cases path with
    | folder => exact absurd rfl writable
    | absent => rfl
    | file content => rfl
  have loads := settings.load_file_write
  constructor
  · intro path writable
    refine ⟨_, saves writable, fun accepted => ?_, fun failure refused => ?_⟩
    · rw [loads, accepted]
      rfl
    · rw [loads, refused]
      exact ⟨exists_invalid_of_validate refused, rfl⟩
  · intro path loaded
    have writable : path ≠ .folder := by
      rintro rfl
      cases loaded
    refine ⟨_, saves writable, ?_⟩
    rw [loads, validate_of_load loaded]
    rfl

/-- Texts with marks, line ends and control characters, and settings that are refused. -/
theorem load_of_save_escaped :
    let settings : Settings := ⟨"\x22\x27\\\r\n", "\n\x22\x22\x22\x22", some "\x07\t"⟩
    let refused : Settings := ⟨"a", "", none⟩
    FileState.absent ≠ .folder ∧ settings.validate = .ok () ∧
      (∃ saved, settings.save .absent = .ok saved ∧ load saved = .ok settings ∧
        ∃ again, settings.save saved = .ok again ∧ load again = .ok settings) ∧
      ∃ saved, refused.save .absent = .ok saved ∧
        load saved = .error (.invalid "separator must not be empty") := by
  intro settings refused
  have writable : FileState.absent ≠ .folder := nofun
  have accepted : settings.validate = .ok () := rfl
  obtain ⟨saves, repeats⟩ := load_of_save settings
  obtain ⟨saved, written, loads, _⟩ := saves .absent writable
  obtain ⟨other, otherWritten, _, refuses⟩ := (load_of_save refused).1 .absent writable
  exact ⟨writable, accepted,
    ⟨saved, written, loads accepted, repeats saved (loads accepted)⟩,
    ⟨other, otherWritten, (refuses _ rfl).2⟩⟩

end DeviceCatalog.Settings
