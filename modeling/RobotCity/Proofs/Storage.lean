import Mathlib.Data.List.Basic
import RobotCity.Proofs.Newlines
import RobotCity.Proofs.Utf8
import RobotCity.Storage.Basic

/-!
# Files that are written and read back

A file that has been written holds what was written, can be written again, and nothing else has
changed.  A text comes back from its bytes with its line ends written alike.
-/

namespace RobotCity

namespace Storage

variable {storage next : Storage} {names other : List String} {entry : Entry} {path : String}
  {bytes : List UInt8}

theorem lookup_setEntry (names other : List String) (entry : Entry)
    (entries : List (List String × Entry)) :
    (setEntry names entry entries).lookup other =
      if other = names then some entry else entries.lookup other := by
  induction entries with
  | nil =>
      by_cases same : other = names
      · simp [setEntry, same]
      · simp [setEntry, List.lookup_cons, beq_false_of_ne same, same]
  | cons first rest ih =>
      obtain ⟨name, old⟩ := first
      by_cases here : name = names
      · by_cases same : other = names
        · simp [setEntry, here, same]
        · simp [setEntry, List.lookup_cons, here, beq_false_of_ne same, same]
      · by_cases there : other = name
        · simp [setEntry, here, there]
        · simp [setEntry, List.lookup_cons, here, beq_false_of_ne there, ih]

theorem entry?_set_of_ne (differs : other ≠ names) :
    Storage.entry? (storage.set names entry) other = storage.entry? other := by
  simp [ entry?, set, lookup_setEntry, differs]

theorem entry?_set_self (inside : ¬isOutside names) :
    Storage.entry? (storage.set names entry) names = some entry := by
  simp [ entry?, set, lookup_setEntry, inside]

/-- What can be written over is not outside of the storage. -/
theorem not_isOutside_of_no_directory (no_directory : storage.entry? names ≠ some .directory) :
    ¬isOutside names := by
  intro outside
  exact no_directory (by rw [ entry?, if_pos outside])

/-- Names are followed through directories alone, so that a new file does not change where they
lead. -/
theorem follow_set (no_directory : storage.entry? names ≠ some .directory)
    {reached steps last : List String} (followed : storage.follow reached steps = .ok last) :
    (storage.set names entry).follow reached steps = .ok last := by
  induction steps generalizing reached with
  | nil => exact followed
  | cons name rest ih =>
      rw [follow] at followed ⊢
      cases found : storage.entry? reached with
      | none =>
          rw [found] at followed
          cases followed
      | some there =>
          cases there with
          | file old =>
              rw [found] at followed
              cases followed
          | directory =>
              have differs : reached ≠ names := by
                rintro rfl
                exact no_directory found
              rw [found] at followed
              rw [ entry?_set_of_ne differs, found]
              exact ih followed

theorem resolve_set (no_directory : storage.entry? names ≠ some .directory)
    (resolved : storage.resolve path = .ok names) :
    (storage.set names entry).resolve path = .ok names := by
  rw [resolve, resolveSteps] at resolved ⊢
  split at resolved
  · cases resolved
  · rename_i no_null
    rw [if_neg no_null]
    cases followed : storage.follow [] (pathNames path) with
    | error fault =>
        rw [followed] at resolved
        cases resolved
    | ok last =>
        rw [followed] at resolved
        cases resolved
        rw [follow_set no_directory followed]
        rfl

/-- Bytes can be written to a path that leads to a file or to nothing. -/
structure Leads (storage : Storage) (path : String) (names : List String) : Prop where
  resolved : storage.resolve path = .ok names
  no_directory : storage.entry? names ≠ some .directory

theorem writeBytes_eq_ok_iff :
    storage.writeBytes path bytes = .ok next ↔
      ∃ names, storage.Leads path names ∧ next = storage.set names (.file bytes) := by
  rw [writeBytes]
  cases resolved : storage.resolve path with
  | error error =>
      refine ⟨nofun, ?_⟩
      rintro ⟨names, leads, -⟩
      cases resolved.symm.trans leads.resolved
  | ok names =>
      have names_same {other : List String} (leads : storage.Leads path other) : other = names :=
        Except.ok.inj (leads.resolved.symm.trans resolved)
      simp only [bind, Except.bind]
      split
      · rename_i found
        refine ⟨nofun, ?_⟩
        rintro ⟨other, leads, -⟩
        exact absurd (names_same leads ▸ found) leads.no_directory
      · rename_i no_directory
        constructor
        · rintro ⟨⟩
          exact ⟨names, ⟨resolved, no_directory⟩, rfl⟩
        · rintro ⟨other, leads, rfl⟩
          rw [names_same leads]

theorem Leads.set (leads : storage.Leads path names) :
    (storage.set names (.file bytes)).Leads path names := by
  refine ⟨resolve_set leads.no_directory leads.resolved, ?_⟩
  rw [ entry?_set_self (not_isOutside_of_no_directory leads.no_directory)]
  simp

theorem Leads.readBytes (leads : storage.Leads path names) :
    (storage.set names (.file bytes)).readBytes path = .ok bytes := by
  rw [Storage.readBytes, resolve_set leads.no_directory leads.resolved]
  simp only [bind, Except.bind]
  rw [ entry?_set_self (not_isOutside_of_no_directory leads.no_directory)]

end Storage

/-- A text comes back from its bytes with its line ends written alike. -/
theorem decodeText_encode (text : List Char) :
    decodeText (Utf8.encode text) = .ok (Text.unifyNewlines text) := by
  rw [decodeText, Utf8.decode_encode]
  rfl

end RobotCity
