import Mathlib.Control.Monad.Basic
import TypedMemory.Proofs.Files
import TypedMemory.Settings.Manager

/-!
# Updates that fail

An update fails only if the settings are kept in a file and the changed settings
could not be stored there, because they are no text, and then nothing is written, or
because the file could not be written (`Manager.update_error_iff`). The disk is then as
the failed write left it, and the settings are still kept in the same file. But the
change is in force in memory, so a failed update leaves the manager as it was exactly if
it was no change (`Manager.failed_update_in_force`).
-/

namespace TypedMemory

namespace Manager

variable {σ : Type} {files : FileSystem σ} {manager : Manager} {disk left : σ} {path : Path}
  {settings : Settings} {change : Settings → Settings} {error : Error}

/-- Settings are not stored: with which error, and what is left of the disk. -/
inductive Unstored (files : FileSystem σ) (path : Path) (settings : Settings) (disk : σ) :
    Error → σ → Prop
  /-- The settings are no text. Nothing is written. -/
  | notText {error : Error} (refused : settings.pretty = .error error) :
      Unstored files path settings disk error disk
  /-- The file cannot be written. The disk is as the write left it. -/
  | unwritten {text : String} {fault : IoFault} {left : σ} (pretty : settings.pretty = .ok text)
      (failed : files.write disk path (Utf8.encode text) = (.error fault, left)) :
      Unstored files path settings disk (Manager.unwritten path fault) left

/-- Where a failed write changes nothing, settings that are not stored leave the disk as
it was. -/
theorem Unstored.unchanged (unstored : Unstored files path settings disk error left)
    (whole : files.AllOrNothing) : left = disk := by
  cases unstored with
  | notText => rfl
  | unwritten _ failed => exact whole failed

/-- Settings are not stored if they are no text, or if the file cannot be written. -/
theorem store_error_iff : store files path settings disk = (.error error, left) ↔
    Unstored files path settings disk error left := by
  unfold store
  constructor
  · intro failed
    split at failed
    · next refused =>
        cases failed
        exact .notText refused
    · next text pretty =>
        split at failed <;> cases failed
        next fault failed => exact .unwritten pretty failed
  · rintro (refused | ⟨pretty, failed⟩)
    · rw [refused]
    · simp only [pretty, failed]

/-- A save fails as storing the settings fails. -/
theorem save_error_iff : (manager.save files path disk).result = .error error ↔
    (store files path manager.settings disk).1 = .error error := by
  unfold save
  rcases store files path manager.settings disk with ⟨_ | _, left⟩ <;> simp

/-- A save that fails leaves the manager as it was, and the disk as storing left it. -/
theorem save_of_error (failed : (manager.save files path disk).result = .error error) :
    manager.save files path disk =
      ⟨.error error, manager, (store files path manager.settings disk).2, []⟩ := by
  have unstored := save_error_iff.mp failed
  unfold save
  rcases stored : store files path manager.settings disk with ⟨_ | _, left⟩
  · rw [stored] at unstored
    cases unstored
    rfl
  · rw [stored] at unstored
    cases unstored

/-- An update of a manager with a file changes the settings and then saves them. -/
theorem update_of_kept (kept : manager.file = some path) :
    manager.update files change disk =
      save files path { manager with settings := change manager.settings } disk := by
  simp only [update, kept]

/-- An update fails exactly if the changed settings cannot be stored in their file. -/
theorem update_error_iff : (manager.update files change disk).result = .error error ↔
    ∃ path, manager.file = some path ∧
      (store files path (change manager.settings) disk).1 = .error error := by
  cases kept : manager.file with
  | none => simp [update, kept]
  | some path => simp [update_of_kept kept, save_error_iff]

/-- What an update that fails leaves: the changed settings in memory, the same file, and
the disk as storing left it. -/
theorem update_of_error (failed : (manager.update files change disk).result = .error error) :
    ∃ path left, manager.file = some path ∧
      Unstored files path (change manager.settings) disk error left ∧
      manager.update files change disk =
        ⟨.error error, { manager with settings := change manager.settings }, left, []⟩ := by
  obtain ⟨path, kept, unstored⟩ := update_error_iff.mp failed
  refine ⟨path, _, kept, store_error_iff.mp (Prod.ext unstored rfl), ?_⟩
  rw [update_of_kept kept] at failed ⊢
  exact save_of_error failed

/-- **A failed update is in force in memory.** If an update fails, or settings that
are put in place of others are not stored, then the settings are kept in the same file,
but the new settings are in force. So the manager is as before if and only if the update
was no change. The settings were no text, and the disk is as before, or the write failed,
and the disk is as the write left it: as before, where a failed write changes nothing. -/
theorem failed_update_in_force (files : FileSystem σ) (manager : Manager) (disk : σ) :
    (∀ change error, (manager.update files change disk).result = .error error →
      let outcome := manager.update files change disk
      (∃ path, manager.file = some path ∧
        Unstored files path (change manager.settings) disk error outcome.disk) ∧
      (files.AllOrNothing → outcome.disk = disk) ∧ outcome.manager.file = manager.file ∧
      outcome.manager.settings = change manager.settings ∧
      (outcome.manager = manager ↔ change manager.settings = manager.settings)) ∧
    (∀ settings error, (manager.apply files settings disk).result = .error error →
      let outcome := manager.apply files settings disk
      (∃ path, manager.file = some path ∧
        Unstored files path settings disk error outcome.disk) ∧
      (files.AllOrNothing → outcome.disk = disk) ∧ outcome.manager.file = manager.file ∧
      outcome.manager.settings = settings ∧
      (outcome.manager = manager ↔ settings = manager.settings)) := by
  have updates (change : Settings → Settings) (error : Error)
      (failed : (manager.update files change disk).result = .error error) :
      let outcome := manager.update files change disk
      (∃ path, manager.file = some path ∧
        Unstored files path (change manager.settings) disk error outcome.disk) ∧
      (files.AllOrNothing → outcome.disk = disk) ∧ outcome.manager.file = manager.file ∧
      outcome.manager.settings = change manager.settings ∧
      (outcome.manager = manager ↔ change manager.settings = manager.settings) := by
    obtain ⟨path, left, kept, unstored, updated⟩ := update_of_error failed
    rw [updated]
    refine ⟨⟨path, kept, unstored⟩, unstored.unchanged, rfl, rfl, ?_⟩
    constructor
    · intro same
      exact congrArg Manager.settings same
    · intro same
      simp only [same]
  exact ⟨updates, fun settings => updates fun _ => settings⟩

section Homeless

open Simulation

/-- Settings that are kept in a file in a directory which is not there. -/
def homeless : Manager := keptIn {} (.ofText "no/such/dir.json")

def lessTalk (settings : Settings) : Settings :=
  settings.withLogging fun logging => { logging with level := "warn" }

def homelessFault : Error :=
  .io ("Failed to write config file \"no/such/dir.json\": " ++
    "No such file or directory (os error 2)")

/-- There is no directory to write to. The update fails, and the new settings are in force. -/
theorem homeless_update_in_force :
    let outcome := homeless.update FileTree.fileSystem lessTalk {}
    outcome.result = .error homelessFault ∧
    outcome.disk = {} ∧ outcome.manager.settings = lessTalk {} := by
  intro outcome
  have failed : outcome.result = .error homelessFault := by decide +kernel
  obtain ⟨_, unchanged, _, settings, _⟩ :=
    (failed_update_in_force FileTree.fileSystem homeless {}).1 lessTalk _ failed
  exact ⟨failed, unchanged FileTree.fileSystem_allOrNothing, settings⟩

/-- It is not so that a failed update changes nothing. -/
theorem failed_update_changes_settings :
    ¬ ∀ (manager : Manager) (change : Settings → Settings) (tree : FileTree) (error : Error),
      let outcome := manager.update FileTree.fileSystem change tree
      outcome.result = .error error →
        outcome.manager.settings = manager.settings ∧ outcome.manager.file = manager.file ∧
          outcome.disk = tree := by
  intro unchanged
  obtain ⟨same, _, _⟩ := unchanged homeless lessTalk {} homelessFault (by decide +kernel)
  have different : (homeless.update FileTree.fileSystem lessTalk {}).manager.settings ≠
      homeless.settings := by
    decide +kernel
  exact different same

end Homeless

end Manager

end TypedMemory
