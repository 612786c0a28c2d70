import Mathlib.Control.Monad.Basic
import TypedMemory.Proofs.FailedUpdate
import TypedMemory.Proofs.RoundTrip
import TypedMemory.Settings.Manager

/-!
# Settings in memory and on disk

A manager is in step with its file if a new manager that loads the file gets the
settings in memory. A load that succeeds brings the two in step, since it reads
without writing, and so does an update that succeeds, since settings are read back
from their text. No later load, save or update takes them out of step, with
whatever paths and changes, as long as every update succeeds and a write that fails
changes nothing (`Archive.run_stays_in_step`): what a save writes is what is in
memory, so it does not matter whether another path leads to the same file.
-/

namespace TypedMemory

/-- What can be done with a manager. -/
inductive Manager.Action where
  | load (path : Path)
  | save (path : Path)
  | update (change : Settings → Settings)

/-- A manager, and the disk that its file is on. -/
structure Archive (σ : Type) where
  manager : Manager
  disk : σ

namespace Archive

open Manager

variable {σ : Type} {files : FileSystem σ} {archive : Archive σ} {disk disk' : σ}
  {path other : Path} {settings : Settings}

/-- What an action leaves behind. -/
def perform (files : FileSystem σ) (archive : Archive σ) : Action → Outcome σ
  | .load path => archive.manager.load files path archive.disk
  | .save path => archive.manager.save files path archive.disk
  | .update change => archive.manager.update files change archive.disk

/-- The archive after an action. -/
def step (files : FileSystem σ) (archive : Archive σ) (action : Action) : Archive σ :=
  ⟨(archive.perform files action).manager, (archive.perform files action).disk⟩

/-- The archive after some actions. -/
def run (files : FileSystem σ) (archive : Archive σ) (actions : List Action) : Archive σ :=
  actions.foldl (step files) archive

/-- The settings are kept in a file, and a new manager that loads this file succeeds
and gets the settings in memory. -/
def InStep (files : FileSystem σ) (archive : Archive σ) : Prop :=
  ∃ path, archive.manager.file = some path ∧
    (Manager.load files path {} archive.disk).result = .ok () ∧
    (Manager.load files path {} archive.disk).manager.settings = archive.manager.settings

/-- The action ties the settings to a file: it loads them from one, or it updates
settings that are kept in one. -/
def Ties (manager : Manager) : Action → Prop
  | .load _ => True
  | .save _ => False
  | .update _ => manager.file.isSome

/-- Every update among the actions succeeds when its turn comes. -/
def UpdatesSucceed (files : FileSystem σ) (archive : Archive σ) (actions : List Action) : Prop :=
  ∀ before change after, actions = before ++ .update change :: after →
    ((archive.run files before).perform files (.update change)).result = .ok ()

/-! ## Fetching and storing -/

/-- Settings are fetched from a file that is read, is text, and holds them. -/
theorem fetch_of_read {bytes : Bytes} {text : String} (read : files.read disk path = .ok bytes)
    (decoded : Utf8.decode? bytes = some text) (parsed : Settings.parse text = .ok settings) :
    fetch files path disk = .ok settings := by
  simp [fetch, FileSystem.readText, read, decoded, parsed]

/-- Settings come out of a file that could be read and understood. -/
theorem read_of_fetch (fetched : fetch files path disk = .ok settings) :
    ∃ bytes text, files.read disk path = .ok bytes ∧ Utf8.decode? bytes = some text ∧
      Settings.parse text = .ok settings := by
  unfold fetch at fetched
  split at fetched
  · cases fetched
  next text read =>
  split at fetched
  · cases fetched
  next parsed =>
  cases fetched
  unfold FileSystem.readText at read
  split at read
  · cases read
  next bytes found =>
  split at read
  · next decoded =>
      cases read
      exact ⟨bytes, text, found, decoded, parsed⟩
  · cases read

/-- Settings are stored by writing their text. -/
theorem write_of_store (stored : store files path settings disk = (.ok (), disk')) :
    ∃ text, settings.pretty = .ok text ∧
      files.write disk path (Utf8.encode text) = (.ok (), disk') := by
  unfold store at stored
  split at stored
  · cases stored
  next text pretty =>
  split at stored <;> cases stored
  next written => exact ⟨text, pretty, written⟩

/-- Settings that were written to a file are fetched from it. -/
theorem fetch_of_written {text : String} (pretty : settings.pretty = .ok text)
    (read : files.read disk path = .ok (Utf8.encode text)) :
    fetch files path disk = .ok settings :=
  fetch_of_read read (Utf8.decode?_encode text) (Settings.parse_of_pretty pretty)

/-- Settings that were stored are fetched from where they were stored. -/
theorem fetch_stored (lawful : files.Lawful)
    (stored : store files path settings disk = (.ok (), disk')) :
    fetch files path disk' = .ok settings := by
  obtain ⟨text, pretty, written⟩ := write_of_store stored
  exact fetch_of_written pretty (lawful.read_written written)

/-- Storing settings once more, anywhere, leaves them where they were fetched from. -/
theorem fetch_stored_elsewhere (lawful : files.Lawful)
    (stored : store files path settings disk = (.ok (), disk'))
    (fetched : fetch files other disk = .ok settings) :
    fetch files other disk' = .ok settings := by
  obtain ⟨text, pretty, written⟩ := write_of_store stored
  obtain ⟨bytes, held, read, decoded, parsed⟩ := read_of_fetch fetched
  obtain overwritten | kept := lawful.read_other written read
  · exact fetch_of_written pretty overwritten
  · exact fetch_of_read kept decoded parsed

/-! ## Staying in step -/

/-- A manager is in step with its file exactly if it would fetch its own settings. -/
theorem inStep_iff : archive.InStep files ↔
    ∃ path, archive.manager.file = some path ∧
      fetch files path archive.disk = .ok archive.manager.settings := by
  unfold InStep Manager.load
  constructor
  · rintro ⟨path, kept, loaded, same⟩
    refine ⟨path, kept, ?_⟩
    split at loaded
    · cases loaded
    · next fetched => simpa [fetched] using same
  · rintro ⟨path, kept, fetched⟩
    exact ⟨path, kept, by simp [fetched]⟩

/-- A load either changes nothing or brings the settings in step. -/
theorem load_cases (files : FileSystem σ) (archive : Archive σ) (path : Path) :
    ((∃ error, (archive.perform files (.load path)).result = .error error) ∧
      archive.step files (.load path) = archive) ∨
    (archive.step files (.load path)).InStep files := by
  simp only [step, perform, Manager.load]
  cases fetched : fetch files path archive.disk with
  | error error => exact .inl ⟨⟨error, rfl⟩, rfl⟩
  | ok settings => exact .inr (inStep_iff.mpr ⟨path, rfl, fetched⟩)

/-- Where a failed write changes nothing, a save either changes nothing or stores the
settings. -/
theorem save_cases (whole : files.AllOrNothing) (archive : Archive σ) (path : Path) :
    archive.step files (.save path) = archive ∨
    (∃ disk', store files path archive.manager.settings archive.disk = (.ok (), disk') ∧
      archive.step files (.save path) = ⟨archive.manager, disk'⟩) := by
  simp only [step, perform, Manager.save]
  rcases stored : store files path archive.manager.settings archive.disk with ⟨_ | _, left⟩
  · left
    rw [(store_error_iff.mp stored).unchanged whole]
  · exact .inr ⟨left, rfl, rfl⟩

/-- An update of settings that are kept in a file brings them in step if it
succeeds. -/
theorem update_inStep (lawful : files.Lawful) (kept : archive.manager.file = some path)
    {change : Settings → Settings}
    (updated : (archive.perform files (.update change)).result = .ok ()) :
    (archive.step files (.update change)).InStep files := by
  simp only [step, perform, Manager.update, Manager.save, kept] at updated ⊢
  rcases stored : store files path (change archive.manager.settings) archive.disk with
    ⟨_ | _, left⟩
  · simp [stored] at updated
  · exact inStep_iff.mpr ⟨path, rfl, fetch_stored lawful stored⟩

/-- No action takes settings out of step, unless it is an update that fails. -/
theorem InStep.step (inStep : archive.InStep files) (lawful : files.Lawful)
    (whole : files.AllOrNothing) (action : Action)
    (updated : ∀ change, action = .update change →
      (archive.perform files (.update change)).result = .ok ()) :
    (archive.step files action).InStep files := by
  obtain ⟨path, kept, fetched⟩ := inStep_iff.mp inStep
  cases action with
  | load other =>
      obtain ⟨_, same⟩ | loaded := load_cases files archive other
      · rw [same]
        exact inStep
      · exact loaded
  | save other =>
      obtain same | ⟨disk', stored, saved⟩ := save_cases whole archive other
      · rw [same]
        exact inStep
      · -- Whichever file the other path leads to, it now holds the settings in memory.
        rw [saved]
        exact inStep_iff.mpr ⟨path, kept, fetch_stored_elsewhere lawful stored fetched⟩
  | update change => exact update_inStep lawful kept (updated change rfl)

theorem updatesSucceed_nil : archive.UpdatesSucceed files [] := by
  intro before change after split
  cases before <;> cases split

/-- All updates succeed if the first one does and then all others do. -/
theorem updatesSucceed_cons_iff {action : Action} {actions : List Action} :
    archive.UpdatesSucceed files (action :: actions) ↔
      (∀ change, action = .update change →
        (archive.perform files (.update change)).result = .ok ()) ∧
      (archive.step files action).UpdatesSucceed files actions := by
  constructor
  · intro succeed
    constructor
    · rintro change rfl
      exact succeed [] change actions rfl
    · rintro before change after rfl
      exact succeed (action :: before) change after rfl
  · rintro ⟨first, later⟩ before change after split
    cases before with
    | nil =>
        cases split
        exact first change rfl
    | cons _ before =>
        cases split
        exact later before change after rfl

/-- If all updates succeed, a run of actions keeps a manager in step with its file. -/
theorem InStep.run (lawful : files.Lawful) (whole : files.AllOrNothing) {actions : List Action}
    (inStep : archive.InStep files) (succeed : archive.UpdatesSucceed files actions) :
    (archive.run files actions).InStep files := by
  induction actions generalizing archive with
  | nil => exact inStep
  | cons action actions ih =>
      obtain ⟨updated, later⟩ := updatesSucceed_cons_iff.mp succeed
      exact ih (inStep.step lawful whole action updated) later

/-- **The settings in memory and in their file stay in step.** Take a file system whose
files hold what was written to them, and which a failed write leaves as it was. Once
settings were loaded from a file, or updated while they are kept in one, loading their
file with a new manager succeeds and gives exactly the settings in memory, and it still
does after any further loads, saves and updates, up to the first update that fails. -/
theorem run_stays_in_step (lawful : files.Lawful) (whole : files.AllOrNothing)
    (archive : Archive σ) (first : Action) (ties : Ties archive.manager first)
    (succeeded : (archive.perform files first).result = .ok ())
    (more : List Action) (succeed : (archive.step files first).UpdatesSucceed files more) :
    ((archive.step files first).run files more).InStep files := by
  refine InStep.run lawful whole ?_ succeed
  cases first with
  | load path =>
      obtain ⟨⟨error, failed⟩, _⟩ | loaded := load_cases files archive path
      · rw [failed] at succeeded
        cases succeeded
      · exact loaded
  | save path => exact absurd ties id
  | update change =>
      obtain ⟨path, kept⟩ := Option.isSome_iff_exists.mp ties
      exact update_inStep lawful kept succeeded

section Sharing

open Simulation

/-- Settings on disk, in a directory of their own, that no manager has loaded yet. -/
def shelved : Archive FileTree :=
  ⟨{}, ⟨[([Utf8.encode "conf"], .directory),
    ([Utf8.encode "conf", Utf8.encode "a.json"],
      .file (Utf8.encode "\x7b\"logging\": \x7b\"level\": \"debug\"\x7d, \"notes\": []\x7d"))]⟩⟩

/-- The file is written under another spelling, a directory and a missing file are
named by mistake, and the settings move to a copy that was made of them. -/
def moving : List Action :=
  [.save (.ofText "./conf//a.json"), .save (.ofText "conf"), .load (.ofText "b.json"),
    .update fun settings => settings.withLibraryPath (.ofText "/opt/\"kernels\"\\\x00.so"),
    .save (.ofText "b.json"),
    .update fun settings => settings.withLogging fun logging => { logging with ansi := false },
    .load (.ofText "./b.json"), .save (.ofText "conf/../conf/a.json")]

/-- After all of that the settings are in step with the file that they moved to. -/
theorem moving_stays_in_step :
    let loaded := shelved.step FileTree.fileSystem (.load (.ofText "conf/a.json"))
    (shelved.perform FileTree.fileSystem (.load (.ofText "conf/a.json"))).result = .ok () ∧
    loaded.UpdatesSucceed FileTree.fileSystem moving ∧
    (loaded.run FileTree.fileSystem moving).InStep FileTree.fileSystem := by
  intro loaded
  have succeeded :
      (shelved.perform FileTree.fileSystem (.load (.ofText "conf/a.json"))).result = .ok () := by
    decide +kernel
  have succeed : loaded.UpdatesSucceed FileTree.fileSystem moving := by
    simp only [moving, updatesSucceed_cons_iff, reduceCtorEq, false_implies, implies_true, true_and,
      Action.update.injEq, forall_eq']
    exact ⟨by decide +kernel, by decide +kernel, updatesSucceed_nil⟩
  exact ⟨succeeded, succeed, run_stays_in_step FileTree.fileSystem_lawful
    FileTree.fileSystem_allOrNothing shelved (.load (.ofText "conf/a.json")) trivial succeeded
    moving succeed⟩

end Sharing

end Archive

end TypedMemory
