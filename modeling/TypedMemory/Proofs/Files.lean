import TypedMemory.Simulation.FileTree

/-!
# What a write does to files

Of a file system only two laws are relied on: a file that was written reads as
what was written, and any file that could be read still can be, either as before
or, where two paths lead to one file, as what was written. The file tree in memory
keeps both (`Simulation.FileTree.fileSystem_lawful`): a path leads to one place,
and a write puts a file at that place and bars no path. As long as there is room, a
write to it also changes everything or nothing
(`Simulation.FileTree.fileSystem_allOrNothing`).
-/

namespace TypedMemory

/-- The laws of a file system, for writes that succeed. Nothing is said of a path that
could not be read: a write may create its file, or bar the way to it. -/
structure FileSystem.Lawful {σ : Type} (files : FileSystem σ) : Prop where
  read_written : ∀ {disk disk' : σ} {path : Path} {bytes : Bytes},
    files.write disk path bytes = (.ok (), disk') → files.read disk' path = .ok bytes
  read_other : ∀ {disk disk' : σ} {path other : Path} {bytes content : Bytes},
    files.write disk path bytes = (.ok (), disk') → files.read disk other = .ok content →
      files.read disk' other = .ok bytes ∨ files.read disk' other = .ok content

/-- A write that fails leaves the file system as it was. -/
def FileSystem.AllOrNothing {σ : Type} (files : FileSystem σ) : Prop :=
  ∀ {disk disk' : σ} {path : Path} {bytes : Bytes} {fault : IoFault},
    files.write disk path bytes = (.error fault, disk') → disk' = disk

namespace Simulation.FileTree

variable {tree : FileTree} {path : Path} {target changed : List Bytes} {content : Bytes}

/-- A path leads to a place for a file: all directories on the way are there, and
a file may have the last name. -/
def Leads (tree : FileTree) (path : Path) (target : List Bytes) : Prop :=
  ∃ route names name, FileTree.route path = .ok route ∧
    tree.walk route.start route.parents = .ok (.inside names) ∧ route.last = some name ∧
    route.trailing = false ∧ isStep name = false ∧ ¬ maxName < name.length ∧
    target = names ++ [name]

/-- The working directory itself is no file. -/
theorem Leads.ne_nil (leads : tree.Leads path target) : target ≠ [] := by
  obtain ⟨_, _, _, _, _, _, _, _, _, rfl⟩ := leads
  simp

/-! ## Entries -/

/-- Taking one name away does not change what others stand for. -/
theorem lookup_filter_ne {entries : List (List Bytes × Node)} (other : target ≠ changed) :
    (entries.filter fun entry => entry.1 != changed).lookup target = entries.lookup target := by
  induction entries with
  | nil => rfl
  | cons entry entries ih =>
      obtain ⟨names, node⟩ := entry
      by_cases same : names = changed
      · subst same
        simp [List.lookup_cons, beq_false_of_ne other, ih]
      · simp [List.lookup_cons, same, ih]

/-- What was put is there. -/
theorem entry?_put_same (inside : changed ≠ []) (node : Node) :
    entry? (tree.put changed node) changed = some node := by
  cases changed with
  | nil => exact absurd rfl inside
  | cons name names =>
      change (put tree (name :: names) node).entries.lookup (name :: names) = _
      exact List.lookup_cons_self

/-- What stands elsewhere stays. -/
theorem entry?_put_other (other : target ≠ changed) (node : Node) :
    entry? (tree.put changed node) target = tree.entry? target := by
  cases target with
  | nil => rfl
  | cons name names =>
      change (put tree changed node).entries.lookup (name :: names) = _
      rw [put, List.lookup_cons, beq_false_of_ne other]
      exact lookup_filter_ne other

/-! ## Paths -/

/-- Directories stay when a file is put. -/
theorem child?_put (spot : tree.entry? changed ≠ some .directory) (node : Node) {place : Place}
    {name : Bytes} (entered : tree.child? place name = some .directory) :
    (tree.put changed node).child? place name = some .directory := by
  cases place with
  | outside => exact entered
  | inside above =>
      have other : above ++ [name] ≠ changed := by
        rintro rfl
        exact spot entered
      exact (entry?_put_other other node).trans entered

/-- What is put where no directory was bars no walk. -/
theorem walk_put (spot : tree.entry? changed ≠ some .directory) (node : Node)
    {place reached : Place} {names : List Bytes}
    (walked : tree.walk place names = .ok reached) :
    (tree.put changed node).walk place names = .ok reached := by
  induction names generalizing place with
  | nil => exact walked
  | cons name names ih =>
      unfold walk at walked ⊢
      by_cases step : isStep name = true
      · rw [if_pos step] at walked ⊢
        exact ih walked
      by_cases long : maxName < name.length
      · rw [if_neg step, if_pos long] at walked
        cases walked
      rw [if_neg step, if_neg long] at walked ⊢
      split at walked
      · cases walked
      · cases walked
      · next entered =>
          rw [child?_put spot node entered]
          exact ih walked

/-- Paths lead where they led when a file is put. -/
theorem Leads.put (leads : tree.Leads path target) (spot : tree.entry? changed ≠ some .directory)
    (node : Node) : (tree.put changed node).Leads path target := by
  obtain ⟨route, names, name, routed, walked, valid⟩ := leads
  exact ⟨route, names, name, routed, walk_put spot node walked, valid⟩

/-! ## Reading and writing -/

theorem bind_eq_ok {ε α β : Type} {first : Except ε α} {next : α → Except ε β} {result : β} :
    first >>= next = .ok result ↔ ∃ value, first = .ok value ∧ next value = .ok result := by
  cases first with
  | error fault => simp [bind, Except.bind]
  | ok value => simp [bind, Except.bind]

/-- A file is read exactly if the path leads to it. -/
theorem read_ok_iff : tree.read path = .ok content ↔
    ∃ target, tree.Leads path target ∧ tree.entry? target = some (.file content) := by
  constructor
  · intro read
    obtain ⟨route, routed, read⟩ := bind_eq_ok.mp read
    obtain ⟨place, walked, read⟩ := bind_eq_ok.mp read
    split at read
    · cases read
    next name last =>
    by_cases step : isStep name = true
    · rw [if_pos step] at read
      cases read
    by_cases long : maxName < name.length
    · rw [if_neg step, if_pos long] at read
      cases read
    rw [if_neg step, if_neg long] at read
    split at read
    · cases read
    · cases read
    next found =>
    split at read
    · cases read
    next plain =>
    cases read
    cases place with
    | outside => cases found
    | inside names =>
        exact ⟨names ++ [name], ⟨route, names, name, routed, walked, last, by simpa using plain,
          by simpa using step, long, rfl⟩, found⟩
  · rintro ⟨_, ⟨route, names, name, routed, walked, last, plain, step, short, rfl⟩, found⟩
    simp [FileTree.read, routed, walked, last, plain, step, short, child?, found, bind,
      Except.bind]

/-- A file can be written where a path leads, unless a directory stands there. -/
theorem leads_of_target (found : tree.target path = .ok target) :
    tree.Leads path target ∧ tree.entry? target ≠ some .directory := by
  obtain ⟨route, routed, found⟩ := bind_eq_ok.mp found
  obtain ⟨place, walked, found⟩ := bind_eq_ok.mp found
  split at found
  · cases found
  next name last =>
  by_cases refused : (isStep name || route.trailing) = true
  · rw [if_pos refused] at found
    cases found
  by_cases long : maxName < name.length
  · rw [if_neg refused, if_pos long] at found
    cases found
  rw [if_neg refused, if_neg long] at found
  obtain ⟨step, plain⟩ : isStep name = false ∧ route.trailing = false := by simpa using refused
  split at found
  · cases found
  · next names spot =>
      cases found
      exact ⟨⟨route, names, name, routed, walked, last, plain, step, long, rfl⟩, spot⟩
  · cases found

/-- A write that succeeds puts a file where its path leads. -/
theorem write_ok {written : FileTree} (wrote : tree.write path content = (.ok (), written)) :
    ∃ target, tree.Leads path target ∧ tree.entry? target ≠ some .directory ∧
      written = tree.put target (.file content) := by
  unfold write at wrote
  split at wrote
  · cases wrote
  · next target found =>
      cases wrote
      obtain ⟨leads, spot⟩ := leads_of_target found
      exact ⟨target, leads, spot, rfl⟩

/-- On a disk with room for everything a write that fails changes nothing. -/
theorem fileSystem_allOrNothing : fileSystem.AllOrNothing := by
  intro tree left path content fault failed
  change tree.write path content = _ at failed
  unfold write at failed
  split at failed <;> cases failed
  rfl

/-- File trees are lawful: what was written is read, and nothing else changes. -/
theorem fileSystem_lawful : fileSystem.Lawful where
  read_written := by
    intro disk disk' path bytes wrote
    obtain ⟨target, leads, spot, rfl⟩ := write_ok wrote
    exact read_ok_iff.mpr ⟨target, leads.put spot _, entry?_put_same leads.ne_nil _⟩
  read_other := by
    intro disk disk' path other bytes content wrote read
    obtain ⟨changed, leads, spot, rfl⟩ := write_ok wrote
    obtain ⟨target, leadsOther, found⟩ := read_ok_iff.mp read
    by_cases same : target = changed
    · subst same
      exact .inl (read_ok_iff.mpr ⟨target, leadsOther.put spot _, entry?_put_same leads.ne_nil _⟩)
    · refine .inr (read_ok_iff.mpr ⟨target, leadsOther.put spot _, ?_⟩)
      rw [entry?_put_other same, found]

end Simulation.FileTree

end TypedMemory
