import Recast.Files

/-!
# Proofs/Files — what an effort does to the files

A change writes one file, or none (`Change.target?`), so files whose paths are not among the targets
stay as they are (`content?_apply_of_forall_ne`). Making directories writes no file
(`writesNothing_makeDirectories`). What it can do is to make a path lead somewhere that led nowhere
before; a path that did lead somewhere leads there still (`Extends.follow_eq_ok`). Conversely a path
without a way back leads to a file that is there no matter which directories have been made
(`Extends.follow_eq_ok_of_content?`).
-/

namespace Recast

/-- The path of the file that the change writes. -/
def Change.target? : Change → Option Path
  | .makeDirectory _ => none
  | .write path _ => some path

/-- None of the changes writes a file. -/
def WritesNothing (changes : List Change) : Prop := ∀ change ∈ changes, change.target? = none

@[simp] theorem writesNothing_nil : WritesNothing [] := List.forall_mem_nil _

namespace Files

variable {files more : Files} {path place : Path} {change : Change} {changes : List Change}
  {content : List UInt8} {name : String} {names : List String}

/-! ## Contents after changes -/

theorem lookup_map_overwrite (path target : Path) (content : List UInt8) :
    ∀ entries : List (Path × List UInt8),
      (entries.map fun file => if file.1 = target then (target, content) else file).lookup path =
        if path = target then (entries.lookup path).map fun _ => content else entries.lookup path
  | [] => by simp
  | (key, old) :: entries => by
      have ih := lookup_map_overwrite path target content entries
      rw [List.map_cons, List.lookup_cons, List.lookup_cons]
      by_cases hkey : key = target
      · subst hkey
        by_cases hpath : path = key
        · simp [hpath]
        · simp [beq_false_of_ne hpath, ih, hpath]
      · by_cases hpath : path = key
        · simp [hpath, hkey]
        · simp [hkey, beq_false_of_ne hpath, ih]

/-- A file that was written holds what was written. -/
theorem content?_change_write (files : Files) (path : Path) (content : List UInt8) :
    (files.change (.write path content)).content? path = some content := by
  rw [change, content?]
  split
  next hsome =>
    obtain ⟨old, hold⟩ := Option.isSome_iff_exists.mp hsome
    rw [content?] at hold
    simp only [beq_iff_eq]
    rw [lookup_map_overwrite, if_pos rfl, hold, Option.map_some]
  next hnone =>
    rw [Bool.not_eq_true, Option.isSome_eq_false_iff, Option.isNone_iff_eq_none, content?] at hnone
    simp [List.lookup_append, hnone]

/-- Every other file holds what it held. -/
theorem content?_change_of_ne (h : change.target? ≠ some path) :
    (files.change change).content? path = files.content? path := by
  cases change with
  | makeDirectory directory => rfl
  | write target content =>
    have hne : path ≠ target := fun heq => h (congrArg some heq.symm)
    rw [Files.change]
    split
    · simp only [beq_iff_eq]
      rw [content?, lookup_map_overwrite, if_neg hne, content?]
    · rw [content?, content?, List.lookup_append]
      simp [List.lookup_cons, beq_false_of_ne hne]

/-- **A file that no change writes stays as it is.** -/
theorem content?_apply_of_forall_ne (h : ∀ change ∈ changes, change.target? ≠ some path) :
    (files.apply changes).content? path = files.content? path := by
  induction changes generalizing files with
  | nil => rfl
  | cons change changes ih =>
    obtain ⟨hfirst, hrest⟩ := List.forall_mem_cons.mp h
    exact (ih hrest).trans (content?_change_of_ne hfirst)

theorem apply_snoc (files : Files) (changes : List Change) (change : Change) :
    files.apply (changes ++ [change]) = (files.apply changes).change change := by
  rw [apply, List.foldl_append]
  rfl

/-- A file that is written last holds what was written. -/
theorem content?_apply_snoc_write (files : Files) (changes : List Change) (path : Path)
    (content : List UInt8) :
    (files.apply (changes ++ [.write path content])).content? path = some content := by
  rw [apply_snoc]
  exact content?_change_write _ path content

/-! ## Efforts -/

theorem andThen_of_fault {first : Effort} (next : Files → Effort) (h : first.fault.isSome) :
    files.andThen first next = first := if_pos h

/-- What comes next starts from the files that the first effort has left. -/
theorem andThen_of_no_fault {first : Effort} (next : Files → Effort) (h : first.fault = none) :
    files.andThen first next = { next (files.apply first.changes) with
      changes := first.changes ++ (next (files.apply first.changes)).changes } := by
  rw [andThen, h]
  rfl

/-- **Writing a file** ends with a fault and no change, or is one change. -/
theorem write_cases (files : Files) (path : Path) (content : List UInt8) :
    (∃ fault, files.write path content = { fault := some fault }) ∨
      ∃ place, files.locate path = .ok place ∧ files.standing place ≠ .directory ∧
        files.write path content = { changes := [.write place content] } := by
  rw [write]
  cases hlocate : files.locate path with
  | error deadEnd => exact .inl ⟨_, rfl⟩
  | ok place =>
    by_cases hdirectory : files.standing place = .directory
    · exact .inl ⟨_, if_pos hdirectory⟩
    · exact .inr ⟨place, rfl, hdirectory, if_neg hdirectory⟩

theorem writesNothing_makeDirectory (files : Files) (path : Path) :
    WritesNothing (files.makeDirectory path).changes := by
  intro change h
  rw [makeDirectory] at h
  cases hlocate : files.locate path with
  | error deadEnd => simp [hlocate] at h
  | ok place =>
    rw [hlocate] at h
    cases hstanding : files.standing place with
    | file content => simp [hstanding] at h
    | directory => simp [hstanding] at h
    | nothing =>
      obtain rfl : change = .makeDirectory place := by simpa [hstanding] using h
      rfl

theorem writesNothing_andThen {first : Effort} {next : Files → Effort}
    (hfirst : WritesNothing first.changes)
    (hnext : WritesNothing (next (files.apply first.changes)).changes) :
    WritesNothing (files.andThen first next).changes := by
  by_cases hfault : first.fault.isSome
  · rwa [andThen_of_fault _ hfault]
  · rw [Option.not_isSome_iff_eq_none] at hfault
    rw [andThen_of_no_fault _ hfault]
    exact List.forall_mem_append.mpr ⟨hfirst, hnext⟩

/-- Making directories writes no file. -/
theorem writesNothing_makeWay (files : Files) (root : String) :
    ∀ names : List String, WritesNothing (files.makeWay root names).changes
  | [] => files.writesNothing_makeDirectory _
  | name :: above => by
      rw [makeWay]
      split
      · exact writesNothing_andThen (writesNothing_makeWay files root above)
          (writesNothing_makeDirectory _ _)
      · exact files.writesNothing_makeDirectory _

/-- **Making directories writes no file.** -/
theorem writesNothing_makeDirectories (files : Files) (path : Path) :
    WritesNothing (files.makeDirectories path).changes :=
  files.writesNothing_makeWay path.root _

/-! ## Directories that stay -/

/-- A directory holds no content. -/
theorem content?_of_standing_eq_directory (h : files.standing path = .directory) :
    files.content? path = none := by
  cases hcontent : files.content? path with
  | none => rfl
  | some content => simp [standing, hcontent] at h

/-- Writing a file does away with no directory but one that stands in its place. -/
theorem standing_change_write (hplace : files.standing place ≠ .directory)
    (h : files.standing path = .directory) :
    (files.change (.write place content)).standing path = .directory := by
  have hne : path ≠ place := fun heq => hplace (heq ▸ h)
  have htarget : (Change.write place content).target? ≠ some path :=
    fun heq => hne (Option.some.inj heq).symm
  have hnone : (files.change (.write place content)).content? path = none :=
    (content?_change_of_ne htarget).trans (content?_of_standing_eq_directory h)
  rw [standing, content?_of_standing_eq_directory h] at h
  rw [standing, hnone]
  simp only [ite_eq_left_iff, reduceCtorEq, imp_false, Classical.not_not, Bool.or_eq_true] at h ⊢
  refine h.imp ?_ ?_
  · rw [change]
    split <;> exact id
  · intro hany
    obtain ⟨file, hfile, habove⟩ := List.any_eq_true.mp hany
    rw [change]
    split
    · refine List.any_eq_true.mpr ⟨_, List.mem_map_of_mem hfile, ?_⟩
      split
      next heq => rwa [← eq_of_beq heq]
      · exact habove
    · exact List.any_eq_true.mpr ⟨file, List.mem_append_left _ hfile, habove⟩

/-- Where the directories stay a path leads where it led before. -/
theorem follow_eq_ok_of_standing
    (h : ∀ path, files.standing path = .directory → more.standing path = .directory)
    (hfollow : files.follow place names = .ok path) : more.follow place names = .ok path := by
  induction names generalizing place with
  | nil => exact hfollow
  | cons name names ih =>
    rw [follow] at hfollow ⊢
    cases hstanding : files.standing place with
    | file content => simp [hstanding] at hfollow
    | nothing => simp [hstanding] at hfollow
    | directory =>
      rw [hstanding] at hfollow
      rw [h place hstanding]
      exact ih hfollow

/-- A path that a file is written to leads to it. -/
theorem locate_change_write (hlocate : files.locate path = .ok place)
    (hfree : files.standing place ≠ .directory) :
    (files.change (.write place content)).locate path = .ok place :=
  follow_eq_ok_of_standing (fun _ => standing_change_write hfree) hlocate

/-- **A file that was written is found** at the path. -/
theorem place_change_write (hlocate : files.locate path = .ok place)
    (hfree : files.standing place ≠ .directory) :
    (files.change (.write place content)).place path = .ok (.file content) := by
  rw [Files.place, locate_change_write hlocate hfree]
  exact congrArg Except.ok (by rw [standing, content?_change_write])

/-- The same files, and no less directories. -/
structure Extends (files more : Files) : Prop where
  contents_eq : more.contents = files.contents
  directories_subset : files.directories ⊆ more.directories

/-- Changes that write nothing only add directories. -/
theorem extends_apply (h : WritesNothing changes) :
    Extends files (files.apply changes) := by
  induction changes generalizing files with
  | nil => exact ⟨rfl, fun _ hmem => hmem⟩
  | cons change changes ih =>
    obtain ⟨hfirst, hrest⟩ := List.forall_mem_cons.mp h
    cases change with
    | write target content => cases hfirst
    | makeDirectory directory =>
      have hnext := @ih (files.change (.makeDirectory directory)) hrest
      exact ⟨hnext.contents_eq, fun d hd => hnext.directories_subset (List.mem_append_left _ hd)⟩

namespace Extends

variable (h : Extends files more)

include h

theorem content?_eq (path : Path) : more.content? path = files.content? path := by
  rw [content?, content?, h.contents_eq]

/-- A file stays where directories are added. -/
theorem standing_eq_file (hfile : files.standing path = .file content) :
    more.standing path = .file content := by
  rw [standing] at hfile ⊢
  rw [h.content?_eq]
  cases hcontent : files.content? path with
  | none =>
    rw [hcontent] at hfile
    simp only at hfile
    split at hfile <;> cases hfile
  | some content =>
    rw [hcontent] at hfile
    exact hfile

theorem standing_eq_directory (hdirectory : files.standing path = .directory) :
    more.standing path = .directory := by
  rw [standing] at hdirectory ⊢
  rw [h.content?_eq]
  cases hcontent : files.content? path with
  | some content =>
    rw [hcontent] at hdirectory
    cases hdirectory
  | none =>
    rw [hcontent] at hdirectory
    simp only [ite_eq_left_iff, reduceCtorEq, imp_false, Classical.not_not, Bool.or_eq_true,
      List.any_eq_true] at hdirectory ⊢
    rw [h.contents_eq]
    refine hdirectory.imp_left (Or.imp_right ?_)
    rintro ⟨d, hd, habove⟩
    exact ⟨d, h.directories_subset hd, habove⟩

/-- A path leads where it led before. -/
theorem follow_eq_ok (hfollow : files.follow place names = .ok path) :
    more.follow place names = .ok path :=
  follow_eq_ok_of_standing (fun _ => h.standing_eq_directory) hfollow

/-- A file that was in the way is in the way still. -/
theorem follow_eq_error (hfollow : files.follow place names = .error .file) :
    more.follow place names = .error .file := by
  induction names generalizing place with
  | nil => cases hfollow
  | cons name names ih =>
    rw [follow] at hfollow ⊢
    cases hstanding : files.standing place with
    | file content => rw [h.standing_eq_file hstanding]
    | nothing => simp [hstanding] at hfollow
    | directory =>
      rw [hstanding] at hfollow
      rw [h.standing_eq_directory hstanding]
      exact ih hfollow

end Extends

/-! ## Paths without a way back -/

theorem step_of_ne (h : name ≠ "..") :
    place.step name = { place with names := place.names ++ [name] } := by
  rw [Path.step, if_pos (by simp [h])]

/-- A path that does not go back leads to its names, one below the other. -/
theorem follow_eq_ok_of_forall_ne (hnames : ∀ name ∈ names, name ≠ "..")
    (h : files.follow place names = .ok path) :
    path = { place with names := place.names ++ names } := by
  induction names generalizing place with
  | nil =>
    obtain rfl : place = path := by simpa [follow] using h
    rw [List.append_nil]
  | cons name names ih =>
    obtain ⟨hfirst, hrest⟩ := List.forall_mem_cons.mp hnames
    rw [follow] at h
    split at h
    · rw [ih hrest h, step_of_ne hfirst]
      simp
    · cases h
    · cases h

/-- What holds a file is a directory, if it is not a file itself. -/
theorem standing_eq_directory_of_isAbove (hnone : files.content? place = none)
    (hsome : (files.content? path).isSome = true) (habove : place.isAbove path = true) :
    files.standing place = .directory := by
  obtain ⟨content, hcontent⟩ := Option.isSome_iff_exists.mp hsome
  obtain ⟨before, after, heq, -⟩ := List.lookup_eq_some_iff.mp hcontent
  have hany : (files.contents.any fun file => place.isAbove file.1) = true := by
    rw [heq]
    simp [habove]
  rw [standing, hnone, hany, Bool.or_true]
  rfl

/-- **A path without a way back leads to a file that is there**, whatever directories are made. -/
theorem Extends.follow_eq_ok_of_content? (h : Extends files more)
    (hnames : ∀ name ∈ names, name ≠ "..") (hfollow : more.follow place names = .ok path)
    (hsome : (files.content? path).isSome = true) : files.follow place names = .ok path := by
  induction names generalizing place with
  | nil => exact hfollow
  | cons name names ih =>
    obtain ⟨hfirst, hrest⟩ := List.forall_mem_cons.mp hnames
    have hpath := follow_eq_ok_of_forall_ne hnames hfollow
    rw [follow] at hfollow ⊢
    cases hstanding : more.standing place with
    | file content => simp [hstanding] at hfollow
    | nothing => simp [hstanding] at hfollow
    | directory =>
      rw [hstanding] at hfollow
      have hnone : files.content? place = none :=
        (h.content?_eq place).symm.trans (content?_of_standing_eq_directory hstanding)
      have hne : place ≠ path := fun heq => by
        simpa using congrArg (·.names.length) (heq.trans hpath)
      have habove : place.isAbove path = true := by
        rw [Path.isAbove, bne_iff_ne.mpr hne, hpath]
        simp
      rw [standing_eq_directory_of_isAbove hnone hsome habove]
      exact ih hrest hfollow

/-- **Where the user is asked.** A path that leads to a file once directories have been made led to
the file before, unless a directory was missing that the path goes back out of. -/
theorem Extends.holds_or_goes_back (h : Extends files more) (hlocate : more.locate path = .ok place)
    (hsome : (files.content? place).isSome = true) : files.holds path = true ∨
      files.locate path = .error .missing ∧ ".." ∈ path.names := by
  cases hbefore : files.locate path with
  | ok target =>
    have hsame := (h.follow_eq_ok hbefore).symm.trans hlocate
    obtain rfl : target = place := Except.ok.inj hsame
    obtain ⟨content, hcontent⟩ := Option.isSome_iff_exists.mp hsome
    have hplace : files.place path = .ok (.file content) := by
      rw [Files.place, hbefore]
      exact congrArg Except.ok (by rw [standing, hcontent])
    rw [holds, hplace]
    exact .inl rfl
  | error deadEnd =>
    cases deadEnd with
    | file => cases (h.follow_eq_error hbefore).symm.trans hlocate
    | missing =>
      refine .inr ⟨rfl, Decidable.byContradiction fun hback => ?_⟩
      have hnames : ∀ name ∈ path.names, name ≠ ".." := fun name hname heq => hback (heq ▸ hname)
      cases (h.follow_eq_ok_of_content? hnames hlocate hsome).symm.trans hbefore

end Files

end Recast
