import BeaconCheck.CommandLine.FileTree
import Mathlib.Data.List.Basic

/-!
# Files that were written

What is written to a path can be read there, and every other file stays what it was. A path is
followed through folders up to its last part, and writing changes nothing but what this part
leads to.

* `FileTree.Puts`     — a tree that differs in one file only.
* `Puts.follow`       — a path that led to the place of the file leads to it now.
* `exists_of_write`   — what writing leaves.
-/

namespace BeaconCheck.FileTree

variable {tree tree' : FileTree} {there : List String} {bytes : List UInt8}

/-- A tree has some bytes at a path and is otherwise like another one; at least it has all of
its folders. -/
structure Puts (tree tree' : FileTree) (there : List String) (bytes : List UInt8) : Prop where
  here : tree'.here = tree.here
  written : tree'.files.lookup there = some bytes
  others : ∀ path, path ≠ there → tree'.files.lookup path = tree.files.lookup path
  folders : ∀ path, tree.isFolder path = true → tree'.isFolder path = true

/-! ## The two ways to write a file -/

/-- A file that is replaced has the new bytes, and every other one its own. -/
theorem lookup_replace (files : List (List String × List UInt8)) (path : List String) :
    (files.map fun p => if p.1 = there then (there, bytes) else p).lookup path =
      if path = there then (files.lookup path).map fun _ => bytes else files.lookup path := by
  induction files with
  | nil => simp
  | cons p rest ih =>
    obtain ⟨first, old⟩ := p
    rw [List.map_cons, List.lookup_cons, List.lookup_cons]
    -- the first file is the one looked up, whether or not it is replaced, or it is passed over
    by_cases hPath : path = first
    · subst hPath
      by_cases hThere : path = there <;> simp [hThere]
    · have hFirst : (if first = there then (there, bytes) else (first, old)).1 = first := by
        split
        · next h => exact h.symm
        · rfl
      have hOther : (path == first) = false := beq_eq_false_iff_ne.mpr hPath
      rw [hFirst, hOther, ih]

/-- A file takes the place of one that is there. -/
theorem puts_replace {old : List UInt8} (h : tree.files.lookup there = some old)
    (bytes : List UInt8) :
    Puts tree
      { tree with files := tree.files.map fun p => if p.1 = there then (there, bytes) else p }
      there bytes where
  here := rfl
  written := by rw [lookup_replace, if_pos rfl, h]; rfl
  others path hPath := by rw [lookup_replace, if_neg hPath]
  folders path hFolder := by
    -- the files have the paths that they had
    have hSame (p : List String × List UInt8) :
        (if p.1 = there then (there, bytes) else p).1 = p.1 := by
      split
      · next h => exact h.symm
      · rfl
    simpa only [isFolder, List.any_map, Function.comp_def, hSame] using hFolder

/-- A file is put where there was nothing. -/
theorem puts_append (h : tree.files.lookup there = none) (bytes : List UInt8) :
    Puts tree { tree with files := tree.files ++ [(there, bytes)] } there bytes where
  here := rfl
  written := by simp [List.lookup_append, h]
  others path hPath := by
    have hOther : (path == there) = false := beq_eq_false_iff_ne.mpr hPath
    simp [List.lookup_append, List.lookup_cons, hOther]
  folders path hFolder := by
    simp only [isFolder, List.any_append, Bool.or_eq_true] at hFolder ⊢
    exact hFolder.imp_right .inl

/-! ## Following a path -/

/-- What the tree has at the place that a path leads to. -/
def Target.Fits (tree : FileTree) : Target → Prop
  | .file there old => tree.files.lookup there = some old
  | .vacant there => tree.files.lookup there = none ∧ tree.isFolder there = false
  | _ => True

/-- What a path leads to is there in the tree. -/
theorem follow_fits (tree : FileTree) (parts : List String) :
    ∀ start, (tree.follow start parts).Fits tree := by
  induction parts with
  | nil => exact fun _ => trivial
  | cons part rest ih =>
    intro start
    rw [follow]
    split
    · exact ih _
    split
    · exact ih _
    split
    · trivial
    -- the part is looked up behind the start
    simp only []
    cases hFile : tree.files.lookup (start ++ [part]) with
    | some old =>
      simp only []
      split
      · exact hFile
      · trivial
    | none =>
      simp only []
      split
      · exact ih _
      split
      · next hFolder _ => exact ⟨hFile, Bool.eq_false_iff.mpr hFolder⟩
      · trivial

/-- So is what it names from the folder that it starts in. -/
theorem target_fits (tree : FileTree) (path : String) : (tree.target path).Fits tree := by
  rw [target]
  split
  · trivial
  · exact follow_fits tree _ _

/-- The place that a target is at, if a file is or can be there. -/
def Target.place? : Target → Option (List String)
  | .file there _ | .vacant there => some there
  | _ => none

/-- A place without a file that a path leads to is no folder either. -/
theorem Target.Fits.isFolder {target : Target} (h : target.Fits tree)
    (hPlace : target.place? = some there) (hNone : tree.files.lookup there = none) :
    tree.isFolder there = false := by
  -- where no file is, the target is a free place, which is no folder
  cases target with
  | file _ old =>
    obtain rfl := Option.some.inj hPlace
    rw [h] at hNone
    cases hNone
  | vacant _ =>
    obtain rfl := Option.some.inj hPlace
    exact h.2
  | folder => cases hPlace
  | nowhere => cases hPlace

/-- **A path that led to the place of the file** leads to the file now. -/
theorem Puts.follow (h : Puts tree tree' there bytes)
    (hThere : tree.files.lookup there = none → tree.isFolder there = false)
    (parts : List String) : ∀ start, (tree.follow start parts).place? = some there →
      tree'.follow start parts = .file there bytes := by
  induction parts with
  | nil => exact nofun
  | cons part rest ih =>
    intro start hPlace
    rw [FileTree.follow] at hPlace ⊢
    split at hPlace
    · next hSame =>
      rw [if_pos hSame]
      exact ih _ hPlace
    next hOther =>
    rw [if_neg hOther]
    split at hPlace
    · next hUp =>
      rw [if_pos hUp]
      exact ih _ hPlace
    next hDown =>
    rw [if_neg hDown]
    split at hPlace
    · cases hPlace
    next hShort =>
    rw [if_neg hShort]
    simp only [] at hPlace ⊢
    cases hFile : tree.files.lookup (start ++ [part]) with
    | some old =>
      -- the path ends at a file, which is the one that was replaced
      rw [hFile] at hPlace
      simp only [] at hPlace
      split at hPlace
      · next hLast =>
        obtain rfl : start ++ [part] = there := Option.some.inj hPlace
        simp only [h.written, if_pos hLast]
      · cases hPlace
    | none =>
      rw [hFile] at hPlace
      simp only [] at hPlace
      split at hPlace
      · next hFolder =>
        -- a folder on the way is not where the file was put
        have hApart : start ++ [part] ≠ there := by
          intro hSame
          rw [hSame] at hFile hFolder
          rw [hThere hFile] at hFolder
          cases hFolder
        rw [h.others _ hApart, hFile]
        simp only [if_pos (h.folders _ hFolder)]
        exact ih _ hPlace
      · split at hPlace
        · next hLast =>
          obtain rfl : start ++ [part] = there := Option.some.inj hPlace
          simp only [h.written, if_pos hLast]
        · cases hPlace

/-! ## Writing and reading -/

theorem parts_empty : parts "" = [""] := by
  rw [parts, String.splitOn, if_neg (by decide), String.splitOnAux, if_pos (by decide)]
  rfl

/-- The empty path leads to a folder. -/
theorem target_empty (tree : FileTree) : tree.target "" = .folder := by
  rw [target, parts_empty, if_neg (by decide)]
  simp [FileTree.follow]

/-- A file that was put where a path leads is read at the path. -/
theorem Puts.read (h : Puts tree tree' there bytes) {path : String}
    (hPath : (tree.target path).place? = some there) : tree'.read path = .ok bytes := by
  -- the empty path leads nowhere, so that it cannot have been written to
  have hSome : path ≠ "" := by
    rintro rfl
    rw [target_empty] at hPath
    cases hPath
  have hStart : tree'.start path = tree.start path := by rw [start, start, h.here]
  have hLeads := hPath
  -- the path is followed through the same folders as before, and ends at the file put there
  have hTarget : tree'.target path = .file there bytes := by
    rw [target] at hPath ⊢
    split at hPath
    · cases hPath
    · next hShort =>
      rw [if_neg hShort, hStart]
      exact h.follow ((target_fits tree path).isFolder hLeads) _ _ hPath
  rw [FileTree.read, if_neg hSome, hTarget]

/-- **What writing leaves**: the bytes can be read at the path, cleared of the parts that lead
nowhere else, and every other file is what it was. -/
theorem exists_of_write {path : String} (h : tree.write path bytes = .ok tree') :
    ∃ there, Puts tree tree' there bytes ∧ tree'.read (plain path) = .ok bytes := by
  unfold write at h
  split at h
  · cases h
  simp only [] at h
  have hFits := target_fits tree (plain path)
  -- a file that is there is replaced, a free place is filled, and nothing else can be written to
  cases hTarget : tree.target (plain path) with
  | file there old =>
    rw [hTarget] at h hFits
    cases h
    have hPuts := puts_replace hFits bytes
    exact ⟨there, hPuts, hPuts.read (by rw [hTarget]; rfl)⟩
  | vacant there =>
    rw [hTarget] at h hFits
    cases h
    have hPuts := puts_append hFits.1 bytes
    exact ⟨there, hPuts, hPuts.read (by rw [hTarget]; rfl)⟩
  | folder => rw [hTarget] at h; cases h
  | nowhere problem => rw [hTarget] at h; cases h

end BeaconCheck.FileTree
