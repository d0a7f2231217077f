import Rollup.Files
import Mathlib.Data.List.Basic
import Mathlib.Tactic.Common

/-!
# Writing files

A file is written into the directory that its path stands in (`Files.write_eq_ok_iff`). Every directory stays
one, so the path leads to what has been written (`Files.find?_of_write`).
-/

namespace Rollup.Files

variable {files after : Files} {path : Path} {place start parts dir : List String} {text : String}

theorem target_eq_ok_iff : files.target path = .ok place ↔
    ∃ dir, files.locate path.parent = .ok (.directory dir) ∧ files.isDirectory (dir ++ [path.name]) = false ∧
      place = dir ++ [path.name] := by
  unfold target
  constructor
  · intro h
    split at h
    · rename_i dir hparent
      dsimp only at h
      split_ifs at h with hdir
      exact ⟨dir, hparent, by simpa using hdir, (Except.ok.inj h).symm⟩
    · cases h
    · cases h
  · rintro ⟨dir, hparent, hdir, rfl⟩
    rw [hparent]
    dsimp only
    rw [if_neg (by simpa using hdir)]

/-- A file is written into the directory that its path stands in. -/
theorem write_eq_ok_iff : files.write path text = .ok after ↔
    ∃ dir, files.locate path.parent = .ok (.directory dir) ∧ files.isDirectory (dir ++ [path.name]) = false ∧
      after = files.put (dir ++ [path.name]) text := by
  have hwrite : files.write path text = .ok after ↔
      ∃ place, files.target path = .ok place ∧ after = files.put place text := by
    rw [write]
    cases files.target path <;> simp [eq_comm]
  simp only [hwrite, target_eq_ok_iff]
  constructor
  · rintro ⟨_, ⟨dir, hparent, hdir, rfl⟩, rfl⟩
    exact ⟨dir, hparent, hdir, rfl⟩
  · rintro ⟨dir, hparent, hdir, rfl⟩
    exact ⟨_, ⟨dir, hparent, hdir, rfl⟩, rfl⟩

/-! ## Directories -/

theorem isDirectory_iff : files.isDirectory parts ↔
    parts = [] ∨ parts = files.base ∨ parts ∈ files.directories ∨
      ∃ entry ∈ files.entries, parts.length < entry.1.length ∧ parts <+: entry.1 := by
  simp [isDirectory, or_assoc]

theorem mem_entries_put {entry : List String × String} : entry ∈ (files.put place text).entries ↔
    entry = (place, text) ∨ entry ∈ files.entries ∧ entry.1 ≠ place := by
  simp [put, or_comm]

theorem isDirectory_put_iff : (files.put place text).isDirectory parts ↔
    files.isDirectory parts ∨ parts.length < place.length ∧ parts <+: place := by
  rw [isDirectory_iff, isDirectory_iff]
  constructor
  · rintro (h | h | h | ⟨entry, hentry, hbelow⟩)
    · exact .inl (.inl h)
    · exact .inl (.inr (.inl h))
    · exact .inl (.inr (.inr (.inl h)))
    · rcases mem_entries_put.1 hentry with rfl | ⟨hentry, -⟩
      · exact .inr hbelow
      · exact .inl (.inr (.inr (.inr ⟨entry, hentry, hbelow⟩)))
  · rintro ((h | h | h | ⟨entry, hentry, hbelow⟩) | hbelow)
    · exact .inl h
    · exact .inr (.inl h)
    · exact .inr (.inr (.inl h))
    · by_cases hplace : entry.1 = place
      · exact .inr (.inr (.inr ⟨(place, text), mem_entries_put.2 (.inl rfl), hplace ▸ hbelow⟩))
      · exact .inr (.inr (.inr ⟨entry, mem_entries_put.2 (.inr ⟨hentry, hplace⟩), hbelow⟩))
    · exact .inr (.inr (.inr ⟨(place, text), mem_entries_put.2 (.inl rfl), hbelow⟩))

/-! ## Following a path -/

/-- Where a component leads to from a directory. -/
def next (start : List String) (part : String) : List String :=
  if part = ".." then start.dropLast else start ++ [part]

theorem walk_cons_of_isDirectory {part : String} (h : files.isDirectory (next start part)) :
    files.walk start (part :: parts) = files.walk (next start part) parts := by
  rw [walk]
  exact if_pos h

/-- A way that ends in a directory leads through directories only. -/
theorem isDirectory_of_walk_cons {part : String}
    (h : files.walk start (part :: parts) = .ok (.directory dir)) : files.isDirectory (next start part) := by
  by_contra hnext
  rw [walk, show (if part = ".." then start.dropLast else start ++ [part]) = next start part from rfl] at h
  dsimp only at h
  rw [if_neg hnext] at h
  split at h
  · split_ifs at h
    cases h
  · cases h

theorem walk_append (h : files.walk start parts = .ok (.directory dir)) (more : List String) :
    files.walk start (parts ++ more) = files.walk dir more := by
  induction parts generalizing start with
  | nil =>
    obtain rfl : start = dir := by simpa [walk] using h
    rfl
  | cons part parts ih =>
    have hnext := isDirectory_of_walk_cons h
    rw [walk_cons_of_isDirectory hnext] at h
    rw [List.cons_append, walk_cons_of_isDirectory hnext, ih h]

theorem walk_put (h : files.walk start parts = .ok (.directory dir)) (place : List String) (text : String) :
    (files.put place text).walk start parts = .ok (.directory dir) := by
  induction parts generalizing start with
  | nil => exact h
  | cons part parts ih =>
    have hnext := isDirectory_of_walk_cons h
    rw [walk_cons_of_isDirectory hnext] at h
    rw [walk_cons_of_isDirectory (isDirectory_put_iff.2 (.inl hnext)), ih h]

/-- What is written to a path is found there. -/
theorem find?_of_write (h : files.write path text = .ok after) (hparts : path.parts ≠ [])
    (hname : path.name ≠ "..") : ∃ place, after.find? path = some (.file place text) := by
  obtain ⟨dir, hparent, hnew, rfl⟩ := write_eq_ok_iff.1 h
  have hsplit : path.parts = path.parent.parts ++ [path.name] := by
    rw [Path.parent, Path.name, List.getLast?_eq_some_getLast hparts]
    exact (List.dropLast_append_getLast hparts).symm
  have hfile : (files.put (dir ++ [path.name]) text).isDirectory (dir ++ [path.name]) = false := by
    rw [Bool.eq_false_iff, Ne, isDirectory_put_iff, hnew]
    simp
  have hfound : (files.put (dir ++ [path.name]) text).entries.find?
      (fun entry => entry.1 == dir ++ [path.name]) = some (dir ++ [path.name], text) := by
    have hothers : (files.entries.filter (·.1 ≠ dir ++ [path.name])).find?
        (fun entry => entry.1 == dir ++ [path.name]) = none :=
      List.find?_eq_none.2 fun entry hentry => by simpa using (List.mem_filter.1 hentry).2
    rw [put, List.find?_append, hothers]
    simp
  have hlast : (files.put (dir ++ [path.name]) text).walk dir [path.name] =
      .ok (.file (dir ++ [path.name]) text) := by
    rw [walk, show (if path.name = ".." then dir.dropLast else dir ++ [path.name]) = dir ++ [path.name] from
      if_neg hname]
    dsimp only
    rw [hfile, hfound]
    rfl
  have hlocate : (files.put (dir ++ [path.name]) text).locate path = .ok (.file (dir ++ [path.name]) text) := by
    rw [locate, hsplit]
    exact (walk_append (walk_put hparent _ text) [path.name]).trans hlast
  exact ⟨dir ++ [path.name], by rw [find?, hlocate]⟩

end Rollup.Files
