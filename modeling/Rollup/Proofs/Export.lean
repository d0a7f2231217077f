import Rollup.Proofs.Act
import Rollup.Proofs.Files
import Rollup.Proofs.Path
import Rollup.Proofs.Text.Lowercase

/-!
# Names of exports

Whatever an export is asked to be called, its name is that of a file with the ending of an export. It is the
name that an export called so would get, and a path with this name in the place of its last component stays in
its directory (`ExportFile.named_safely`).
-/

namespace Rollup

namespace ExportFile

variable {name filename : String}

/-! ## The ending -/

theorem hasEnding_iff : hasEnding name ↔ ending.toList <:+ (Text.lower name).toList := by
  rw [hasEnding, List.isSuffixOf_iff_suffix, Text.lower, String.toList_ofList]

theorem hasEnding_append (name : String) : hasEnding (name ++ ending) := by
  have hlower : Text.lowerChars ending.toList = ending.toList := by decide
  have hsuffix := Text.lowerChars_suffix name.toList (show 'Σ' ∉ ending.toList by decide)
  rw [hasEnding, List.isSuffixOf_iff_suffix, String.toList_append, ← hlower]
  rwa [hlower] at hsuffix ⊢

theorem ne_of_hasEnding {other : String} (h : hasEnding name) (hother : hasEnding other = false) :
    name ≠ other := by
  rintro rfl
  rw [h] at hother
  cases hother

/-- A name with the ending, which it may have already. -/
def withEnding (name : String) : String := if hasEnding name then name else name ++ ending

theorem hasEnding_withEnding (name : String) : hasEnding (withEnding name) := by
  unfold withEnding
  split_ifs with hend
  · exact hend
  · exact hasEnding_append name

/-- What has the ending is more than dots. -/
theorem isFileName_withEnding (h : '/' ∉ name.toList) : Path.IsFileName (withEnding name) := by
  have hend := hasEnding_withEnding name
  have hslash : '/' ∉ (withEnding name).toList := by
    unfold withEnding
    split_ifs
    · exact h
    · rw [String.toList_append, List.mem_append]
      exact not_or.2 ⟨h, by decide⟩
  exact ⟨⟨ne_of_hasEnding hend (by decide), ne_of_hasEnding hend (by decide), hslash⟩,
    ne_of_hasEnding hend (by decide)⟩

/-! ## The name -/

/-- The name that is to have the ending. -/
def stemFor (filename : String) : String :=
  if (Path.ofText filename).name = "" then "report" else (Path.ofText filename).name

theorem nameFor_eq (filename : String) : nameFor filename = withEnding (stemFor filename) := rfl

theorem isComponent_stemFor (filename : String) : Path.IsComponent (stemFor filename) := by
  unfold stemFor
  split_ifs with hname
  · exact ⟨by decide, by decide, by decide⟩
  · exact Path.isComponent_name (Path.isNormal_ofText filename) hname

theorem stemFor_eq_self (h : Path.IsComponent name) : stemFor name = name := by
  have hname : (Path.ofText name).name = name := by
    rw [Path.ofText_component h]
    rfl
  rw [stemFor, hname, if_neg h.ne_empty]

theorem hasEnding_nameFor (filename : String) : hasEnding (nameFor filename) := hasEnding_withEnding _

theorem isFileName_nameFor (filename : String) : Path.IsFileName (nameFor filename) :=
  isFileName_withEnding (isComponent_stemFor filename).slash

/-- A component that has the ending is taken as it is. -/
theorem nameFor_eq_self (h : Path.IsComponent name) (hend : hasEnding name) : nameFor name = name := by
  rw [nameFor_eq, stemFor_eq_self h, withEnding, if_pos hend]

theorem nameFor_nameFor (filename : String) : nameFor (nameFor filename) = nameFor filename :=
  nameFor_eq_self (isFileName_nameFor filename).toIsComponent (hasEnding_nameFor filename)

theorem build_eq (rows : List Row) (columns : List String) (filename : String) (delimiter : Char) :
    build rows columns filename delimiter = (Delimited.text rows columns delimiter).map
      fun content => { filename := nameFor filename, content } := by
  rw [build]
  cases Delimited.text rows columns delimiter <;> rfl

end ExportFile

/-! ## Writing the file -/

namespace Act

variable {setting : Setting} {s : Scene} {o : Opened} {r : Result} {path : Path}

/-- Where an export to a path goes: beside it, under a name with the ending. -/
def exportTarget (path : Path) : Path := path.withName (ExportFile.nameFor path.name)

/-- The files after an export to a path, if there is a place for it. -/
structure Exports (files : Files) (path : Path) (content : String) (after : Files) : Prop where
  named : path.name ≠ ""
  written : files.write (exportTarget path) content = .ok after

theorem Exports.unique {files after other : Files} {content : String} (h : Exports files path content after)
    (h' : Exports files path content other) : after = other :=
  Except.ok.inj (h.written.symm.trans h'.written)

/-- An exported text is found where it was to go. -/
theorem Exports.find? {files after : Files} {content : String} (h : Exports files path content after) :
    ∃ place, after.find? (exportTarget path) = some (.file place content) := by
  refine Files.find?_of_write h.written ?_ ?_
  · simp [exportTarget, Path.withName]
  · rw [exportTarget, Path.name_withName]
    exact (ExportFile.isFileName_nameFor path.name).ne_dots

/-- An export breaks off before it has done anything, or it writes its file and then says so. -/
theorem exportResult_cases (setting : Setting) (s : Scene) (o : Opened) (r : Result) (path : Path) :
    (∃ content files, Delimited.text r.rows r.columns o.config.delimiter = .ok content ∧
      Exports s.world.files path content files ∧
      (exportResult o r (some path)).runIn setting s =
        (remark (exportMarkup r (exportTarget path))).runIn setting
          { s with world := { s.world with files } }) ∨
    (∃ crash, (exportResult o r (some path)).runIn setting s = (.error (.crash crash), s)) ∧
      ∀ content files, Delimited.text r.rows r.columns o.config.delimiter = .ok content →
        ¬ Exports s.world.files path content files := by
  have hfile : o.engine.toFile r path.name = (Delimited.text r.rows r.columns o.config.delimiter).map
      fun content => { filename := ExportFile.nameFor path.name, content } := ExportFile.build_eq ..
  cases hcontent : Delimited.text r.rows r.columns o.config.delimiter with
  | error e =>
    refine .inr ⟨⟨.evaluation e, ?_⟩, nofun⟩
    rw [hcontent] at hfile
    have hrun : (orCrash .evaluation (o.engine.toFile r path.name)).runIn setting s =
        (.error (.crash (.evaluation e)), s) := by
      rw [runIn_orCrash, hfile]
      rfl
    rw [exportResult, runIn_bind_error hrun]
  | ok content =>
    rw [hcontent] at hfile
    have hrun : (orCrash .evaluation (o.engine.toFile r path.name)).runIn setting s =
        (.ok { filename := ExportFile.nameFor path.name, content }, s) := by
      rw [runIn_orCrash, hfile]
      rfl
    rw [exportResult, runIn_bind hrun]
    dsimp only
    rw [← exportTarget]
    by_cases hname : path.name = ""
    · refine .inr ⟨⟨.unnamed path, ?_⟩, fun _ _ _ h => h.named hname⟩
      rw [if_pos hname, runIn_bind_error (runIn_crash _)]
    rw [if_neg hname, runIn_bind runIn_get]
    cases hwrite : s.world.files.write (exportTarget path) content with
    | error e =>
      refine .inr ⟨⟨.write e (exportTarget path), ?_⟩, ?_⟩
      · rw [runIn_bind_error (runIn_orCrash _ _)]
        rfl
      · rintro _ files h hexports
        obtain rfl := Except.ok.inj h
        cases hwrite.symm.trans hexports.written
    | ok files =>
      refine .inl ⟨content, files, rfl, ⟨hname, hwrite⟩, ?_⟩
      rw [runIn_bind (runIn_orCrash _ _), runIn_bind (runIn_modify _)]

/-- An export changes nothing, or it writes one file, into the directory that its path stands in. -/
theorem exportResult_world (setting : Setting) (s : Scene) (o : Opened) (r : Result) (path : Path) :
    let (outcome, after) := (exportResult o r (some path)).runIn setting s
    outcome ≠ .ok () ∧ after.world = s.world ∨
      ∃ dir content, s.world.files.locate path.parent = .ok (.directory dir) ∧ after.world =
        { s.world with files := s.world.files.put (dir ++ [ExportFile.nameFor path.name]) content } := by
  rcases exportResult_cases setting s o r path with ⟨content, files, -, hexports, hrun⟩ | ⟨⟨e, hrun⟩, -⟩
  · obtain ⟨dir, hdir, -, rfl⟩ := Files.write_eq_ok_iff.1 hexports.written
    rw [exportTarget, Path.parent_withName] at hdir
    rw [exportTarget, Path.name_withName] at hrun
    obtain ⟨errors, ⟨-, hremark⟩ | ⟨-, e, hremark⟩⟩ := remarksIf_remark
      (exportMarkup r (path.withName (ExportFile.nameFor path.name))) setting { s with world := { s.world with
        files := s.world.files.put (dir ++ [ExportFile.nameFor path.name]) content } }
    all_goals
      rw [hrun, hremark]
      exact .inr ⟨dir, content, hdir, rfl⟩
  · rw [hrun]
    exact .inl ⟨nofun, rfl⟩

end Act

namespace ExportFile

/-- Every export has a name of a file with the ending of an export, which an export that is called so keeps.
What is exported to a path is written into its directory or not at all. -/
theorem named_safely (filename : String) :
    Path.IsFileName (nameFor filename) ∧ ending.toList <:+ (Text.lower (nameFor filename)).toList ∧
    (∀ rows columns delimiter,
      build rows columns filename delimiter = (Delimited.text rows columns delimiter).map
        (fun content => { filename := nameFor filename, content }) ∧
      build rows columns (nameFor filename) delimiter = build rows columns filename delimiter) ∧
    ∀ given : String,
      let path := Path.ofText given
      let target := path.withName (nameFor path.name)
      target.parent = path.parent ∧ Path.ofText target.text = target ∧
      ∀ (setting : Setting) (s : Scene) (o : Opened) (r : Result),
        let (outcome, after) := (Act.exportResult o r (some path)).runIn setting s
        outcome ≠ .ok () ∧ after.world = s.world ∨
          ∃ dir content, s.world.files.locate path.parent = .ok (.directory dir) ∧
            after.world = { s.world with files := s.world.files.put (dir ++ [nameFor path.name]) content } := by
  refine ⟨isFileName_nameFor filename, hasEnding_iff.1 (hasEnding_nameFor filename),
    fun rows columns delimiter => ?_, fun given => ⟨Path.parent_withName _ _, Path.ofText_text ?_, ?_⟩⟩
  · rw [build_eq, build_eq, nameFor_nameFor]
    exact ⟨rfl, rfl⟩
  · exact (Path.isNormal_ofText given).withName (isFileName_nameFor _).toIsComponent
  · exact fun setting s o r => Act.exportResult_world setting s o r (Path.ofText given)

example : nameFor "../backups/Deals.CSV/." = "Deals.CSV" ∧ nameFor ".." = "...csv" ∧
    nameFor "//" = "report.csv" := by decide +kernel

end ExportFile

end Rollup
