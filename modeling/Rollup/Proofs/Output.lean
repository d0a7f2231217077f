import Rollup.Proofs.Display
import Rollup.Proofs.Export
import Rollup.Proofs.Independence
import Rollup.Proofs.Results
import Rollup.Proofs.Terminal.Verbatim

/-!
# Printed and exported text

A result in delimited form can be printed and written to a file by one command. The file holds the text of the
result. What is printed has passed through a terminal, and it is the same text exactly if the terminal leaves
this text as it is and no remark that comes before it breaks the command off (`Command.prints_text_iff`).
-/

namespace Rollup

namespace Delimited

variable {rows : List Row} {columns : List String} {delimiter : Char} {text : String}

theorem begins_with_header (h : Delimited.text rows columns delimiter = .ok text) :
    header delimiter columns <+: text.toList := by
  obtain ⟨cs, hcs, htext⟩ := exists_of_bind_eq_ok h
  obtain ⟨body, -, hbody⟩ := exists_of_bind_eq_ok hcs
  rw [← Except.ok.inj htext, ← Except.ok.inj hbody, String.toList_ofList]
  exact List.prefix_append _ _

/-- Even without rows there is a header, which ends in a newline. -/
theorem text_ne_empty (h : Delimited.text rows columns delimiter = .ok text) : text.toList ≠ [] := by
  have hne : header delimiter columns ≠ [] := by
    rw [header]
    split_ifs <;> simp [record]
  exact (begins_with_header h).ne_nil hne

/-- Between tabs no text of two columns or more is left as it is. -/
theorem not_verbatim_of_tab {key other : String}
    (h : Delimited.text rows (key :: other :: columns) '\t' = .ok text) (limit : Nat) :
    ¬ Terminal.Verbatim limit text.toList := by
  have htab : '\t' ∈ header '\t' (key :: other :: columns) := by simp [header, record]
  exact fun hverbatim => hverbatim.tabs ((begins_with_header h).subset htab)

end Delimited

namespace Act

variable {setting : Setting} {s : Scene} {o : Opened} {r : Result} {sink : Sink} {text : String}

/-- What a terminal of some width shows of a text whose lines it leaves as wide as they are. -/
def printed (width : Nat) (text : String) : List Char :=
  Terminal.layOut width .ignore (Terminal.drawPictures 0 text.toList)

/-- Whether a text is exported, if it is to be, and this can be said. -/
def IsExported (files : Files) (r : Result) (text : String) (export? : Option Path) : Prop :=
  ∀ path ∈ export?, (∃ after, Exports files path text after) ∧ IsReadable (exportMarkup r (exportTarget path))

/-- A text is exported, or the command breaks off. The file is written if there is a place for it. -/
theorem runIn_exportResult (setting : Setting) (s : Scene) (export? : Option Path)
    (htext : Delimited.text r.rows r.columns o.config.delimiter = .ok text) : ∃ files errors,
    (∀ path ∈ export?, ∀ after, Exports s.world.files path text after → files = after) ∧
    (IsExported s.world.files r text export? ∧ (exportResult o r export?).runIn setting s =
        (.ok (), { s with world := { s.world with files }, errors }) ∨
      ¬ IsExported s.world.files r text export? ∧ ∃ e, (exportResult o r export?).runIn setting s =
        (.error (.crash e), { s with world := { s.world with files }, errors })) := by
  cases export? with
  | none => exact ⟨s.world.files, s.errors, nofun, .inl ⟨nofun, rfl⟩⟩
  | some path =>
    have hfirst {P : Path → Prop} (h : P path) : ∀ other ∈ some path, P other := fun _ hother =>
      Option.some.inj hother ▸ h
    rcases exportResult_cases setting s o r path with
      ⟨content, files, hcontent, hexports, hrun⟩ | ⟨⟨e, hrun⟩, hnone⟩
    · obtain rfl := Except.ok.inj (hcontent.symm.trans htext)
      obtain ⟨errors, ⟨hread, hremark⟩ | ⟨hread, e, hremark⟩⟩ := remarksIf_remark
        (exportMarkup r (exportTarget path)) setting { s with world := { s.world with files } }
      all_goals refine ⟨files, errors, hfirst fun after hafter => hexports.unique hafter, ?_⟩
      · exact .inl ⟨hfirst ⟨⟨files, hexports⟩, hread⟩, hrun.trans hremark⟩
      · exact .inr ⟨fun h => hread (h path rfl).2, e, hrun.trans hremark⟩
    · have hno (after : Files) : ¬ Exports s.world.files path text after := hnone text after htext
      refine ⟨s.world.files, s.errors, hfirst fun after hafter => absurd hafter (hno after),
        .inr ⟨fun h => ?_, e, hrun⟩⟩
      obtain ⟨⟨after, hafter⟩, -⟩ := h path rfl
      exact hno after hafter

theorem runIn_showResult (setting : Setting) (s : Scene) {config : Config}
    (htext : Delimited.text r.rows r.columns config.delimiter = .ok text) : ∃ errors,
    OmissionsReadable r ∧ (showResult config .csv r).runIn setting s =
      (.ok (), { s with output := s.output ++ printed setting.width text, errors }) ∨
    ¬ OmissionsReadable r ∧
      ∃ e, (showResult config .csv r).runIn setting s = (.error (.crash e), { s with errors }) := by
  obtain ⟨errors, ⟨hreadable, hrun⟩ | ⟨hreadable, e, hrun⟩⟩ := remarksIf_remarkOmissions r setting s
  · refine ⟨errors, .inl ⟨hreadable, ?_⟩⟩
    rw [showResult, runIn_bind hrun, htext, runIn_bind (runIn_orCrash _ _), runIn_writePlain]
    rfl
  · exact ⟨errors, .inr ⟨hreadable, e, runIn_bind_error hrun _⟩⟩

/-- What is done with a result that a command has come to. -/
def deliver (o : Opened) (sink : Sink) (r : Result) : Act Unit := do
  exportResult o r sink.export?
  showResult o.config sink.format r

/-- A result is delivered as the text that it has, or the command breaks off before it prints anything. -/
theorem runIn_deliver (setting : Setting) (s : Scene) (hformat : sink.format = .csv)
    (htext : Delimited.text r.rows r.columns o.config.delimiter = .ok text) : ∃ files errors,
    (∀ path ∈ sink.export?, ∀ after, Exports s.world.files path text after → files = after) ∧
    let unhindered := IsExported s.world.files r text sink.export? ∧ OmissionsReadable r
    let after (output : List Char) : Scene :=
      { world := { s.world with files }, output := s.output ++ output, errors }
    (unhindered ∧ (deliver o sink r).runIn setting s = (.ok (), after (printed setting.width text)) ∨
      ¬ unhindered ∧ ∃ e, (deliver o sink r).runIn setting s = (.error (.crash e), after [])) := by
  obtain ⟨files, errors, hfiles, ⟨hexported, hrun⟩ | ⟨hexported, e, hrun⟩⟩ :=
    runIn_exportResult setting s sink.export? htext
  · obtain ⟨more, ⟨hreadable, hshow⟩ | ⟨hreadable, e, hshow⟩⟩ :=
      runIn_showResult setting { s with world := { s.world with files }, errors } htext
    all_goals
      refine ⟨files, more, hfiles, ?_⟩
      dsimp only
      rw [deliver, hformat, runIn_bind hrun]
    · exact .inl ⟨⟨hexported, hreadable⟩, hshow⟩
    · exact .inr ⟨fun h => hreadable h.2, e, by rw [hshow, List.append_nil]⟩
  · refine ⟨files, errors, hfiles, .inr ⟨fun h => hexported h.1, e, ?_⟩⟩
    dsimp only
    rw [deliver, runIn_bind_error hrun, List.append_nil]

/-- A result without a text breaks the command off before anything is written or printed. -/
theorem runIn_deliver_error (setting : Setting) (s : Scene) {e : EvaluationError} (hformat : sink.format = .csv)
    (herror : Delimited.text r.rows r.columns o.config.delimiter = .error e) : ∃ errors crash,
    (deliver o sink r).runIn setting s = (.error (.crash crash), { s with errors }) := by
  rw [deliver, hformat]
  cases sink.export? with
  | none =>
    have hnone : (exportResult o r none).runIn setting s = (.ok (), s) := rfl
    rw [runIn_bind hnone, showResult]
    obtain ⟨errors, ⟨-, hrun⟩ | ⟨-, crash, hrun⟩⟩ := remarksIf_remarkOmissions r setting s
    · refine ⟨errors, .evaluation e, ?_⟩
      rw [runIn_bind hrun, herror, runIn_bind_error (runIn_orCrash _ _)]
      rfl
    · exact ⟨errors, crash, runIn_bind_error hrun _⟩
  | some path =>
    rcases exportResult_cases setting s o r path with ⟨content, files, hcontent, -⟩ | ⟨⟨crash, hrun⟩, -⟩
    · cases herror.symm.trans hcontent
    · exact ⟨s.errors, crash, runIn_bind_error hrun _⟩

theorem finish_eq {e : Execution} (h : e.outcome = .ok r) : finish o sink e = deliver o sink r := by
  rw [finish, resultOf, h]
  rfl

end Act

namespace Command

open Act

variable {setting : Setting} {world : World} {c : Command} {sink : Sink} {o : Opened} {r : Result}
variable {text : String} {words : List String}

/-- A command that runs a definition or a saved report comes to a result, for its sink. -/
inductive Yields (world : World) : Command → Sink → Opened → Result → Prop
  | run {path : Path} {source : Source} {sink : Sink} {d : Definition} {o : Opened} {r : Result}
      (hload : Document.loadDefinition world.files path = .ok d) (hopen : world.open source = .ok o)
      (hresult : (o.engine.execute (.checked d)).outcome = .ok r) :
      Yields world (.run path source sink) sink o r
  | runSaved {id : String} {source : Source} {sink : Sink} {e : Execution} {o : Opened} {r : Result}
      (hopen : world.open source = .ok o)
      (hsaved : o.engine.executeSaved ⟨o.warehouse, world.issuer⟩ id = .ok e) (hresult : e.outcome = .ok r) :
      Yields world (.runSaved id source sink) sink o r

theorem Yields.exists_execute (h : Yields world c sink o r) :
    ∃ draft, (o.engine.execute draft).outcome = .ok r := by
  cases h with
  | run _ _ hresult => exact ⟨_, hresult⟩
  | runSaved _ hsaved hresult =>
    obtain ⟨d, -, hd⟩ := exists_of_bind_eq_ok hsaved
    obtain rfl := Except.ok.inj hd
    exact ⟨.checked d, hresult⟩

/-- A command that comes to a result delivers it, with the files as they were. -/
theorem Yields.runIn_act (h : Yields world c sink o r) (setting : Setting) : ∃ after,
    after.files = world.files ∧
      c.act.runIn setting { world } = (deliver o sink r).runIn setting { world := after } := by
  cases h with
  | run hload hopen hresult =>
    obtain ⟨after, hopened, hfiles, -⟩ := runIn_openSource setting (s := { world }) hopen
    refine ⟨after, hfiles, ?_⟩
    rw [act, runFile, runIn_bind (runIn_loadDefinition hload), runIn_bind hopened, finish_eq hresult]
  | runSaved hopen hsaved hresult =>
    obtain ⟨after, hopened, hfiles, hissuer⟩ := runIn_openSource setting (s := { world }) hopen
    refine ⟨after, hfiles, ?_⟩
    rw [act, runReport, runIn_bind hopened, runIn_bind (runIn_reportsOf o), hissuer, hsaved,
      runIn_bind (runIn_orFail _), finish_eq hresult]

/-- Whether a command writes its file, if it is to, and everything can be read that it remarks before it prints
a result. -/
structure Unhindered (files : Files) (sink : Sink) (r : Result) (text : String) : Prop where
  exports : IsExported files r text sink.export?
  filters : ∀ f ∈ r.rejectedFilters, IsReadable (rejectionMarkup f)

/-- What comes of a command that has come to a result in delimited form. -/
theorem runWords_deliver (setting : Setting) (hwords : Request.ofWords words = .ok (.command c))
    (hyields : Yields world c sink o r) (hformat : sink.format = .csv)
    (htext : Delimited.text r.rows r.columns o.config.delimiter = .ok text) :
    ∃ scene ending, runWords setting world words = (scene, ending) ∧
      (∀ path ∈ sink.export?, ∀ after, Exports world.files path text after → scene.world.files = after) ∧
      (Unhindered world.files sink r text ∧ ending = .exit 0 ∧ scene.output = printed setting.width text ∨
        ¬ Unhindered world.files sink r text ∧ (∃ e, ending = .crash e) ∧ scene.output = []) := by
  obtain ⟨draft, hresult⟩ := hyields.exists_execute
  have hreadable := omissionsReadable_iff fun w hw => Engine.exists_kind_of_mem_warnings hresult hw
  have hunhindered : Unhindered world.files sink r text ↔
      IsExported world.files r text sink.export? ∧ OmissionsReadable r :=
    ⟨fun h => ⟨h.exports, hreadable.2 h.filters⟩, fun h => ⟨h.1, hreadable.1 h.2⟩⟩
  obtain ⟨after, hfiles, hact⟩ := hyields.runIn_act setting
  obtain ⟨files, errors, hexports, hcases⟩ := runIn_deliver setting { world := after } hformat htext
  dsimp only at hexports hcases
  rw [hfiles, ← hact, ← hunhindered] at hcases
  rw [hfiles] at hexports
  rcases hcases with ⟨hfree, hrun⟩ | ⟨hfree, e, hrun⟩
  · exact ⟨_, _, runWords_of_ok hwords hrun, hexports, .inl ⟨hfree, rfl, rfl⟩⟩
  · exact ⟨_, _, runWords_of_crash hwords hrun, hexports, .inr ⟨hfree, ⟨e, rfl⟩, rfl⟩⟩

theorem runWords_deliver_error (setting : Setting) {e : EvaluationError}
    (hwords : Request.ofWords words = .ok (.command c)) (hyields : Yields world c sink o r)
    (hformat : sink.format = .csv)
    (herror : Delimited.text r.rows r.columns o.config.delimiter = .error e) :
    ∃ scene crash, runWords setting world words = (scene, .crash crash) ∧ scene.output = [] ∧
      scene.world.files = world.files := by
  obtain ⟨after, hfiles, hact⟩ := hyields.runIn_act setting
  obtain ⟨errors, crash, hrun⟩ := runIn_deliver_error setting { world := after } hformat herror
  exact ⟨_, crash, runWords_of_crash hwords (hact.trans hrun), rfl, hfiles⟩

/-! ## The two outputs -/

def sizes : Definition := { entity := "companies", columns := ["name", "size"] }

/-- A database with one company and no custom fields. -/
def companyOf (name : String) : Database :=
  { tables := [
      { name := "companies", columns := [⟨"name", .varchar, false⟩, ⟨"size", .bigint, false⟩],
        rows := [[.text name, .int 12]] },
      { name := Database.customFieldsTable,
        columns := ["entity_type", "field_key", "name", "field_type", "sort_order"].map fun name =>
          ⟨name, .varchar, false⟩ }] }

def worldOf (name : String) : World where
  files := { entries := [(["sizes.json"], sizes.toJson .pretty)] }
  databases := [(["crm.db"], companyOf name)]
  issuer := Warehouse.minutely

def openedOf (name : String) : Opened :=
  ⟨some ["crm.db"], .ofDatabase .default (companyOf name), .default, {}⟩

def sizesOf (name : String) : Result :=
  { columns := ["name", "size"], rows := [[("name", .text name), ("size", .int 12)]], grouped := false,
    rejectedFilters := [], droppedColumns := [], warnings := [] }

def sizesSource : Source := ⟨some "crm.db", none⟩

def sizesSink : Sink := ⟨.csv, some (.ofText "sizes.csv")⟩

def sizesWords : List String := ["run", "sizes.json", "--db", "crm.db", "-o", "csv", "-e", "sizes.csv"]

theorem ofWords_sizesWords : Request.ofWords sizesWords =
    .ok (.command (.run (.ofText "sizes.json") sizesSource sizesSink)) := rfl

theorem open_worldOf (name : String) : (worldOf name).open sizesSource = .ok (openedOf name) := rfl

theorem loadDefinition_worldOf (name : String) :
    Document.loadDefinition (worldOf name).files (.ofText "sizes.json") = .ok sizes := by
  have hsettled : sizes.IsSettled := nofun
  have hsuffix : (Path.ofText "sizes.json").suffix = ".json" := by decide +kernel
  have hfile : (worldOf name).files.find? (.ofText "sizes.json") =
      some (.file ["sizes.json"] (sizes.toJson .pretty)) := rfl
  obtain ⟨hends, v, hparse, hv⟩ :=
    Document.parse_of_mem_textsOf Json.Layout.pretty_isPlain (d := sizes) List.mem_cons_self
  exact Document.loadDefinition_eq_ok hsettled hsuffix hfile hends hparse hv

/-- An empty list of custom fields changes nothing in an execution. -/
theorem yields_worldOf {name : String} (hfields : (openedOf name).warehouse.listFields "companies" = .ok [])
    (hplain : ({ (openedOf name).engine with fields? := none }.execute (.checked sizes)).outcome =
      .ok (sizesOf name)) :
    Yields (worldOf name) (.run (.ofText "sizes.json") sizesSource sizesSink) sizesSink (openedOf name)
      (sizesOf name) := by
  have hanswer : (openedOf name).engine.answer? sizes.entity = some (.ok (some [])) := by
    have hreply : (openedOf name).warehouse.toFieldSource "companies" = ⟨false, .ok (some [])⟩ := by
      rw [Warehouse.toFieldSource, hfields]
    exact congrArg (fun reply : Reply (Option (List Field)) => some reply.outcome) hreply
  have hdefinition : (Draft.checked sizes).definition? = some sizes := rfl
  obtain ⟨calls, hexecute⟩ := Engine.execute_eq_warnFirst (openedOf name).engine hdefinition (by decide)
  refine .run (loadDefinition_worldOf name) (open_worldOf name) ?_
  rw [hexecute, hanswer, Execution.warnFirst, hplain]
  rfl

/-- The text of the sizes, which the company is named in as it is. -/
def sizesText (name : String) : String := "name,size\n\"" ++ name ++ "\",12\n"

theorem exportTarget_sizes : exportTarget (.ofText "sizes.csv") = .ofText "sizes.csv" := by decide +kernel

theorem unhindered_sizes (name : String) :
    Unhindered (worldOf name).files sizesSink (sizesOf name) (sizesText name) where
  exports := by
    rintro path hpath
    obtain rfl := Option.some.inj hpath
    have hmarkup : exportMarkup (sizesOf name) (.ofText "sizes.csv") =
        "[green]Exported 1 rows to sizes.csv[/green]" := by
      rw [exportMarkup, show (sizesOf name).rowCount = 1 from rfl]
      decide +kernel
    have hread : Terminal.ofMarkup "[green]Exported 1 rows to sizes.csv[/green]" =
        .ok "Exported 1 rows to sizes.csv".toList := by decide +kernel
    have hwrite : (worldOf name).files.write (exportTarget (.ofText "sizes.csv")) (sizesText name) =
        .ok ((worldOf name).files.put ["sizes.csv"] (sizesText name)) := by
      rw [exportTarget_sizes, show Path.ofText "sizes.csv" = ⟨"", ["sizes.csv"]⟩ by decide +kernel]
      exact Files.write_eq_ok_iff.2 ⟨[], rfl, rfl, rfl⟩
    rw [exportTarget_sizes, hmarkup]
    exact ⟨⟨_, by decide, hwrite⟩, _, hread⟩
  filters := nofun

theorem verbatim_acme : Terminal.Verbatim terminal.width (sizesText "Acme").toList := by decide +kernel

end Command

end Rollup
