import Rollup.Proofs.Act
import Rollup.Proofs.Database.Reports
import Rollup.Proofs.Json.Blanks
import Rollup.Proofs.Json.Pictures

/-!
# Showing saved reports

A saved report is shown as the JSON text of its definition, which passes through a terminal on its way:
pictures are drawn in it, and lines that are too wide are broken. It is read from a file as the same
definition exactly when no picture was drawn and every line was broken between tokens.
-/

namespace Rollup

namespace Definition

/-- The definition with pictures drawn in its texts. -/
def drawn (d : Definition) : Definition where
  entity := Json.drawnText d.entity
  columns := d.columns.map Json.drawnText
  filters := d.filters.map fun f => ⟨Json.drawnText f.field, f.operator, Json.drawnText f.value⟩
  groupBy? := d.groupBy?.map Json.drawnText
  aggregations := d.aggregations.map fun a => ⟨a.function, Json.drawnText a.field⟩
  visualization := d.visualization
  name := Json.drawnText d.name

variable {d : Definition}

theorem memberDrawnAs_text {key : String} (h : ':' ∉ key.toList) (s : String) :
    Json.MemberDrawnAs (key, .text s) (key, .text (Json.drawnText s)) := ⟨rfl, h, Json.drawnAs_text s⟩

theorem memberDrawnAs_name {key name : String} (h : ':' ∉ key.toList) (hname : ':' ∉ name.toList) :
    Json.MemberDrawnAs (key, .text name) (key, .text name) := by
  have hdrawn := memberDrawnAs_text h name
  rwa [Json.drawnText_eq_self hname] at hdrawn

theorem memberDrawnAs_list {α : Type} {key : String} (h : ':' ∉ key.toList) {write : α → Value} {draw : α → α}
    (hdraw : ∀ a, Json.DrawnAs (write a) (write (draw a))) (as : List α) :
    Json.MemberDrawnAs (key, .list (as.map write)) (key, .list ((as.map draw).map write)) := by
  refine ⟨rfl, h, Json.drawnAs_list ?_⟩
  rw [List.forall₂_map_left_iff, List.map_map, List.forall₂_map_right_iff, List.forall₂_same]
  exact fun a _ => hdraw a

theorem drawnAs_filter (f : Filter) : Json.DrawnAs f.toValue
    (Filter.toValue ⟨Json.drawnText f.field, f.operator, Json.drawnText f.value⟩) := by
  have hoperator : ':' ∉ f.operator.name.toList := by cases f.operator <;> decide
  exact Json.drawnAs_record (.cons (memberDrawnAs_text (by decide) _)
    (.cons (memberDrawnAs_name (by decide) hoperator) (.cons (memberDrawnAs_text (by decide) _) .nil)))

theorem drawnAs_aggregation (a : Aggregation) : Json.DrawnAs a.toValue
    (Aggregation.toValue ⟨a.function, Json.drawnText a.field⟩) := by
  have hfunction : ':' ∉ a.function.name.toList := by cases a.function <;> decide
  exact Json.drawnAs_record (.cons (memberDrawnAs_name (by decide) hfunction)
    (.cons (memberDrawnAs_text (by decide) _) .nil))

theorem drawnAs_toValue (d : Definition) : Json.DrawnAs d.toValue d.drawn.toValue := by
  have hvisualization : ':' ∉ d.visualization.name.toList := by cases d.visualization <;> decide
  refine Json.drawnAs_record (.cons (memberDrawnAs_text (by decide) _) (.cons ?_ (.cons ?_ (.cons ?_
    (.cons ?_ (.cons (memberDrawnAs_name (by decide) hvisualization)
      (.cons (memberDrawnAs_text (by decide) _) .nil)))))))
  · exact memberDrawnAs_list (by decide) Json.drawnAs_text d.columns
  · exact memberDrawnAs_list (by decide) drawnAs_filter d.filters
  · rw [show d.drawn.groupBy? = d.groupBy?.map Json.drawnText from rfl]
    cases d.groupBy? with
    | none => exact ⟨rfl, by decide, Json.drawnAs_null⟩
    | some s => exact memberDrawnAs_text (by decide) s
  · exact memberDrawnAs_list (by decide) drawnAs_aggregation d.aggregations

theorem drawPictures_toJson (d : Definition) :
    Terminal.drawPictures 0 (d.toJson .pretty).toList = (d.drawn.toJson .pretty).toList :=
  d.drawnAs_toValue.render

/-- Drawing pictures does not make a grouping, nor take one away. -/
theorem drawn_eq_of_settled (h : d.drawn.settled = d) : d.drawn = d := by
  have hgroupBy : d.drawn.groupBy?.filter (fun s => !Text.isBlank s) = d.groupBy? := congrArg groupBy? h
  have hsettled : d.drawn.IsSettled := by
    intro s hs
    cases hd : d.groupBy? with
    | none =>
      rw [drawn, hd] at hs
      cases hs
    | some t =>
      rw [hs, hd] at hgroupBy
      obtain ⟨heq, hblank⟩ := Option.filter_eq_some_iff.1 hgroupBy
      obtain rfl := Option.some.inj heq
      simpa using hblank
  rw [← settled_eq_self hsettled, h]

/-- What a terminal of some width shows of a definition. -/
def shown (width : Nat) (d : Definition) : List Char :=
  Terminal.layOut width .fold (Terminal.drawPictures 0 (d.toJson .pretty).toList) ++ ['\n']

theorem shown_eq (width : Nat) (d : Definition) : d.shown width =
    Terminal.layOut width .fold (Terminal.drawPictures 0 (d.toJson .pretty).toList) ++ ['\n'] := rfl

-- Unfolded by `shown_eq` only, so that nothing lays out a text by computing.
attribute [irreducible] shown

theorem folded_shown {width : Nat} (h : 2 ≤ width) (d : Definition) :
    Terminal.Folded (d.drawn.toJson .pretty).toList (d.shown width) := by
  have hcalm := d.drawn.plain_toValue.calm_chars Json.Layout.pretty_isPlain 0
  rw [shown_eq, drawPictures_toJson]
  refine Terminal.folded_layOut h ?_
  rwa [toJson, Json.render, String.toList_ofList]

/-! ## Reading what is shown -/

theorem parse_shown_iff {width : Nat} (h : 2 ≤ width) (d : Definition) :
    Json.parse (String.ofList (d.shown width)) = .ok d.drawn.toValue ↔
      Json.LinesEndBetween .between (d.shown width) := by
  have hfolded := d.folded_shown h
  rw [← String.toList_ofList (l := d.shown width)] at hfolded
  rw [Json.parse_of_folded Json.Layout.pretty_isPlain d.drawn.plain_toValue hfolded, String.toList_ofList]

/-- The lines of a definition end between tokens where none of them has to be broken. -/
theorem linesEndBetween_of_narrow {width : Nat} (hwidth : 2 ≤ width)
    (h : ∀ l ∈ Terminal.splitLines (· = '\n') (Json.chars .pretty 0 d.drawn.toValue),
      Terminal.IsNarrow width l) : Json.LinesEndBetween .between (d.shown width) := by
  have hplain := d.drawn.plain_toValue
  have hshown : d.shown width = Json.chars .pretty 0 d.drawn.toValue ++ ['\n'] := by
    rw [shown_eq, drawPictures_toJson, toJson, Json.render, String.toList_ofList,
      Terminal.layOut_narrow (hplain.calm_chars Json.Layout.pretty_isPlain 0) h]
  have hmarks : Json.marks .between (String.ofList (d.shown width)).toList =
      Json.chars .compact 0 d.drawn.toValue := by
    rw [String.toList_ofList, hshown, hplain.sameMarks Json.Layout.pretty_isPlain 0 0]
    exact List.append_nil _
  exact (parse_shown_iff hwidth d).1 (Json.parse_of_marks hplain hmarks)

theorem not_mem_shown {width : Nat} (h : 2 ≤ width) (d : Definition) : '\r' ∉ d.shown width := by
  intro hmem
  have hcalm := d.drawn.plain_toValue.calm_chars Json.Layout.pretty_isPlain 0
  have hfolded := d.folded_shown h
  rw [toJson, Json.render, String.toList_ofList] at hfolded
  exact (hfolded.mem hmem).elim hcalm.not_mem (by decide)

/-- A file with what is shown of a definition holds it exactly when no pictures were drawn in it and every
line was broken between tokens. -/
theorem loadDefinition_shown_iff {width : Nat} (hwidth : 2 ≤ width) (h : d.IsSettled) {files : Files}
    {path : Path} {place : List String} (hsuffix : path.suffix = ".json")
    (hfile : files.find? path = some (.file place (String.ofList (d.shown width)))) :
    Document.loadDefinition files path = .ok d ↔
      d.drawn = d ∧ Json.LinesEndBetween .between (d.shown width) := by
  have hends : '\r' ∉ (String.ofList (d.shown width)).toList := by
    rw [String.toList_ofList]
    exact not_mem_shown hwidth d
  have hparse := parse_shown_iff hwidth d
  generalize d.shown width = cs at hfile hends hparse
  constructor
  · intro hload
    rw [Document.loadDefinition_eq hsuffix hfile hends] at hload
    obtain ⟨v, hjson, hdefinition⟩ := exists_of_bind_eq_ok hload
    have hread : Json.parse (String.ofList cs) = .ok v := by
      unfold Document.ofJson at hjson
      split at hjson
      · rename_i u hu
        exact Except.ok.inj hjson ▸ hu
      · cases hjson
    have hlines := (Json.sound_of_parse hread).linesEndBetween
    rw [String.toList_ofList] at hlines
    obtain rfl : v = d.drawn.toValue := Except.ok.inj (hread.symm.trans (hparse.2 hlines))
    rw [Document.definition_toValue] at hdefinition
    exact ⟨drawn_eq_of_settled (Except.ok.inj hdefinition), hlines⟩
  · rintro ⟨hdrawn, hlines⟩
    have hread := hparse.2 hlines
    rw [hdrawn] at hread
    exact Document.loadDefinition_eq_ok h hsuffix hfile hends hread (.inl rfl)

end Definition

/-! ## Running a command -/

namespace Command

variable {setting : Setting} {world : World} {id : String} {database? : Option String} {o : Opened}
variable {d : Definition}

theorem runIn_showReport (setting : Setting) (hopen : world.open ⟨database?, none⟩ = .ok o)
    (hload : (⟨o.warehouse, world.issuer⟩ : Reports Warehouse).load id = .ok d) :
    ∃ after, (showReport id database?).runIn setting { world } =
      (.ok (), { world := after, output := d.shown setting.width }) := by
  obtain ⟨after, hopened, -, hissuer⟩ := Act.runIn_openSource setting (s := { world }) hopen
  refine ⟨after, ?_⟩
  have hreports : (Act.reportsOf o).runIn setting { world := after } =
      (.ok ⟨o.warehouse, world.issuer⟩, { world := after }) := hissuer ▸ rfl
  have hfound : (Act.orFail (.ok d)).runIn setting { world := after } = (.ok d, { world := after }) := rfl
  rw [showReport, Act.openDatabase, Act.runIn_bind hopened, Act.runIn_bind hreports, hload, Act.runIn_bind hfound,
    Act.runIn_bind (Act.runIn_writePlain ..), Act.runIn_write, Definition.shown_eq]
  simp only [List.nil_append]

theorem runWords_display (setting : Setting) {words : List String}
    (hwords : Request.ofWords words = .ok (.command (.display id database?)))
    (hopen : world.open ⟨database?, none⟩ = .ok o)
    (hload : (⟨o.warehouse, world.issuer⟩ : Reports Warehouse).load id = .ok d) :
    ∃ after, runWords setting world words =
      ({ world := after, output := d.shown setting.width }, .exit 0) := by
  obtain ⟨after, hrun⟩ := runIn_showReport setting hopen hload
  exact ⟨after, runWords_of_ok hwords hrun⟩

theorem isSettled_of_load {reports : Reports Warehouse} (h : reports.load id = .ok d) : d.IsSettled := by
  obtain ⟨r, -, hr⟩ := exists_of_bind_eq_ok h
  exact Except.ok.inj hr ▸ r.isSettled_toDefinition

/-- A saved report is shown so that a file with what was said is read as the same definition exactly when
no pictures were drawn in it and every line was broken between tokens. -/
theorem shown_reads_back_iff {words : List String} (hwidth : 2 ≤ setting.width)
    (hwords : Request.ofWords words = .ok (.command (.display id database?)))
    (hopen : world.open ⟨database?, none⟩ = .ok o)
    (hload : (⟨o.warehouse, world.issuer⟩ : Reports Warehouse).load id = .ok d) :
    ∃ scene, runWords setting world words = (scene, .exit 0) ∧ scene.output = d.shown setting.width ∧
      ∀ (files : Files) (path : Path) (place : List String), path.suffix = ".json" →
        files.find? path = some (.file place (String.ofList scene.output)) →
          (Document.loadDefinition files path = .ok d ↔
            d.drawn = d ∧ Json.LinesEndBetween .between (d.shown setting.width)) := by
  obtain ⟨after, hrun⟩ := runWords_display setting hwords hopen hload
  refine ⟨_, hrun, rfl, fun files path place hsuffix hfile => ?_⟩
  exact Definition.loadDefinition_shown_iff hwidth (isSettled_of_load hload) hsuffix hfile

/-! ### A report on a terminal of eighty columns -/

def terminal : Setting := ⟨80, .nan⟩

/-- A world with a database that holds a report. -/
def worldWith (r : SavedReport) : World where
  databases := [(["reports.db"], { tables := [Database.reportsOf [r]] })]
  issuer := Warehouse.minutely

def openedWith (r : SavedReport) : Opened :=
  ⟨some ["reports.db"], .ofDatabase .default { tables := [Database.reportsOf [r]] }, .default, {}⟩

theorem open_worldWith (r : SavedReport) :
    (worldWith r).open ⟨some "reports.db", none⟩ = .ok (openedWith r) := rfl

theorem load_openedWith {r : SavedReport} (h : r.IsKeepable) :
    (⟨(openedWith r).warehouse, Warehouse.minutely⟩ : Reports Warehouse).load r.id = .ok r.definition := by
  have horderly : Shelf.IsOrderly [r] := ⟨List.nodup_singleton _, List.forall_mem_singleton.2 h⟩
  have hrows : (⟨[Database.reportsOf [r]]⟩ : Database).find? Database.reportsTable =
      some (Database.reportsOf [r]) := List.find?_cons_of_pos (beq_self_eq_true _)
  have hensured : (⟨[Database.reportsOf [r]]⟩ : Database).ensureReports = ⟨[Database.reportsOf [r]]⟩ := by
    rw [Database.ensureReports, hrows]
    rfl
  have hholds : LawfulKeeper.Holds (openedWith r).warehouse [r] :=
    ⟨rfl, (congrArg (Database.find? · _) hensured).trans hrows, horderly⟩
  have hfind : [r].find? (fun s => s.id == r.id) = some r := List.find?_cons_of_pos (beq_self_eq_true _)
  rw [Reports.load, Reports.get, LawfulKeeper.find? r.id hholds, hfind]
  exact congrArg Except.ok (SavedReport.toDefinition_eq h.settled)

theorem earlier_drawn : Warehouse.earlier.definition.drawn = Warehouse.earlier.definition := by
  decide +kernel

theorem earlier_linesEndBetween :
    Json.LinesEndBetween .between (Warehouse.earlier.definition.shown terminal.width) := by
  refine Definition.linesEndBetween_of_narrow (by decide) ?_
  rw [earlier_drawn]
  decide +kernel

/-- A report whose lines are narrow is read back. -/
theorem earlier_reads_back : 2 ≤ terminal.width ∧
    Request.ofWords ["show", "earlier", "--db", "reports.db"] =
      .ok (.command (.display "earlier" (some "reports.db"))) ∧
    (worldWith Warehouse.earlier).open ⟨some "reports.db", none⟩ = .ok (openedWith Warehouse.earlier) ∧
    (⟨(openedWith Warehouse.earlier).warehouse, (worldWith Warehouse.earlier).issuer⟩ :
      Reports Warehouse).load "earlier" = .ok Warehouse.earlier.definition ∧
    ∃ scene, runWords terminal (worldWith Warehouse.earlier) ["show", "earlier", "--db", "reports.db"] =
        (scene, .exit 0) ∧
      ∀ (files : Files) (path : Path) (place : List String), path.suffix = ".json" →
        files.find? path = some (.file place (String.ofList scene.output)) →
          Document.loadDefinition files path = .ok Warehouse.earlier.definition := by
  have hwords : Request.ofWords ["show", "earlier", "--db", "reports.db"] =
      .ok (.command (.display "earlier" (some "reports.db"))) := rfl
  have hopen := open_worldWith Warehouse.earlier
  have hload := load_openedWith (Warehouse.archive_isOrderly.keepable _ (List.mem_singleton_self _))
  have hwidth : 2 ≤ terminal.width := by decide
  obtain ⟨scene, hrun, -, hread⟩ := shown_reads_back_iff hwidth hwords hopen hload
  exact ⟨hwidth, hwords, hopen, hload, scene, hrun, fun files path place hsuffix hfile =>
    (hread files path place hsuffix hfile).2 ⟨earlier_drawn, earlier_linesEndBetween⟩⟩

def wordy : SavedReport :=
  { Warehouse.earlier with
    id := "wordy"
    definition.name := "Companies with open invoices older than ninety days by their account owner" }

theorem wordy_not_linesEndBetween :
    ¬ Json.LinesEndBetween .between (wordy.definition.shown terminal.width) := by
  rw [Definition.shown_eq, Definition.toJson, Json.render, String.toList_ofList]
  decide +kernel

/-- A name that a line has no room for is broken, and then the text is no JSON. -/
theorem wordy_broken : (⟨(openedWith wordy).warehouse, (worldWith wordy).issuer⟩ :
      Reports Warehouse).load "wordy" = .ok wordy.definition ∧
    ∃ scene, runWords terminal (worldWith wordy) ["show", "wordy", "--db", "reports.db"] = (scene, .exit 0) ∧
      Document.loadDefinition { entries := [(["shown.json"], String.ofList scene.output)] }
        ⟨"", ["shown.json"]⟩ ≠ .ok wordy.definition := by
  have hkeepable : wordy.IsKeepable := by
    refine ⟨?_, rfl⟩
    intro s hs
    cases hs
  have hload := load_openedWith hkeepable
  have hwords : Request.ofWords ["show", "wordy", "--db", "reports.db"] =
      .ok (.command (.display "wordy" (some "reports.db"))) := rfl
  have hfile (text : String) : ({ entries := [(["shown.json"], text)] } : Files).find? ⟨"", ["shown.json"]⟩ =
      some (.file ["shown.json"] text) := rfl
  have hsuffix : (⟨"", ["shown.json"]⟩ : Path).suffix = ".json" := by decide
  have hwidth : 2 ≤ terminal.width := by decide
  obtain ⟨after, hrun⟩ := runWords_display terminal hwords (open_worldWith wordy) hload
  refine ⟨hload, _, hrun, fun hread => wordy_not_linesEndBetween ?_⟩
  have hiff := Definition.loadDefinition_shown_iff hwidth (isSettled_of_load hload) hsuffix
    (hfile (String.ofList (wordy.definition.shown terminal.width)))
  exact (hiff.1 hread).2

end Command

end Rollup
