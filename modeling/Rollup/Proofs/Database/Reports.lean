import Rollup.Proofs.Reports
import Rollup.Warehouse

/-!
# Saved reports in a table as a map

As long as the rows of the table of saved reports are those of some reports (`Database.reportsOf`), the
four operations on the table are those on the reports: a row with the id of another replaces it, and what
is read of a row is its report again, since the JSON text of a settled definition is read as that
definition. So an open warehouse is a lawful keeper, and what requests leave in it is a map
(`Warehouse.savedReports_isMap`).
-/

namespace Rollup

namespace Database
variable {db : Database} {rs : List SavedReport} {r : SavedReport}

theorem find?_put (db : Database) (t : Table) : (db.put t).find? t.name = some t := by
  have hself : sameName t.name t.name := beq_self_eq_true _
  have hput (tables : List Table) :
      (putTable t tables).find? (fun u => sameName u.name t.name) = some t := by
    induction tables with
    | nil => exact List.find?_cons_of_pos hself
    | cons u tables ih =>
      unfold putTable
      split_ifs with hu
      · exact List.find?_cons_of_pos hself
      · simp [hu, ih]
  exact hput db.tables

/-! ## The rows of reports -/

/-- The table of saved reports with the rows of some. -/
def reportsOf (rs : List SavedReport) : Table := { emptyReports with rows := rs.map reportRow }

/-- What is read of the row of a report. -/
def readRow (r : SavedReport) : Row :=
  [("id", .text r.id), ("definition", .text (r.definition.toJson .compact)),
   ("created_at", .timestamp r.createdAt)]

theorem get_reports (h : db.find? reportsTable = some (reportsOf rs)) :
    db.get reportsTable = .ok (reportsOf rs) := by
  rw [get, h]
  rfl

/-- The row of a report fits the columns as it is. -/
theorem castRow_reportRow (h : r.createdAt.offset? = none) :
    Table.castRow emptyReports.columns (reportRow r) = .ok (reportRow r) := by
  have htime : Cast.toTimestamp? (.timestamp r.createdAt) = some (.timestamp r.createdAt) := by
    rw [Cast.toTimestamp?, h]
    rfl
  simp only [emptyReports, reportRow, Table.castRow, Cast.convert, Cast.convert?, Cast.text, Cast.textChars,
    String.ofList_toList, htime, Value.isNull]
  rfl

theorem replaceRow_reportRow (r : SavedReport) (rs : List SavedReport) :
    Table.replaceRow (reportRow r) (rs.map reportRow) = (Shelf.put r rs).map reportRow := by
  have hkey (s : SavedReport) : Table.keyOf (reportRow s) = some s.id := rfl
  induction rs with
  | nil => rfl
  | cons s rs ih =>
    rw [List.map_cons, Table.replaceRow, Shelf.put, ih]
    simp only [hkey, Option.some.injEq]
    split_ifs <;> rfl

theorem insertReport_eq (h : db.find? reportsTable = some (reportsOf rs)) (hr : r.IsKeepable) :
    db.insertReport r = .ok (db.put (reportsOf (Shelf.put r rs))) := by
  have hinsert : (reportsOf rs).insertOrReplace (reportRow r) = .ok (reportsOf (Shelf.put r rs)) := by
    have hcast : Table.castRow (reportsOf rs).columns (reportRow r) = .ok (reportRow r) :=
      castRow_reportRow hr.offset
    rw [Table.insertOrReplace, hcast, reportsOf, reportsOf, ← replaceRow_reportRow]
    rfl
  rw [insertReport, get_reports h]
  show KeeperError.ofDatabase (do return db.put (← (reportsOf rs).insertOrReplace (reportRow r))) = _
  rw [hinsert]
  rfl

theorem removeReport_eq (h : db.find? reportsTable = some (reportsOf rs)) (id : String) :
    db.removeReport id = .ok (db.put (reportsOf (rs.filter fun r => r.id ≠ id))) := by
  have hid : (reportsOf rs).indexOf? "id" = some 0 := by
    show emptyReports.indexOf? "id" = some 0
    decide
  have hkey (r : SavedReport) :
      (((reportsOf rs).cell? "id" (reportRow r)).bind fun v => Table.keyOf [v]) = some r.id := by
    rw [Table.cell?, hid]
    rfl
  have hrows : ((reportsOf rs).rows.filter fun row =>
      (((reportsOf rs).cell? "id" row).bind fun v => Table.keyOf [v]) ≠ some id) =
        (rs.filter fun r => r.id ≠ id).map reportRow := by
    simp only [reportsOf, List.filter_map] at hkey ⊢
    simp only [Function.comp_def, hkey, ne_eq, Option.some.injEq]
  rw [removeReport, get_reports h]
  show Except.ok (db.put { reportsOf rs with rows := (reportsOf rs).rows.filter _ }) = _
  rw [hrows]
  rfl

/-! ## Reading rows -/

theorem select_readColumns (h : db.find? reportsTable = some (reportsOf rs)) :
    db.select none readColumns = .ok (rs.map readRow) := by
  have hcheck : Sql.Select.checkColumns (reportsOf rs) readColumns.reads = .ok () := by
    rfl
  have hproject (r : SavedReport) :
      readColumns.project (reportsOf rs) (reportRow r) = .ok (readRow r) := by
    rfl
  have hrows (some : List SavedReport) :
      readColumns.rowsOf (reportsOf rs) (some.map reportRow) = .ok (some.map readRow) := by
    induction some with
    | nil => rfl
    | cons r some ih =>
      rw [List.map_cons, Sql.Select.rowsOf, hproject, ih]
      rfl
  have hrun : readColumns.run (reportsOf rs) = .ok (rs.map readRow) := by
    rw [Sql.Select.run, hcheck]
    exact hrows rs
  have hget : db.get readColumns.table = .ok (reportsOf rs) := get_reports h
  rw [select]
  simp only [hget, hrun, bind, Except.bind, pure, Except.pure]

theorem reportOfRow_eq_ok {row : Row} {text : String} {fields : List (String × Value)}
    (htext : row.get "definition" = .text text) (hparse : Json.parse text = .ok (.record fields))
    (hcheck : SavedReport.check (.record (("id", row.get "id") :: ("created_at", row.get "created_at") ::
      fields.filter fun (key, _) => key ≠ "id" && key ≠ "created_at")) = .ok r) :
    reportOfRow row = .ok r := by
  rw [reportOfRow, htext]
  simp only [hparse, hcheck]
  rfl

/-- What is read of the row of a report is the report. -/
theorem reportOfRow_readRow (h : r.IsKeepable) : reportOfRow (readRow r) = .ok r := by
  have hparse : Json.parse (r.definition.toJson .compact) = .ok (.record r.definition.toFields) :=
    Json.parse_render Json.Layout.compact_isPlain r.definition.plain_toValue
  -- No field of a definition has the name of one that comes from the row itself.
  have hfields : (r.definition.toFields.filter fun (key, _) => key ≠ "id" && key ≠ "created_at") =
      r.definition.toFields := by
    have hkeys : ∀ key ∈ r.definition.toFields.map (·.1), key ≠ "id" && key ≠ "created_at" := by
      rw [Definition.keys_toFields]
      decide
    exact List.filter_eq_self.2 (List.forall_mem_map.1 hkeys)
  have hfront : ∀ key ∈ r.definition.toFields.map (·.1),
      key ∉ [("id", Value.text r.id), ("created_at", .timestamp r.createdAt)].map (·.1) := by
    rw [Definition.keys_toFields]
    show ∀ key ∈ _, key ∉ ["id", "created_at"]
    decide
  have hdefinition : Definition.checkFields (("id", .text r.id) ::
      ("created_at", .timestamp r.createdAt) :: r.definition.toFields) = .ok r.definition :=
    (r.definition.checkFields_append hfront).trans
      (congrArg Except.ok (Definition.settled_eq_self h.settled))
  have hcheck : SavedReport.check (.record (("id", .text r.id) ::
      ("created_at", .timestamp r.createdAt) :: r.definition.toFields)) = .ok r := by
    rw [SavedReport.check, Checked.model, hdefinition]
    rfl
  refine reportOfRow_eq_ok rfl hparse ?_
  rw [hfields]
  exact hcheck

theorem readReports_eq (h : db.find? reportsTable = some (reportsOf rs))
    (hrs : ∀ r ∈ rs, r.IsKeepable) : db.readReports = .ok rs := by
  have hread : (rs.map readRow).mapM reportOfRow = .ok rs := by
    clear h
    induction rs with
    | nil => rfl
    | cons r rs ih =>
      obtain ⟨hr, hrs⟩ := List.forall_mem_cons.1 hrs
      rw [List.map_cons, List.mapM_cons, reportOfRow_readRow hr, ih hrs]
      rfl
  rw [readReports, select_readColumns h]
  exact hread

theorem findReport?_eq (h : db.find? reportsTable = some (reportsOf rs))
    (hrs : ∀ r ∈ rs, r.IsKeepable) (id : String) :
    db.findReport? id = .ok (rs.find? fun r => r.id == id) := by
  have hfind : (rs.map readRow).find? (fun row => Table.keyOf [row.get "id"] = some id) =
      (rs.find? fun r => r.id == id).map readRow := by
    have hkey (r : SavedReport) : Table.keyOf [(readRow r).get "id"] = some r.id := rfl
    rw [List.find?_map]
    simp only [Function.comp_def, hkey, Option.some.injEq, beq_eq_decide]
  rw [findReport?, select_readColumns h]
  simp only [KeeperError.ofDatabase, bind, Except.bind, hfind]
  cases hr : rs.find? fun r => r.id == id with
  | none => rfl
  | some r =>
    simp only [Option.map_some, reportOfRow_readRow (hrs r (List.mem_of_find?_eq_some hr))]
    rfl

theorem pairwise_mergeSort (rs : List SavedReport) :
    (rs.mergeSort comesFirst).Pairwise fun a b => b.createdAt.instant ≤ a.createdAt.instant := by
  have hcomesFirst (a b : SavedReport) : comesFirst a b ↔
      b.createdAt.instant < a.createdAt.instant ∨
        a.createdAt.instant = b.createdAt.instant ∧ a.id ≤ b.id := by
    unfold comesFirst
    split_ifs with heq
    · simp [heq]
    · simp only [decide_eq_true_eq, heq, false_and, or_false]
      omega
  have htrans (a b c : SavedReport) (hab : comesFirst a b) (hbc : comesFirst b c) :
      comesFirst a c := by
    rw [hcomesFirst] at hab hbc ⊢
    rcases hab with hab | ⟨hab, hids⟩
    · left
      omega
    · rcases hbc with hbc | ⟨hbc, hids'⟩
      · left
        omega
      · exact .inr ⟨hab.trans hbc, String.le_trans hids hids'⟩
  have htotal (a b : SavedReport) : comesFirst a b || comesFirst b a := by
    rw [Bool.or_eq_true, hcomesFirst, hcomesFirst]
    rcases lt_trichotomy a.createdAt.instant b.createdAt.instant with hlt | heq | hlt
    · exact .inr (.inl hlt)
    · exact (String.le_total a.id b.id).imp (fun h => .inr ⟨heq, h⟩) fun h => .inr ⟨heq.symm, h⟩
    · exact .inl (.inl hlt)
  refine (List.pairwise_mergeSort htrans htotal rs).imp fun hab => ?_
  rcases (hcomesFirst _ _).1 hab with hlt | ⟨heq, -⟩
  · exact hlt.le
  · exact heq.ge

end Database

namespace Warehouse

theorem whileOpen_eq {w : Warehouse} (h : w.closed = false) {α : Type}
    (f : Database → Except Database.KeeperError α) : w.whileOpen f = f w.database :=
  if_neg (by simp [h])

end Warehouse

instance : LawfulKeeper Warehouse where
  Holds w rs := w.closed = false ∧ w.database.find? Database.reportsTable = some (Database.reportsOf rs) ∧
    Shelf.IsOrderly rs
  orderly h := h.2.2
  insert := by
    rintro w rs r ⟨hopen, hrows, h⟩ hr
    refine ⟨{ w with database := w.database.put (Database.reportsOf (Shelf.put r rs)) }, ?_, hopen,
      Database.find?_put _ _, h.put hr⟩
    show w.whileOpen _ = _
    rw [Warehouse.whileOpen_eq hopen, Database.insertReport_eq hrows hr]
    rfl
  all := by
    rintro w rs ⟨hopen, hrows, h⟩
    refine ⟨rs.mergeSort Database.comesFirst, ?_, List.mergeSort_perm _ _, Database.pairwise_mergeSort rs⟩
    show w.whileOpen _ = _
    rw [Warehouse.whileOpen_eq hopen, Database.allReports, Database.readReports_eq hrows h.keepable]
    rfl
  find? := by
    rintro w rs id ⟨hopen, hrows, h⟩
    show w.whileOpen _ = _
    rw [Warehouse.whileOpen_eq hopen, Database.findReport?_eq hrows h.keepable]
  remove := by
    rintro w rs id ⟨hopen, hrows, h⟩
    refine ⟨{ w with database := w.database.put (Database.reportsOf (rs.filter fun r => r.id ≠ id)) },
      ?_, hopen, Database.find?_put _ _, h.remove id⟩
    show w.whileOpen _ = _
    rw [Warehouse.whileOpen_eq hopen, Database.removeReport_eq hrows]
    rfl

namespace Warehouse

/-- Saved reports in a database are a map, whatever requests they have served. The database may have held
some before. -/
theorem savedReports_isMap (registry : Registry) {db : Database} {rs : List SavedReport} {issuer : Issuer}
    (hrows : db.ensureReports.find? Database.reportsTable = some (Database.reportsOf rs))
    (hrs : Shelf.IsOrderly rs) (hissuer : ∀ n, (issuer.time n).offset? = none)
    {requests : List ReportRequest} (hrequests : ∀ request ∈ requests, request.IsChecked) :
    ((⟨ofDatabase registry db, issuer⟩ : Reports Warehouse).serveAll requests).1.IsMap
      (lastSaved (((⟨ofDatabase registry db, issuer⟩ : Reports Warehouse).serveAll requests).2 ++
        rs.map .saved)) := by
  have hkeeper : LawfulKeeper.Holds (ofDatabase registry db) rs := ⟨rfl, hrows, hrs⟩
  exact Reports.serveAll_isMap hkeeper hissuer hrequests

/-! ### A run on a database with a report

Two reports are added, one is saved again under the id of the other, and some requests fail. -/

def survey : Definition := { entity := "companies", columns := ["name"], name := " Survey " }

def count : Definition := { entity := "contacts", columns := ["name"], name := "Count" }

def minutely : Issuer := .counting ⟨⟨2024, 1, 1⟩, 0, 0, 0, 0, none⟩ 60

def earlier : SavedReport :=
  ⟨{ count with name := "Earlier" }, "earlier", ⟨⟨2023, 12, 31⟩, 0, 0, 0, 0, none⟩⟩

def archive : Database := { tables := [Database.reportsOf [earlier]] }

def script : List ReportRequest :=
  [.save survey none, .save count (some "count"), .save { survey with name := " " } none, .list,
   .resave ⟨count, "count", minutely.time 1⟩ (some "id-1"), .executeSaved "id-1", .delete "absent"]

def afterScript : Reports Warehouse × List Change :=
  (⟨ofDatabase .default archive, minutely⟩ : Reports Warehouse).serveAll script

theorem archive_isOrderly : Shelf.IsOrderly [earlier] := by
  refine ⟨List.nodup_singleton _, List.forall_mem_singleton.2 ⟨?_, rfl⟩⟩
  intro s hs
  cases hs

theorem script_isChecked : ∀ request ∈ script, request.IsChecked := by
  have hchecked (d : Definition) (h : d.groupBy? = none) : ∃ v, Definition.check v = .ok d := by
    have hsettled : d.IsSettled := by
      intro s hs
      rw [h] at hs
      cases hs
    exact ⟨d.toValue, hsettled.check_toValue⟩
  simp only [script, List.forall_mem_cons, ReportRequest.IsChecked]
  exact ⟨hchecked _ rfl, hchecked _ rfl, hchecked _ rfl, trivial, trivial, trivial, trivial,
    List.forall_mem_nil _⟩

theorem script_isMap :
    archive.ensureReports.find? Database.reportsTable = some (Database.reportsOf [earlier]) ∧
    Shelf.IsOrderly [earlier] ∧ (∀ n, (minutely.time n).offset? = none) ∧
    (∀ request ∈ script, request.IsChecked) ∧
    afterScript.1.IsMap (lastSaved (afterScript.2 ++ [.saved earlier])) ∧
    afterScript.1.load "id-1" = .ok count ∧
    (afterScript.1.delete "earlier").1.get "earlier" = .error (.report (.reportNotFound "earlier")) := by
  have hrows : archive.ensureReports.find? Database.reportsTable = some (Database.reportsOf [earlier]) :=
    rfl
  have htime (n : Nat) : (minutely.time n).offset? = none := rfl
  have hmap : afterScript.1.IsMap (lastSaved (afterScript.2 ++ [.saved earlier])) :=
    savedReports_isMap .default hrows archive_isOrderly htime script_isChecked
  have hlast : lastSaved (afterScript.2 ++ [.saved earlier]) "id-1" =
      some ⟨count, "id-1", minutely.time 2⟩ := by decide +kernel
  have hpresent : (lastSaved (afterScript.2 ++ [.saved earlier]) "earlier").isSome := by decide +kernel
  have hload := hmap.load "id-1"
  rw [hlast] at hload
  exact ⟨hrows, archive_isOrderly, htime, script_isChecked, hmap, hload,
    (hmap.delete "earlier" hpresent).2 "earlier"⟩

end Warehouse

end Rollup
