import Rollup.Proofs.Calls
import Rollup.Proofs.Definition
import Rollup.Reports

/-!
# Saved reports as a map

Saved reports are a map from ids to definitions (`Reports.IsMap`), in which the last saving under an id
counts until the id is removed (`lastSaved`). Any keeper that does what its four operations say
(`LawfulKeeper`) makes them one, whatever requests it has served before (`Reports.serveAll_isMap`).
-/

namespace Rollup

/-! ## What is on record -/

inductive Change
  | saved (r : SavedReport)
  | removed (id : String)

/-- The report that was last saved under an id and has not been removed since. The last change comes
first. -/
def lastSaved (changes : List Change) (id : String) : Option SavedReport :=
  match changes with
  | [] => none
  | .saved r :: earlier => if r.id = id then some r else lastSaved earlier id
  | .removed other :: earlier => if other = id then none else lastSaved earlier id

theorem lastSaved_map_saved (rs : List SavedReport) (id : String) :
    lastSaved (rs.map .saved) id = rs.find? fun r => r.id == id := by
  induction rs with
  | nil => rfl
  | cons r rs ih => by_cases h : r.id = id <;> simp [lastSaved, h, ih]

/-- A report that can be kept and read again as it is: settled, with a time in universal time. -/
structure SavedReport.IsKeepable (r : SavedReport) : Prop where
  settled : r.definition.IsSettled
  offset : r.createdAt.offset? = none

structure Shelf.IsOrderly (rs : List SavedReport) : Prop where
  nodup : (rs.map (·.id)).Nodup
  keepable : ∀ r ∈ rs, r.IsKeepable

/-- A keeper that does what its operations say. -/
class LawfulKeeper (σ : Type) {ε : outParam Type} [ReportKeeper σ ε] where
  Holds : σ → List SavedReport → Prop
  orderly {s : σ} {rs : List SavedReport} : Holds s rs → Shelf.IsOrderly rs
  insert {s : σ} {rs : List SavedReport} {r : SavedReport} : Holds s rs → r.IsKeepable →
    ∃ s', ReportKeeper.insert s r = .ok s' ∧ Holds s' (Shelf.put r rs)
  all {s : σ} {rs : List SavedReport} : Holds s rs → ∃ listed, ReportKeeper.all s = .ok listed ∧
    listed.Perm rs ∧ listed.Pairwise fun a b => b.createdAt.instant ≤ a.createdAt.instant
  find? {s : σ} {rs : List SavedReport} (id : String) : Holds s rs →
    ReportKeeper.find? s id = .ok (rs.find? fun r => r.id == id)
  remove {s : σ} {rs : List SavedReport} (id : String) : Holds s rs →
    ∃ s', ReportKeeper.remove s id = .ok s' ∧ Holds s' (rs.filter fun r => r.id ≠ id)

namespace Shelf
variable {r : SavedReport} {rs : List SavedReport}

theorem find?_put (id : String) : (put r rs).find? (fun r => r.id == id) =
    if r.id = id then some r else rs.find? fun r => r.id == id := by
  induction rs with
  | nil => by_cases h : r.id = id <;> simp [put, h]
  | cons s rs ih =>
    unfold put
    by_cases hs : s.id = r.id
    · by_cases h : r.id = id
      · simp [hs, h]
      · simp [hs, h]
    · by_cases h : s.id = id
      · have hr : r.id ≠ id := fun heq => hs (h.trans heq.symm)
        simp [h, Ne.symm hr, hr]
      · simp [hs, h, ih]

theorem find?_remove (id other : String) :
    (rs.filter fun r => r.id ≠ id).find? (fun r => r.id == other) =
      if id = other then none else rs.find? fun r => r.id == other := by
  rw [List.find?_filter]
  split_ifs with h
  · subst h
    simp
  · refine congrArg (rs.find? ·) (funext fun r => ?_)
    by_cases hr : r.id = other
    · simp [hr, Ne.symm h]
    · simp [hr]

theorem mem_put {s : SavedReport} (h : s ∈ put r rs) : s = r ∨ s ∈ rs := by
  induction rs with
  | nil => exact .inl (List.mem_singleton.1 h)
  | cons t rs ih =>
    unfold put at h
    split_ifs at h
    · exact (List.mem_cons.1 h).imp_right (List.mem_cons_of_mem t)
    · rcases List.mem_cons.1 h with rfl | h
      · exact .inr List.mem_cons_self
      · exact (ih h).imp_right (List.mem_cons_of_mem t)

theorem nodup_put (h : (rs.map (·.id)).Nodup) : ((put r rs).map (·.id)).Nodup := by
  induction rs with
  | nil => exact List.nodup_singleton r.id
  | cons s rs ih =>
    simp only [List.map_cons, List.nodup_cons] at h
    obtain ⟨hs, hrs⟩ := h
    unfold put
    split_ifs with hid
    · rw [List.map_cons, List.nodup_cons, ← hid]
      exact ⟨hs, hrs⟩
    · rw [List.map_cons, List.nodup_cons]
      refine ⟨fun hmem => ?_, ih hrs⟩
      obtain ⟨t, ht, hts⟩ := List.mem_map.1 hmem
      rcases mem_put ht with rfl | ht
      · exact hid hts.symm
      · exact hs (List.mem_map.2 ⟨t, ht, hts⟩)

theorem IsOrderly.put (h : IsOrderly rs) (hr : r.IsKeepable) : IsOrderly (Shelf.put r rs) := by
  refine ⟨nodup_put h.nodup, fun s hs => ?_⟩
  rcases mem_put hs with rfl | hs
  · exact hr
  · exact h.keepable s hs

theorem IsOrderly.remove (h : IsOrderly rs) (id : String) :
    IsOrderly (rs.filter fun r => r.id ≠ id) :=
  ⟨h.nodup.sublist (List.filter_sublist.map _), fun r hr => h.keepable r (List.mem_of_mem_filter hr)⟩

/-- Where ids are distinct, the reports are those that are found under their ids. -/
theorem mem_iff_find? (h : (rs.map (·.id)).Nodup) :
    r ∈ rs ↔ rs.find? (fun s => s.id == r.id) = some r := by
  exact ⟨fun hr => find?_eq_some_of_nodup h hr, List.mem_of_find?_eq_some⟩

end Shelf

/-! ## Serving requests -/

inductive ReportRequest
  | save (d : Definition) (id? : Option String)
  /-- Saves a report that was saved before. -/
  | resave (r : SavedReport) (id? : Option String)
  | load (id : String)
  | list
  | delete (id : String)
  | executeSaved (id : String)

/-- The definition that a request brings along, if it does, is one that was read from some value. -/
def ReportRequest.IsChecked : ReportRequest → Prop
  | save d _ => ∃ v, Definition.check v = .ok d
  | _ => True

/-- What an operation left, and what it changed if it succeeded. -/
def Change.ofOutcome {ρ ε α : Type} (change : α → Change) : ρ × Except ε α → ρ × Option Change
  | (reports, .ok a) => (reports, some (change a))
  | (reports, .error _) => (reports, none)

namespace Reports
variable {σ ε : Type} [ReportKeeper σ ε]

/-- Serves a request: the reports afterwards, and what was changed. -/
def serve (reports : Reports σ) : ReportRequest → Reports σ × Option Change
  | .save d id? => Change.ofOutcome .saved (reports.save d id?)
  | .resave r id? => Change.ofOutcome .saved (reports.resave r id?)
  | .delete id => Change.ofOutcome (fun _ => .removed id) (reports.delete id)
  | .load _ | .list | .executeSaved _ => (reports, none)

/-- Serves a request after others, whose changes are known, the last one first. -/
def serveNext (state : Reports σ × List Change) (request : ReportRequest) : Reports σ × List Change :=
  ((state.1.serve request).1, (state.1.serve request).2.toList ++ state.2)

/-- Serves requests one after another: the reports afterwards and all changes, the last one first. -/
def serveAll (reports : Reports σ) (requests : List ReportRequest) : Reports σ × List Change :=
  requests.foldl serveNext (reports, [])

/-- Saved reports are a map whose entries are the reports on record. -/
structure IsMap (reports : Reports σ) (onRecord : String → Option SavedReport) : Prop where
  get (id : String) : reports.get id = match onRecord id with
    | some r => .ok r
    | none => .error (.report (.reportNotFound id))
  load (id : String) : reports.load id = match onRecord id with
    | some r => .ok r.definition
    | none => .error (.report (.reportNotFound id))
  /-- Every report on record is listed once, the newest first. -/
  list : ∃ listed, reports.list = .ok listed ∧ (listed.map (·.id)).Nodup ∧
    (∀ r, r ∈ listed ↔ onRecord r.id = some r) ∧
    listed.Pairwise fun a b => b.createdAt.instant ≤ a.createdAt.instant
  missingName (d : Definition) (id? : Option String) : Text.isBlank d.name →
    reports.save d id? = (reports, .error (.report .missingName))
  /-- Saving under an id, that given or else a new one, replaces what is there and nothing else. -/
  save (d : Definition) (id? : Option String) : d.IsSettled → Text.isBlank d.name = false →
    ∃ r, (reports.save d id?).2 = .ok r ∧ r.definition = { d with name := Text.trim d.name } ∧
      (∀ id, id? = some id → id ≠ "" → r.id = id) ∧
      (id?.getD "" = "" → r.id = reports.issuer.id reports.issuer.issuedIds) ∧
      r.createdAt = reports.issuer.time reports.issuer.savings ∧
      ∀ other, (reports.save d id?).1.get other = if other = r.id then .ok r else reports.get other
  /-- Of a report only its definition is saved. -/
  resave (r : SavedReport) (id? : Option String) : r.definition.IsSettled →
    reports.resave r id? = reports.save r.definition id?
  notFound (id : String) : onRecord id = none →
    reports.delete id = (reports, .error (.report (.reportNotFound id)))
  delete (id : String) : (onRecord id).isSome →
    (reports.delete id).2 = .ok () ∧ ∀ other, (reports.delete id).1.get other =
      if other = id then .error (.report (.reportNotFound id)) else reports.get other
  execute (engine : Engine) (id : String) : engine.executeSaved reports id = match onRecord id with
    | some r => .ok (engine.execute (.checked r.definition))
    | none => .error (.report (.reportNotFound id))
  /-- What is executed is what was saved, although the name of a saved definition is trimmed. -/
  executeSaved (engine : Engine) (d : Definition) (id? : Option String) (r : SavedReport) :
    d.IsSettled → (reports.save d id?).2 = .ok r →
      engine.executeSaved (reports.save d id?).1 r.id = .ok (engine.execute (.checked d))

/-- What reports hold is what the changes so far left on record, and times to come are universal. -/
structure Records [LawfulKeeper σ] (reports : Reports σ) (changes : List Change) : Prop where
  holds : ∃ rs, LawfulKeeper.Holds reports.keeper rs ∧
    ∀ id, rs.find? (fun r => r.id == id) = lastSaved changes id
  offset (n : Nat) : (reports.issuer.time n).offset? = none

end Reports

namespace Issuer
variable {issuer : Issuer} {d : Definition} {id? : Option String}

theorem issue_eq (issuer : Issuer) (d : Definition) (id? : Option String) : ∃ id issuedIds,
    issuer.issue d id? = (⟨d, id, issuer.time issuer.savings⟩,
      { issuer with issuedIds, savings := issuer.savings + 1 }) := by
  unfold issue
  split
  · split_ifs <;> exact ⟨_, _, rfl⟩
  · exact ⟨_, _, rfl⟩

theorem issue_definition : (issuer.issue d id?).1.definition = d := by
  obtain ⟨id, issuedIds, h⟩ := issuer.issue_eq d id?
  rw [h]

theorem issue_createdAt : (issuer.issue d id?).1.createdAt = issuer.time issuer.savings := by
  obtain ⟨id, issuedIds, h⟩ := issuer.issue_eq d id?
  rw [h]

theorem issue_time : (issuer.issue d id?).2.time = issuer.time := by
  obtain ⟨id, issuedIds, h⟩ := issuer.issue_eq d id?
  rw [h]

theorem issue_id (id : String) (h : id ≠ "") : (issuer.issue d (some id)).1.id = id := by
  rw [issue, if_pos h]

theorem issue_new_id (h : id?.getD "" = "") :
    (issuer.issue d id?).1.id = issuer.id issuer.issuedIds := by
  cases id? with
  | none => rfl
  | some id =>
    obtain rfl : id = "" := h
    rfl

end Issuer

theorem SavedReport.isSettled_toDefinition (r : SavedReport) : r.toDefinition.IsSettled := by
  intro s hs
  simpa using (Option.filter_eq_some_iff.1 hs).2

theorem SavedReport.toDefinition_eq {r : SavedReport} (h : r.definition.IsSettled) :
    r.toDefinition = r.definition := Definition.settled_eq_self h

theorem Plan.make_rename (supported : List Operator) (d : Definition) (name : String)
    (catalog : Catalog) : make supported { d with name } catalog =
      (make supported d catalog).map fun p => { p with definition := { p.definition with name } } := by
  have hcolumns : { d with name }.splitColumns catalog = d.splitColumns catalog := rfl
  have hgrouping : { d with name }.resolveGrouping catalog = d.resolveGrouping catalog := rfl
  unfold make
  rw [hcolumns, hgrouping]
  cases d.splitColumns catalog with
  | error e => rfl
  | ok split => cases d.resolveGrouping catalog <;> rfl

/-- The name of a definition does not matter to its execution. -/
theorem Engine.execute_rename (engine : Engine) (d : Definition) (name : String) :
    engine.execute (.checked { d with name }) = engine.execute (.checked d) := by
  have hrenamed := @Draft.validate_of_definition? (.checked { d with name }) { d with name } rfl
  have hchecked := @Draft.validate_of_definition? (.checked d) d rfl
  by_cases hentity : Text.isBlank d.entity
  · rw [if_pos hentity] at hrenamed hchecked
    rw [execute_eq_of_validate hrenamed, execute_eq_of_validate hchecked]
  · rw [if_neg hentity] at hrenamed hchecked
    by_cases hcolumns : d.columns.isEmpty
    · rw [if_pos hcolumns] at hrenamed hchecked
      rw [execute_eq_of_validate hrenamed, execute_eq_of_validate hchecked]
    · rw [if_neg hcolumns] at hrenamed hchecked
      cases hcatalog : engine.resolve d.entity with
      | error e => rw [execute_eq_of_resolve hrenamed hcatalog, execute_eq_of_resolve hchecked hcatalog]
      | ok catalog =>
        -- A plan keeps the definition that it is for, but nothing after planning reads the name.
        rw [execute_eq hrenamed hcatalog, execute_eq hchecked hcatalog, Plan.make_rename]
        cases Plan.make engine.store.supported d catalog <;> rfl

namespace Reports
variable {σ ε : Type} [ReportKeeper σ ε] {reports : Reports σ} {changes : List Change}

theorem save_eq_missingName {d : Definition} (h : Text.isBlank d.name) (id? : Option String) :
    reports.save d id? = (reports, .error (.report .missingName)) := if_pos h

namespace Records
variable [LawfulKeeper σ]

theorem get_eq (h : Records reports changes) (id : String) :
    reports.get id = match lastSaved changes id with
      | some r => .ok r
      | none => .error (.report (.reportNotFound id)) := by
  obtain ⟨rs, hrs, hfind⟩ := h.holds
  rw [Reports.get, LawfulKeeper.find? id hrs, hfind]
  cases lastSaved changes id <;> rfl

theorem keepable (h : Records reports changes) {id : String} {r : SavedReport}
    (hr : lastSaved changes id = some r) : r.IsKeepable := by
  obtain ⟨rs, hrs, hfind⟩ := h.holds
  exact (LawfulKeeper.orderly hrs).keepable r (List.mem_of_find?_eq_some ((hfind id).trans hr))

theorem load_eq (h : Records reports changes) (id : String) :
    reports.load id = match lastSaved changes id with
      | some r => .ok r.definition
      | none => .error (.report (.reportNotFound id)) := by
  rw [Reports.load, h.get_eq]
  cases hr : lastSaved changes id with
  | none => rfl
  | some r => exact congrArg Except.ok (SavedReport.toDefinition_eq (h.keepable hr).settled)

theorem list_eq (h : Records reports changes) : ∃ listed, reports.list = .ok listed ∧
    (listed.map (·.id)).Nodup ∧ (∀ r, r ∈ listed ↔ lastSaved changes r.id = some r) ∧
    listed.Pairwise fun a b => b.createdAt.instant ≤ a.createdAt.instant := by
  obtain ⟨rs, hrs, hfind⟩ := h.holds
  obtain ⟨listed, hall, hperm, hsorted⟩ := LawfulKeeper.all hrs
  have hnodup := (LawfulKeeper.orderly hrs).nodup
  refine ⟨listed, ?_, (hperm.map (·.id)).nodup_iff.2 hnodup, fun r => ?_, hsorted⟩
  · rw [Reports.list, hall]
    rfl
  · rw [hperm.mem_iff, Shelf.mem_iff_find? hnodup, hfind]

/-- A definition with a name is saved as the report that it becomes. -/
theorem save_eq (h : Records reports changes) {d : Definition} (hd : d.IsSettled)
    (hname : Text.isBlank d.name = false) (id? : Option String) :
    ∃ reports', reports.save d id? =
        (reports', .ok (reports.issuer.issue { d with name := Text.trim d.name } id?).1) ∧
      Records reports'
        (.saved (reports.issuer.issue { d with name := Text.trim d.name } id?).1 :: changes) := by
  obtain ⟨rs, hrs, hfind⟩ := h.holds
  have hkeepable : (reports.issuer.issue { d with name := Text.trim d.name } id?).1.IsKeepable := by
    refine ⟨?_, ?_⟩
    · rw [Issuer.issue_definition]
      exact hd
    · rw [Issuer.issue_createdAt]
      exact h.offset _
  obtain ⟨keeper, hinsert, hkeeper⟩ := LawfulKeeper.insert hrs hkeepable
  refine ⟨⟨keeper, (reports.issuer.issue { d with name := Text.trim d.name } id?).2⟩, ?_, ?_, ?_⟩
  · rw [save, if_neg (by simp [hname])]
    simp only [hinsert]
  · refine ⟨_, hkeeper, fun id => ?_⟩
    rw [Shelf.find?_put, hfind]
    rfl
  · show ∀ n, (((reports.issuer.issue _ id?).2).time n).offset? = none
    rw [Issuer.issue_time]
    exact h.offset

theorem delete_eq_notFound (h : Records reports changes) {id : String}
    (hid : lastSaved changes id = none) :
    reports.delete id = (reports, .error (.report (.reportNotFound id))) := by
  have hget := h.get_eq id
  rw [hid] at hget
  rw [delete, hget]

theorem delete_eq (h : Records reports changes) {id : String} (hid : (lastSaved changes id).isSome) :
    ∃ reports', reports.delete id = (reports', .ok ()) ∧ Records reports' (.removed id :: changes) := by
  obtain ⟨r, hr⟩ := Option.isSome_iff_exists.1 hid
  obtain ⟨rs, hrs, hfind⟩ := h.holds
  obtain ⟨keeper, hremove, hkeeper⟩ := LawfulKeeper.remove id hrs
  have hget := h.get_eq id
  rw [hr] at hget
  refine ⟨{ reports with keeper }, ?_, ⟨_, hkeeper, fun other => ?_⟩, h.offset⟩
  · rw [delete, hget]
    simp only [hremove]
  · rw [Shelf.find?_remove, hfind]
    rfl

theorem executeSaved_eq (h : Records reports changes) (engine : Engine) (id : String) :
    engine.executeSaved reports id = match lastSaved changes id with
      | some r => .ok (engine.execute (.checked r.definition))
      | none => .error (.report (.reportNotFound id)) := by
  rw [Engine.executeSaved, h.load_eq]
  cases lastSaved changes id <;> rfl

theorem isMap (h : Records reports changes) : reports.IsMap (lastSaved changes) where
  get := h.get_eq
  load := h.load_eq
  list := h.list_eq
  missingName d id? hname := save_eq_missingName hname id?
  save d id? hd hname := by
    obtain ⟨reports', hsave, hrecords⟩ := h.save_eq hd hname id?
    refine ⟨_, congrArg Prod.snd hsave, Issuer.issue_definition, ?_, Issuer.issue_new_id,
      Issuer.issue_createdAt, fun other => ?_⟩
    · rintro id rfl hid
      exact Issuer.issue_id id hid
    · rw [hsave, hrecords.get_eq, h.get_eq, lastSaved]
      simp only [eq_comm (a := other)]
      split_ifs <;> rfl
  resave r id? hr := by rw [resave, SavedReport.toDefinition_eq hr]
  notFound id := h.delete_eq_notFound
  delete id hid := by
    obtain ⟨reports', hdelete, hrecords⟩ := h.delete_eq hid
    refine ⟨congrArg Prod.snd hdelete, fun other => ?_⟩
    rw [hdelete, hrecords.get_eq, h.get_eq, lastSaved]
    by_cases hother : id = other
    · simp [hother]
    · simp [hother, Ne.symm hother]
  execute := h.executeSaved_eq
  executeSaved engine d id? r hd hsaved := by
    cases hname : Text.isBlank d.name with
    | true =>
      rw [save_eq_missingName hname] at hsaved
      cases hsaved
    | false =>
      obtain ⟨reports', hsave, hrecords⟩ := h.save_eq hd hname id?
      rw [hsave] at hsaved ⊢
      obtain rfl := Except.ok.inj hsaved
      rw [hrecords.executeSaved_eq, lastSaved, if_pos rfl]
      simp only [Issuer.issue_definition, Engine.execute_rename]

theorem serve (h : Records reports changes) {request : ReportRequest} (hrequest : request.IsChecked) :
    Records (reports.serve request).1 ((reports.serve request).2.toList ++ changes) := by
  -- Saving again differs from saving only in where the definition comes from.
  have hsaving {d : Definition} (hd : d.IsSettled) (id? : Option String) :
      Records (Change.ofOutcome .saved (reports.save d id?)).1
        ((Change.ofOutcome .saved (reports.save d id?)).2.toList ++ changes) := by
    cases hname : Text.isBlank d.name with
    | true =>
      rw [save_eq_missingName hname]
      exact h
    | false =>
      obtain ⟨reports', hsave, hrecords⟩ := h.save_eq hd hname id?
      rw [hsave]
      exact hrecords
  cases request with
  | save d id? =>
    obtain ⟨v, hv⟩ := hrequest
    exact hsaving (Definition.isSettled_of_check hv) id?
  | resave r id? => exact hsaving r.isSettled_toDefinition id?
  | delete id =>
    cases hid : lastSaved changes id with
    | none =>
      rw [Reports.serve, h.delete_eq_notFound hid]
      exact h
    | some r =>
      obtain ⟨reports', hdelete, hrecords⟩ := h.delete_eq (Option.isSome_iff_exists.2 ⟨r, hid⟩)
      rw [Reports.serve, hdelete]
      exact hrecords
  | load _ | list | executeSaved _ => exact h

/-- Serving any number of requests keeps the record. -/
theorem serveAll (h : Records reports changes) {requests : List ReportRequest}
    (hrequests : ∀ request ∈ requests, request.IsChecked) :
    Records (reports.serveAll requests).1 ((reports.serveAll requests).2 ++ changes) := by
  -- The changes of the requests served so far stand in front of those that came before the run.
  have hfrom (state : Reports σ × List Change) (hstate : Records state.1 (state.2 ++ changes)) :
      Records (requests.foldl serveNext state).1 ((requests.foldl serveNext state).2 ++ changes) := by
    induction requests generalizing state with
    | nil => exact hstate
    | cons request requests ih =>
      obtain ⟨hrequest, hrequests⟩ := List.forall_mem_cons.1 hrequests
      refine ih hrequests _ ?_
      rw [serveNext, List.append_assoc]
      exact hstate.serve hrequest
  exact hfrom (reports, []) h

end Records

/-- Saved reports are a map, whatever requests they have served, if a lawful keeper keeps them. -/
theorem serveAll_isMap [LawfulKeeper σ] {keeper : σ} {issuer : Issuer} {rs : List SavedReport}
    (hkeeper : LawfulKeeper.Holds keeper rs) (hissuer : ∀ n, (issuer.time n).offset? = none)
    {requests : List ReportRequest} (hrequests : ∀ request ∈ requests, request.IsChecked) :
    ((⟨keeper, issuer⟩ : Reports σ).serveAll requests).1.IsMap
      (lastSaved (((⟨keeper, issuer⟩ : Reports σ).serveAll requests).2 ++ rs.map .saved)) := by
  have hstart : Records ⟨keeper, issuer⟩ (rs.map .saved) :=
    ⟨⟨rs, hkeeper, fun id => (lastSaved_map_saved rs id).symm⟩, hissuer⟩
  exact (hstart.serveAll hrequests).isMap

end Reports

/-! ## Reports in memory -/

theorem Shelf.pairwise_mergeSort (rs : List SavedReport) :
    (rs.mergeSort isNotOlder).Pairwise fun a b => b.createdAt.instant ≤ a.createdAt.instant := by
  have htrans (a b c : SavedReport) (hab : isNotOlder a b) (hbc : isNotOlder b c) : isNotOlder a c := by
    simp only [isNotOlder, decide_eq_true_eq] at hab hbc ⊢
    exact hbc.trans hab
  have htotal (a b : SavedReport) : isNotOlder a b || isNotOlder b a := by
    simpa [isNotOlder] using Int.le_total _ _
  exact (List.pairwise_mergeSort htrans htotal rs).imp fun hab => by simpa [isNotOlder] using hab

instance : LawfulKeeper Shelf where
  Holds shelf rs := shelf.reports = rs ∧ Shelf.IsOrderly rs
  orderly h := h.2
  insert := by
    rintro shelf _ r ⟨rfl, h⟩ hr
    exact ⟨_, rfl, rfl, h.put hr⟩
  all := by
    rintro shelf _ ⟨rfl, -⟩
    exact ⟨_, rfl, List.mergeSort_perm _ _, Shelf.pairwise_mergeSort shelf.reports⟩
  find? := by
    rintro shelf _ id ⟨rfl, -⟩
    rfl
  remove := by
    rintro shelf _ id ⟨rfl, h⟩
    exact ⟨_, rfl, rfl, h.remove id⟩

end Rollup
