import Rollup.Command
import Rollup.Proofs.Terminal.Escape

/-!
# Acts in a scene

What comes of an act in a scene, and the scene that it leaves. Each act has one lemma of this kind, from which
commands are followed step by step.
-/

namespace Rollup.Act

/-- What comes of an act in a scene, and the scene that it leaves. -/
def runIn {α : Type} (setting : Setting) (s : Scene) (a : Act α) : Except Stop α × Scene :=
  ((a.run setting).run).run s

variable {α β ε : Type} {setting : Setting} {s s' : Scene} {a : Act α} {x : α} {o : Opened} {r : Result}

/-! ## Steps -/

theorem runIn_bind (h : a.runIn setting s = (.ok x, s')) (f : α → Act β) :
    (a >>= f).runIn setting s = (f x).runIn setting s' := by
  have hrun : ((a.run setting).run).run s = (.ok x, s') := h
  simp only [runIn, ReaderT.run_bind, ExceptT.run_bind, StateT.run_bind, hrun]
  rfl

/-- Where an act breaks off, the next ones are left out. -/
theorem runIn_bind_error {stop : Stop} (h : a.runIn setting s = (.error stop, s')) (f : α → Act β) :
    (a >>= f).runIn setting s = (.error stop, s') := by
  have hrun : ((a.run setting).run).run s = (.error stop, s') := h
  simp only [runIn, ReaderT.run_bind, ExceptT.run_bind, StateT.run_bind, hrun]
  rfl

theorem runIn_get : (get : Act Scene).runIn setting s = (.ok s, s) := rfl

theorem runIn_modify (f : Scene → Scene) : (modify f : Act Unit).runIn setting s = (.ok (), f s) := rfl

theorem runIn_crash (e : Crash) : (crash e : Act α).runIn setting s = (.error (.crash e), s) := rfl

theorem runIn_orCrash (f : ε → Crash) (e : Except ε α) :
    (orCrash f e).runIn setting s = (e.mapError (.crash ∘ f), s) := by
  cases e <;> rfl

theorem runIn_write (cs : List Char) :
    (write cs).runIn setting s = (.ok (), { s with output := s.output ++ cs }) := rfl

theorem runIn_writePlain (overflow : Terminal.Overflow) (text : String) :
    let laidOut := Terminal.layOut setting.width overflow (Terminal.drawPictures 0 text.toList)
    (writePlain overflow text).runIn setting s = (.ok (), { s with output := s.output ++ laidOut }) := rfl

/-! ## Opening -/

/-- Opening a database changes nothing that is said, none of the files, and not how ids and times are
issued. -/
theorem runIn_openSource (setting : Setting) {source : Source} (h : s.world.open source = .ok o) :
    ∃ after, (openSource source).runIn setting s = (.ok o, { s with world := after }) ∧
      after.files = s.world.files ∧ after.issuer = s.world.issuer := by
  rw [openSource, runIn_bind runIn_get, h]
  cases hplace : o.place? with
  | none =>
    refine ⟨s.world, ?_, rfl, rfl⟩
    simp only [store, hplace]
    rfl
  | some place =>
    refine ⟨s.world.putDatabase place o.warehouse.database, ?_, rfl, rfl⟩
    simp only [store, hplace]
    rfl

theorem runIn_loadDefinition {path : Path} {d : Definition}
    (h : Document.loadDefinition s.world.files path = .ok d) :
    (loadDefinition path).runIn setting s = (.ok d, s) := by
  rw [loadDefinition, runIn_bind runIn_get, h]
  rfl

theorem runIn_reportsOf (o : Opened) :
    (reportsOf o).runIn setting s = (.ok ⟨o.warehouse, s.world.issuer⟩, s) := rfl

theorem runIn_orFail (x : α) : (orFail (.ok x)).runIn setting s = (.ok x, s) := rfl

/-! ## Remarks -/

/-- Whether the tags in a markup close what is open. -/
def IsReadable (markup : String) : Prop := ∃ cs, Terminal.ofMarkup markup = .ok cs

/-- An act that does no more than make remarks, and that gets through them exactly if something holds. -/
def RemarksIf (a : Act Unit) (P : Prop) : Prop :=
  ∀ setting s, ∃ errors, P ∧ a.runIn setting s = (.ok (), { s with errors }) ∨
    ¬ P ∧ ∃ e, a.runIn setting s = (.error (.crash e), { s with errors })

theorem remarksIf_remark (markup : String) : RemarksIf (remark markup) (IsReadable markup) := by
  intro setting s
  cases hmarkup : Terminal.ofMarkup markup with
  | ok cs =>
    have hlines : (linesOf markup).runIn setting s =
        (.ok (Terminal.layOut setting.width .fold cs ++ ['\n']), s) := by
      rw [linesOf, hmarkup]
      rfl
    exact ⟨_, .inl ⟨⟨cs, hmarkup⟩, runIn_bind hlines _⟩⟩
  | error e =>
    have hlines : (linesOf markup).runIn setting s = (.error (.crash (.markup e)), s) := by
      rw [linesOf, hmarkup]
      rfl
    refine ⟨s.errors, .inr ⟨?_, .markup e, runIn_bind_error hlines _⟩⟩
    rintro ⟨cs, hcs⟩
    cases hmarkup.symm.trans hcs

theorem RemarksIf.pure : RemarksIf (pure ()) True := fun _ s => ⟨s.errors, .inl ⟨trivial, rfl⟩⟩

theorem RemarksIf.bind {a b : Act Unit} {P Q : Prop} (ha : RemarksIf a P) (hb : RemarksIf b Q) :
    RemarksIf (a >>= fun _ => b) (P ∧ Q) := by
  intro setting s
  obtain ⟨errors, ⟨hP, hrun⟩ | ⟨hP, e, hrun⟩⟩ := ha setting s
  · obtain ⟨errors, ⟨hQ, hmore⟩ | ⟨hQ, e, hmore⟩⟩ := hb setting { s with errors }
    · exact ⟨errors, .inl ⟨⟨hP, hQ⟩, (runIn_bind hrun _).trans hmore⟩⟩
    · exact ⟨errors, .inr ⟨fun h => hQ h.2, e, (runIn_bind hrun _).trans hmore⟩⟩
  · exact ⟨errors, .inr ⟨fun h => hP h.1, e, runIn_bind_error hrun _⟩⟩

theorem RemarksIf.forM {f : α → Act Unit} {P : α → Prop} {xs : List α} (h : ∀ x ∈ xs, RemarksIf (f x) (P x)) :
    RemarksIf (xs.forM f) (∀ x ∈ xs, P x) := by
  induction xs with
  | nil => simpa using RemarksIf.pure
  | cons x xs ih =>
    obtain ⟨hx, hxs⟩ := List.forall_mem_cons.1 h
    simpa using hx.bind (ih hxs)

/-! ## What a result leaves out -/

theorem isTag_yellow : Terminal.IsTag "yellow".toList := by
  have htag : Terminal.tagAt? "yellow]".toList = some "yellow".toList := rfl
  exact (Terminal.tagAt?_eq_some_iff.1 htag).1

/-- Whether everything can be read that is remarked on a result. -/
structure OmissionsReadable (r : Result) : Prop where
  warnings : ∀ w ∈ r.warnings, IsReadable (warningMarkup w)
  filters : ∀ f ∈ r.rejectedFilters, IsReadable (rejectionMarkup f)
  columns : r.droppedColumns ≠ [] → IsReadable (droppedMarkup r.droppedColumns)

theorem isReadable_warningMarkup {w : Warning} {kind : ErrorKind} (h : w.kind = kind.name) :
    IsReadable (warningMarkup w) := by
  have hfront : '[' ∉ (kind.name ++ ": ").toList ∧
      Terminal.slashesAt (kind.name ++ ": ").toList.reverse = 0 := by
    cases kind <;> decide
  rw [warningMarkup, h]
  exact Terminal.exists_ofMarkup_styled_escape w.message isTag_yellow rfl rfl hfront.1 hfront.2

theorem isReadable_droppedMarkup (columns : List String) : IsReadable (droppedMarkup columns) :=
  Terminal.exists_ofMarkup_styled_escape _ isTag_yellow rfl rfl (by decide) (by decide)

/-- What is escaped can be read, so all hangs on the fields of rejected filters. -/
theorem omissionsReadable_iff {r : Result} (h : ∀ w ∈ r.warnings, ∃ kind : ErrorKind, w.kind = kind.name) :
    OmissionsReadable r ↔ ∀ f ∈ r.rejectedFilters, IsReadable (rejectionMarkup f) := by
  refine ⟨OmissionsReadable.filters, fun hfilters => ⟨fun w hw => ?_, hfilters, fun _ =>
    isReadable_droppedMarkup _⟩⟩
  obtain ⟨kind, hkind⟩ := h w hw
  exact isReadable_warningMarkup hkind

theorem remarksIf_remarkOmissions (r : Result) : RemarksIf (remarkOmissions r) (OmissionsReadable r) := by
  have hcolumns : RemarksIf (if !r.droppedColumns.isEmpty then remark (droppedMarkup r.droppedColumns) else
      Pure.pure ()) (r.droppedColumns ≠ [] → IsReadable (droppedMarkup r.droppedColumns)) := by
    cases r.droppedColumns with
    | nil => simpa using RemarksIf.pure
    | cons key keys => simpa using remarksIf_remark _
  have hwarnings := RemarksIf.forM fun w (_ : w ∈ r.warnings) =>
    remarksIf_remark (warningMarkup w)
  have hfilters := RemarksIf.forM fun f (_ : f ∈ r.rejectedFilters) =>
    remarksIf_remark (rejectionMarkup f)
  have hiff : OmissionsReadable r ↔ (∀ w ∈ r.warnings, IsReadable (warningMarkup w)) ∧
      (∀ f ∈ r.rejectedFilters, IsReadable (rejectionMarkup f)) ∧
      (r.droppedColumns ≠ [] → IsReadable (droppedMarkup r.droppedColumns)) :=
    ⟨fun h => ⟨h.warnings, h.filters, h.columns⟩, fun h => ⟨h.1, h.2.1, h.2.2⟩⟩
  rw [hiff]
  exact hwarnings.bind (hfilters.bind hcolumns)

end Rollup.Act

namespace Rollup.Command

variable {setting : Setting} {world : World} {words : List String} {c : Command} {scene : Scene}

/-! ## Command lines -/

theorem runWords_of_ok (hwords : Request.ofWords words = .ok (.command c))
    (h : c.act.runIn setting { world } = (.ok (), scene)) :
    runWords setting world words = (scene, .exit 0) := by
  have hrun : ((c.act.run setting).run).run { world } = (.ok (), scene) := h
  rw [runWords, hwords]
  simp only [hrun]

theorem runWords_of_crash (hwords : Request.ofWords words = .ok (.command c)) {e : Crash}
    (h : c.act.runIn setting { world } = (.error (.crash e), scene)) :
    runWords setting world words = (scene, .crash e) := by
  have hrun : ((c.act.run setting).run).run { world } = (.error (.crash e), scene) := h
  rw [runWords, hwords]
  simp only [hrun]

end Rollup.Command
