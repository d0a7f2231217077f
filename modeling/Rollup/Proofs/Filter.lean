import Rollup.Engine
import Mathlib.Data.List.Basic

/-!
# Filters on rows

On cells that have a text form every filter either holds or does not, so `matchesRow`, `allMatch`
and `applyAll` are filters of lists (`applyAll_eq_filter`). Nothing but a cell without a text form makes
a test fail, and only if the test comes to it (`Filter.Stuck`, `keepMatching_eq_ok_iff`). Planning sends
each finished filter to one place (`ofFilters_eq`), and a row satisfies the filters sent to the store and
those kept here together exactly when it satisfies all filters on known fields
(`FilterPlan.all_holds_split`).
-/

namespace Rollup

/-- Whether a value has a text form. Only integers of very many digits have none, and what holds
one. -/
def Value.HasText (v : Value) : Prop := v.text?.isSome

instance (v : Value) : Decidable v.HasText := inferInstanceAs (Decidable (_ = true))

namespace Filter
variable {f : Filter} {fs gs : List Filter} {row : Row} {rows : List Row}

/-- Whether a row satisfies a filter. A cell without a text form satisfies none. -/
def holds (f : Filter) (row : Row) : Bool :=
  match f.matchesRow row with
  | .ok b => b
  | .error _ => false

theorem matchesCell_isOk {v : Value} (h : v.HasText) (op : Operator) (value : String) :
    ∃ b, matchesCell v op value = .ok b := by
  obtain ⟨text, ht⟩ := Option.isSome_iff_exists.1 h
  have hform : v.textForm = .ok text := by simp [Value.textForm, ht]
  cases v with
  | null => exact ⟨false, rfl⟩
  | _ =>
    simp only [matchesCell, hform]
    cases op <;> exact ⟨_, rfl⟩

theorem matchesCell_of_text? {v : Value} {text value : String} {op : Operator} (hv : v.isNull = false)
    (h : v.text? = some text) (hop : op ≠ .contains) :
    matchesCell v op value = .ok (op.accepts (compareWithText v text value)) := by
  have hform : v.textForm = .ok text := by simp [Value.textForm, h]
  cases v with
  | null => cases hv
  | _ =>
    simp only [matchesCell, hform]
    cases op with
    | contains => exact absurd rfl hop
    | _ => rfl

theorem matchesCell_contains {v : Value} {text : String} (value : String) (hv : v.isNull = false)
    (h : v.text? = some text) : matchesCell v .contains value =
      .ok (Text.occursIn (Text.lower value).toList (Text.lower text).toList) := by
  have hform : v.textForm = .ok text := by simp [Value.textForm, h]
  cases v with
  | null => cases hv
  | _ =>
    simp only [matchesCell, hform]
    rfl

theorem matchesRow_eq_holds (h : (row.get f.field).HasText) : f.matchesRow row = .ok (f.holds row) := by
  obtain ⟨b, hb⟩ := matchesCell_isOk h f.operator f.value
  have hrow : f.matchesRow row = .ok b := hb
  simp [holds, hrow]

theorem matchesRow_eq_error (h : ¬ (row.get f.field).HasText) : f.matchesRow row = .error .noTextForm := by
  have hnone : (row.get f.field).text? = none := by simpa [Value.HasText] using h
  have hform : (row.get f.field).textForm = .error .noTextForm := by simp [Value.textForm, hnone]
  unfold matchesRow
  cases hcell : row.get f.field with
  | null =>
    rw [hcell] at hnone
    cases hnone
  | _ =>
    rw [hcell] at hform
    simp only [matchesCell, hform]
    rfl

theorem holds_iff : f.holds row = true ↔ f.matchesRow row = .ok true := by
  unfold holds
  cases f.matchesRow row <;> simp

/-! ### Tests that fail -/

/-- The test of a row comes to a cell without a text form: the row satisfies every filter before. -/
inductive Stuck (row : Row) : List Filter → Prop
  | here {f : Filter} {fs : List Filter} (h : ¬ (row.get f.field).HasText) : Stuck row (f :: fs)
  | later {f : Filter} {fs : List Filter} (hf : f.holds row = true) (h : Stuck row fs) : Stuck row (f :: fs)

theorem not_stuck_nil : ¬ Stuck row [] := nofun

theorem stuck_cons : Stuck row (f :: fs) ↔
    ¬ (row.get f.field).HasText ∨ f.holds row = true ∧ Stuck row fs := by
  constructor
  · rintro (h | ⟨hf, h⟩)
    · exact .inl h
    · exact .inr ⟨hf, h⟩
  · rintro (h | ⟨hf, h⟩)
    · exact .here h
    · exact .later hf h

theorem stuck_append : Stuck row (fs ++ gs) ↔
    Stuck row fs ∨ fs.all (·.holds row) = true ∧ Stuck row gs := by
  induction fs with
  | nil => simp [not_stuck_nil]
  | cons f fs ih =>
    rw [List.cons_append, stuck_cons, stuck_cons, ih, List.all_cons, Bool.and_eq_true]
    tauto

theorem not_stuck_of_hasText (h : ∀ f ∈ fs, (row.get f.field).HasText) : ¬ Stuck row fs := by
  intro hstuck
  induction hstuck with
  | here hf => exact hf (h _ List.mem_cons_self)
  | later _ _ ih => exact ih fun g hg => h g (List.mem_cons_of_mem _ hg)

theorem allMatch_of_stuck (h : Stuck row fs) : allMatch row fs = .error .noTextForm := by
  induction h with
  | here h =>
    rw [allMatch, matchesRow_eq_error h]
    rfl
  | later hf _ ih =>
    rw [allMatch, holds_iff.1 hf]
    exact ih

theorem allMatch_of_not_stuck (h : ¬ Stuck row fs) : allMatch row fs = .ok (fs.all (·.holds row)) := by
  induction fs with
  | nil => rfl
  | cons f fs ih =>
    obtain ⟨htext, hrest⟩ := not_or.1 (mt stuck_cons.2 h)
    rw [allMatch, matchesRow_eq_holds (not_not.1 htext), List.all_cons]
    cases hf : f.holds row with
    | false => rfl
    | true => exact ih fun hstuck => hrest ⟨hf, hstuck⟩

theorem keepMatching_of_stuck (hrow : row ∈ rows) (h : Stuck row fs) :
    keepMatching fs rows = .error .noTextForm := by
  induction rows with
  | nil => cases hrow
  | cons first rows ih =>
    rw [keepMatching]
    by_cases hfirst : Stuck first fs
    · rw [allMatch_of_stuck hfirst]
      rfl
    · have hne : row ≠ first := fun heq => hfirst (heq ▸ h)
      rw [allMatch_of_not_stuck hfirst, ih ((List.mem_cons.1 hrow).resolve_left hne)]
      rfl

theorem keepMatching_of_not_stuck (h : ∀ row ∈ rows, ¬ Stuck row fs) :
    keepMatching fs rows = .ok (rows.filter fun row => fs.all (·.holds row)) := by
  induction rows with
  | nil => rfl
  | cons row rows ih =>
    have ih := ih fun r hr => h r (List.mem_cons_of_mem _ hr)
    simp only [keepMatching, allMatch_of_not_stuck (h row List.mem_cons_self), ih, bind, Except.bind,
      pure, Except.pure, List.filter_cons]

theorem keepMatching_eq_ok_iff {kept : List Row} : keepMatching fs rows = .ok kept ↔
    kept = rows.filter (fun row => fs.all (·.holds row)) ∧ ∀ row ∈ rows, ¬ Stuck row fs := by
  by_cases h : ∀ row ∈ rows, ¬ Stuck row fs
  · rw [keepMatching_of_not_stuck h, Except.ok.injEq, and_iff_left h, eq_comm]
  · refine iff_of_false (fun hok => ?_) fun hand => h hand.2
    push Not at h
    obtain ⟨row, hrow, hstuck⟩ := h
    cases hok.symm.trans (keepMatching_of_stuck hrow hstuck)

theorem keepMatching_eq_filter (h : ∀ row ∈ rows, ∀ f ∈ fs, (row.get f.field).HasText) :
    keepMatching fs rows = .ok (rows.filter fun row => fs.all (·.holds row)) :=
  keepMatching_of_not_stuck fun row hrow => not_stuck_of_hasText (h row hrow)

theorem applyAll_eq_keepMatching (hactive : ∀ f ∈ fs, f.isInert = false) :
    applyAll fs rows = keepMatching fs rows := by
  have hfs : fs.filter (!·.isInert) = fs :=
    List.filter_eq_self.2 fun f hf => by simp [hactive f hf]
  unfold applyAll
  rw [hfs]
  cases fs with
  | cons f fs => rfl
  | nil =>
    have hall : keepMatching [] rows = .ok (rows.filter fun row => ([] : List Filter).all (·.holds row)) :=
      keepMatching_of_not_stuck fun row _ => not_stuck_nil
    simpa using hall.symm

/-- Finished filters are applied as they stand. -/
theorem applyAll_eq_filter (hactive : ∀ f ∈ fs, f.isInert = false)
    (h : ∀ row ∈ rows, ∀ f ∈ fs, (row.get f.field).HasText) :
    applyAll fs rows = .ok (rows.filter fun row => fs.all (·.holds row)) := by
  rw [applyAll_eq_keepMatching hactive, keepMatching_eq_filter h]

/-- A filter says the same about two rows that agree on its field. -/
theorem holds_congr {other : Row} (h : other.get f.field = row.get f.field) :
    f.holds other = f.holds row := by
  simp [holds, matchesRow, h]

end Filter

namespace FilterPlan
variable {known : List String} {supported : List Operator} {fs : List Filter}

theorem ofFilters_eq : ofFilters known supported fs =
    ⟨fs.filter (·.route known supported = .store), fs.filter (·.route known supported = .here),
      fs.filter (·.route known supported = .refused)⟩ := by
  induction fs with
  | nil => rfl
  | cons f fs ih =>
    have hstep : ofFilters known supported (f :: fs) =
        insert known supported f (ofFilters known supported fs) := rfl
    rw [hstep, ih, insert]
    cases h : f.route known supported <;> simp [h]

theorem route_eq_refused_iff {f : Filter} :
    f.route known supported = .refused ↔ (!f.isInert && !known.contains f.field) = true := by
  unfold Filter.route
  split_ifs <;> simp_all

theorem route_eq_store_iff {f : Filter} :
    f.route known supported = .store ↔
      (!f.isInert && known.contains f.field && supported.contains f.operator) = true := by
  unfold Filter.route
  split_ifs <;> simp_all

theorem route_eq_here_iff {f : Filter} :
    f.route known supported = .here ↔
      (!f.isInert && known.contains f.field && !supported.contains f.operator) = true := by
  unfold Filter.route
  split_ifs <;> simp_all

theorem route_store_or_here_iff {f : Filter} :
    (f.route known supported = .store ∨ f.route known supported = .here) ↔
      (!f.isInert && known.contains f.field) = true := by
  unfold Filter.route
  split_ifs <;> simp_all

theorem isInert_of_mem_kept {f : Filter} (h : f ∈ (ofFilters known supported fs).kept) :
    f.isInert = false := by
  rw [ofFilters_eq] at h
  have hroute : f.route known supported = .here := by simpa using (List.mem_filter.1 h).2
  simpa using (Bool.and_eq_true_iff.1 (route_store_or_here_iff.1 (.inr hroute))).1

theorem mem_pushed_or_kept {f : Filter} : (f ∈ (ofFilters known supported fs).pushed ∨
    f ∈ (ofFilters known supported fs).kept) ↔
      f ∈ fs.filter fun f => !f.isInert && known.contains f.field := by
  rw [ofFilters_eq]
  simp only [List.mem_filter, decide_eq_true_eq, ← and_or_left]
  exact and_congr_right fun _ => route_store_or_here_iff

/-- However a plan splits the filters, its two parts together ask of a row what all filters on known
fields ask. -/
theorem all_holds_split (row : Row) :
    ((ofFilters known supported fs).pushed.all (·.holds row) &&
      (ofFilters known supported fs).kept.all (·.holds row)) =
    (fs.filter fun f => !f.isInert && known.contains f.field).all (·.holds row) := by
  rw [Bool.eq_iff_iff]
  simp only [Bool.and_eq_true, List.all_eq_true]
  constructor
  · rintro ⟨hpushed, hkept⟩ f hf
    rcases mem_pushed_or_kept.2 hf with h | h
    · exact hpushed f h
    · exact hkept f h
  · intro h
    exact ⟨fun f hf => h f (mem_pushed_or_kept.1 (.inl hf)),
      fun f hf => h f (mem_pushed_or_kept.1 (.inr hf))⟩

end FilterPlan

end Rollup
