import Rollup.Proofs.Filter

/-!
# Filter plans

A plan divides the finished filters of a list into three of its sublists (`FilterPlan.Divides`).
Filtering rows by what a plan gives to the store and then by what it keeps here leaves the rows that
satisfy every finished filter on a known field (`Filter.Satisfied`), in whatever order the filters were
given (`FilterPlan.ofFilters_divides`). The order decides only which comparisons are made at all, and
with that whether a test comes to a cell that has no text form.
-/

namespace Rollup

/-- A row satisfies every finished filter on a known field. -/
def Filter.Satisfied (known : List String) (fs : List Filter) (row : Row) : Prop :=
  ∀ f ∈ fs, f.isInert = false → f.field ∈ known → f.matchesRow row = .ok true

instance (known : List String) (fs : List Filter) (row : Row) :
    Decidable (Filter.Satisfied known fs row) :=
  inferInstanceAs (Decidable (∀ f ∈ fs, f.isInert = false → f.field ∈ known →
    f.matchesRow row = .ok true))

namespace FilterPlan
variable {plan : FilterPlan} {known : List String} {supported : List Operator} {fs gs : List Filter}
variable {row : Row} {rows kept : List Row}

/-- Filters rows as the store is asked to, and then as is left to do here. -/
def applyTo (plan : FilterPlan) (rows : List Row) : Except EvaluationError (List Row) := do
  Filter.applyAll plan.kept (← Filter.keepMatching plan.pushed rows)

structure Divides (plan : FilterPlan) (known : List String) (supported : List Operator)
    (fs : List Filter) : Prop where
  pushed : plan.pushed = fs.filter fun f =>
    !f.isInert && known.contains f.field && supported.contains f.operator
  kept : plan.kept = fs.filter fun f =>
    !f.isInert && known.contains f.field && !supported.contains f.operator
  rejected : plan.rejected = fs.filter fun f => !f.isInert && !known.contains f.field
  length : plan.pushed.length + plan.kept.length + plan.rejected.length =
    (fs.filter (!·.isInert)).length

/-! ## Dividing -/

theorem filter_route_eq {place : Filter.Route} {p : Filter → Bool}
    (h : ∀ f : Filter, f.route known supported = place ↔ p f = true) (fs : List Filter) :
    fs.filter (·.route known supported = place) = fs.filter p := by
  refine List.filter_congr fun f _ => ?_
  rw [Bool.eq_iff_iff, decide_eq_true_eq]
  exact h f

/-- Every finished filter has one of three routes. -/
theorem length_filter_route (fs : List Filter) :
    (fs.filter (·.route known supported = .store)).length +
      (fs.filter (·.route known supported = .here)).length +
      (fs.filter (·.route known supported = .refused)).length = (fs.filter (!·.isInert)).length := by
  induction fs with
  | nil => rfl
  | cons f fs ih =>
    have hinert : f.isInert = true ↔ f.route known supported = .ignored := by
      unfold Filter.route
      split_ifs <;> simp_all
    cases hroute : f.route known supported with
    | ignored =>
      have hactive := hinert.2 hroute
      simp [hroute, hactive, ih]
    | _ =>
      have hactive : f.isInert = false := by
        rw [← Bool.not_eq_true, hinert, hroute]
        nofun
      simp only [List.filter_cons, hroute, hactive, decide_true, Bool.not_false, if_true,
        List.length_cons, reduceCtorEq, decide_false, Bool.false_eq_true, if_false]
      omega

theorem divides_ofFilters (known : List String) (supported : List Operator) (fs : List Filter) :
    (ofFilters known supported fs).Divides known supported fs := by
  rw [ofFilters_eq]
  exact ⟨filter_route_eq (fun f => route_eq_store_iff) fs, filter_route_eq (fun f => route_eq_here_iff) fs,
    filter_route_eq (fun f => route_eq_refused_iff) fs, length_filter_route fs⟩

/-! ## Applying -/

theorem applyTo_eq_ok_iff (hactive : ∀ f ∈ plan.kept, f.isInert = false) :
    plan.applyTo rows = .ok kept ↔
      kept = rows.filter (fun row =>
        plan.pushed.all (·.holds row) && plan.kept.all (·.holds row)) ∧
      ∀ row ∈ rows, ¬ Filter.Stuck row (plan.pushed ++ plan.kept) := by
  have hbind : plan.applyTo rows = .ok kept ↔ ∃ left, Filter.keepMatching plan.pushed rows = .ok left ∧
      Filter.keepMatching plan.kept left = .ok kept := by
    unfold applyTo
    cases Filter.keepMatching plan.pushed rows with
    | error e => exact iff_of_false nofun (by simp)
    | ok left =>
      simp only [Except.ok.injEq, exists_eq_left']
      rw [← Filter.applyAll_eq_keepMatching hactive]
      rfl
  rw [hbind]
  simp only [Filter.keepMatching_eq_ok_iff]
  constructor
  · rintro ⟨left, ⟨rfl, hpushed⟩, rfl, hkept⟩
    refine ⟨?_, fun row hrow hstuck => ?_⟩
    · rw [List.filter_filter]
      exact List.filter_congr fun row _ => Bool.and_comm _ _
    · rcases Filter.stuck_append.1 hstuck with h | ⟨hholds, h⟩
      · exact hpushed row hrow h
      · exact hkept row (List.mem_filter.2 ⟨hrow, hholds⟩) h
  · rintro ⟨rfl, hnot⟩
    refine ⟨_, ⟨rfl, fun row hrow h => ?_⟩, ?_, fun row hrow h => ?_⟩
    · exact hnot row hrow (Filter.stuck_append.2 (.inl h))
    · rw [List.filter_filter]
      exact List.filter_congr fun row _ => Bool.and_comm _ _
    · obtain ⟨hrow, hholds⟩ := List.mem_filter.1 hrow
      exact hnot row hrow (Filter.stuck_append.2 (.inr ⟨hholds, h⟩))

theorem satisfied_iff : Filter.Satisfied known fs row ↔
    ((ofFilters known supported fs).pushed.all (·.holds row) &&
      (ofFilters known supported fs).kept.all (·.holds row)) = true := by
  rw [all_holds_split, List.all_eq_true]
  unfold Filter.Satisfied
  refine forall_congr' fun f => ?_
  rw [List.mem_filter, ← Filter.holds_iff, and_imp, Bool.and_eq_true, and_imp]
  simp

theorem satisfied_perm (h : gs.Perm fs) : Filter.Satisfied known gs row ↔ Filter.Satisfied known fs row :=
  forall_congr' fun f => by rw [h.mem_iff]

/-- A plan divides the finished filters, and its two parts that are applied, one after the other, leave
the rows that satisfy all of those on known fields, unless some row's test comes to a cell that has no
text form. -/
theorem ofFilters_divides (known : List String) (supported : List Operator) (h : gs.Perm fs)
    (rows : List Row) :
    (ofFilters known supported gs).Divides known supported gs ∧
    (∀ kept, (ofFilters known supported gs).applyTo rows = .ok kept ↔
      kept = rows.filter (fun row => Filter.Satisfied known fs row) ∧ ∀ row ∈ rows, ¬ Filter.Stuck row
        ((ofFilters known supported gs).pushed ++ (ofFilters known supported gs).kept)) ∧
    ((∀ row ∈ rows, ∀ f ∈ fs, (row.get f.field).HasText) →
      (ofFilters known supported gs).applyTo rows =
        .ok (rows.filter fun row => Filter.Satisfied known fs row)) := by
  have hrows : rows.filter (fun row => (ofFilters known supported gs).pushed.all (·.holds row) &&
      (ofFilters known supported gs).kept.all (·.holds row)) =
      rows.filter fun row => Filter.Satisfied known fs row := by
    refine List.filter_congr fun row _ => ?_
    rw [Bool.eq_iff_iff, decide_eq_true_eq, ← satisfied_perm h]
    exact satisfied_iff.symm
  have happly (kept : List Row) : (ofFilters known supported gs).applyTo rows = .ok kept ↔
      kept = rows.filter (fun row => Filter.Satisfied known fs row) ∧ ∀ row ∈ rows, ¬ Filter.Stuck row
        ((ofFilters known supported gs).pushed ++ (ofFilters known supported gs).kept) := by
    rw [applyTo_eq_ok_iff fun f hf => isInert_of_mem_kept hf, hrows]
  refine ⟨divides_ofFilters known supported gs, happly, fun htext => ?_⟩
  refine (happly _).2 ⟨rfl, fun row hrow => Filter.not_stuck_of_hasText fun f hf => ?_⟩
  have hmem := mem_pushed_or_kept.1 (List.mem_append.1 hf)
  exact htext row hrow f (h.mem_iff.1 (List.mem_of_mem_filter hmem))

/-! ### A store that only tests for equality

Two of the filters are the same, one is on a field that is not known, and one is unfinished. -/

def sizeFilters : List Filter :=
  [⟨"size", .greaterThan, "100"⟩, ⟨"industry", .equals, "Tech"⟩, ⟨"gone", .equals, "1"⟩,
   ⟨"size", .greaterThan, "100"⟩, ⟨"name", .contains, " "⟩]

def acme : Row := [("name", .text "Acme"), ("industry", .text "Tech"), ("size", .int 250)]

def bolt : Row := [("name", .text "Bolt"), ("industry", .text "Tech"), ("size", .text "9")]

def cask : Row := [("name", .text "Cask"), ("industry", .null), ("size", .text "1e3")]

theorem sizeFilters_divides : sizeFilters.reverse.Perm sizeFilters ∧
    (∀ row ∈ [acme, bolt, cask, acme], ∀ f ∈ sizeFilters, (row.get f.field).HasText) ∧
    (ofFilters ["name", "industry", "size"] [.equals] sizeFilters.reverse).Divides
      ["name", "industry", "size"] [.equals] sizeFilters.reverse ∧
    (ofFilters ["name", "industry", "size"] [.equals] sizeFilters.reverse).applyTo
      [acme, bolt, cask, acme] = .ok [acme, acme] := by
  have hperm : sizeFilters.reverse.Perm sizeFilters := List.reverse_perm _
  have htext : ∀ row ∈ [acme, bolt, cask, acme], ∀ f ∈ sizeFilters, (row.get f.field).HasText := by
    decide +kernel
  have hacme : Filter.Satisfied ["name", "industry", "size"] sizeFilters acme := by decide +kernel
  have hbolt : ¬ Filter.Satisfied ["name", "industry", "size"] sizeFilters bolt := by decide +kernel
  have hcask : ¬ Filter.Satisfied ["name", "industry", "size"] sizeFilters cask := by decide +kernel
  obtain ⟨hdivides, -, hreturns⟩ := ofFilters_divides ["name", "industry", "size"] [.equals] hperm
    [acme, bolt, cask, acme]
  refine ⟨hperm, htext, hdivides, (hreturns htext).trans (congrArg Except.ok ?_)⟩
  simp only [List.filter_cons, List.filter_nil, hacme, hbolt, hcask, decide_true, decide_false, if_true,
    Bool.false_eq_true, if_false]

end FilterPlan

end Rollup
