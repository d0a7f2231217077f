import Rollup.Aggregation
import Mathlib.Data.List.Basic

/-!
# What an aggregation reads

Grouping reads the cell of the group field, a count reads nothing, and every other aggregation reads
the cells of its own field. Rows that are replaced by others with the same cells there, such as rows
cut down to the fetched columns, are aggregated to the same rows (`aggregate_map`).
-/

namespace Rollup

/-- Replaces the members of every group. -/
def Groups.mapRows (g : Row → Row) (groups : Groups) : Groups :=
  groups.map fun (key, members) => (key, members.map g)

theorem Groups.insert_mapRows (g : Row → Row) (key : String) (row : Row) (groups : Groups) :
    (groups.mapRows g).insert key (g row) = (groups.insert key row).mapRows g := by
  induction groups with
  | nil => rfl
  | cons group more ih =>
    obtain ⟨k, members⟩ := group
    simp only [Groups.mapRows, List.map_cons, Groups.insert] at ih ⊢
    split
    · simp
    · simp [ih]

variable {g : Row → Row} {groupBy label : String} {aggregations : List Aggregation}

/-- Adds one row to the groups of those before it. -/
def groupStep (groupBy label : String) (groups : Groups) (row : Row) : Except EvaluationError Groups :=
  return groups.insert (← groupKey label (row.get groupBy)) row

theorem groupRows_eq_foldlM (rows : List Row) :
    groupRows groupBy label rows = rows.foldlM (groupStep groupBy label) [] := rfl

theorem groupStep_mapRows {row : Row} (h : (g row).get groupBy = row.get groupBy) (groups : Groups) :
    groupStep groupBy label (groups.mapRows g) (g row) =
      (groupStep groupBy label groups row).map (Groups.mapRows g) := by
  unfold groupStep
  rw [h]
  cases groupKey label (row.get groupBy) with
  | error e => rfl
  | ok key => exact congrArg Except.ok (Groups.insert_mapRows g key row groups)

theorem foldlM_groupStep_map (h : ∀ row : Row, (g row).get groupBy = row.get groupBy)
    (rows : List Row) (groups : Groups) :
    (rows.map g).foldlM (groupStep groupBy label) (groups.mapRows g) =
      (rows.foldlM (groupStep groupBy label) groups).map (Groups.mapRows g) := by
  induction rows generalizing groups with
  | nil => rfl
  | cons row rows ih =>
    rw [List.map_cons, List.foldlM_cons, List.foldlM_cons, groupStep_mapRows (h row)]
    cases groupStep groupBy label groups row with
    | error e => rfl
    | ok next => exact ih next

theorem groupRows_map (h : ∀ row : Row, (g row).get groupBy = row.get groupBy) (rows : List Row) :
    groupRows groupBy label (rows.map g) =
      (groupRows groupBy label rows).map (Groups.mapRows g) := by
  rw [groupRows_eq_foldlM, groupRows_eq_foldlM]
  exact foldlM_groupStep_map h rows []

/-- A row that has the column of an aggregation stays as it is; otherwise a count looks at how many
members there are and everything else at the cells of its field. -/
theorem aggregateStep_map {a : Aggregation}
    (h : a.function ≠ .count → ∀ row : Row, (g row).get a.field = row.get a.field)
    (members : List Row) (out : Row) :
    aggregateStep (members.map g) out a = aggregateStep members out a := by
  unfold aggregateStep
  split
  · rfl
  · congr 1
    by_cases hcount : a.function = .count
    · simp [hcount, Function.reduce]
    · have hcells : (members.map g).map (·.get a.field) = members.map (·.get a.field) := by
        rw [List.map_map]
        exact List.map_congr_left fun row _ => h hcount row
      rw [hcells]

theorem aggregateGroup_map
    (h : ∀ a ∈ aggregations, a.function ≠ .count → ∀ row : Row, (g row).get a.field = row.get a.field)
    (key : String) (members : List Row) :
    aggregateGroup groupBy aggregations (key, members.map g) =
      aggregateGroup groupBy aggregations (key, members) := by
  unfold aggregateGroup
  generalize [(groupBy, Value.text key)] = out
  induction aggregations generalizing out with
  | nil => rfl
  | cons a aggregations ih =>
    rw [List.foldlM_cons, List.foldlM_cons, aggregateStep_map (h a List.mem_cons_self)]
    exact congrArg (_ >>= ·) (funext fun out => ih (fun b hb => h b (List.mem_cons_of_mem _ hb)) out)

/-- Aggregating looks at no other cells than those of the group field and of the fields of
aggregations that are no counts. -/
theorem aggregate_map (hgroup : ∀ row : Row, (g row).get groupBy = row.get groupBy)
    (hfields : ∀ a ∈ aggregations, a.function ≠ .count →
      ∀ row : Row, (g row).get a.field = row.get a.field) (rows : List Row) :
    aggregate (rows.map g) groupBy aggregations label = aggregate rows groupBy aggregations label := by
  unfold aggregate
  rw [groupRows_map hgroup]
  cases groupRows groupBy label rows with
  | error e => rfl
  | ok groups =>
    show (groups.mapRows g).mapM _ = groups.mapM _
    induction groups with
    | nil => rfl
    | cons group more ih =>
      obtain ⟨key, members⟩ := group
      simp only [Groups.mapRows, List.map_cons, List.mapM_cons] at ih ⊢
      rw [aggregateGroup_map hfields, ih]

end Rollup
