import Rollup.Proofs.Grouping
import Rollup.Proofs.Row

/-!
# Grouped rows

What aggregating makes of rows (`IsGrouping`): one row for each group name, in the order in which the
names are first seen, with one column for each output key, where the aggregation of that key stands over
the members of the group. No row is lost on the way and none is counted twice. This is all there is to
grouped rows: it says whether aggregating yields a result, and which (`aggregate_eq_ok_iff`).
-/

namespace Rollup
variable {groupBy label : String} {rows out : List Row} {aggregations : List Aggregation}

structure IsGrouping (groupBy label : String) (aggregations : List Aggregation) (rows out : List Row) :
    Prop where
  /-- Every row has a group name. -/
  named : ∀ row ∈ rows, groupKey label (row.get groupBy) = .ok ((row.get groupBy).groupName label)
  names : out.map (·.get groupBy) = (groupNames groupBy label rows).map .text
  columns : ∀ g ∈ out, g.keys = outputColumns groupBy aggregations
  values : ∀ g ∈ out, ∀ name, g.get groupBy = .text name → ∀ a ∈ aggregations, a.outputKey ≠ groupBy →
    ∃ n, a.function.reduce ((membersOf groupBy label rows name).map (·.get a.field)) = .ok n ∧
      g.get a.outputKey = n.toValue
  /-- Every row is a member of one group. -/
  partition : ((groupNames groupBy label rows).flatMap (membersOf groupBy label rows)).Perm rows
  counts : ∀ a ∈ aggregations, a.function = .count → a.outputKey ≠ groupBy → ∃ sizes : List Nat,
    out.map (·.get a.outputKey) = sizes.map (fun size => .int size) ∧ sizes.sum = rows.length

/-! ## Columns -/

section Columns
variable {columns : List String} {key : String}

/-- Adds the column of an aggregation, unless it is there. -/
def addColumn (columns : List String) (a : Aggregation) : List String :=
  if columns.contains a.outputKey then columns else columns ++ [a.outputKey]

theorem outputColumns_eq_foldl : outputColumns groupBy aggregations =
    aggregations.foldl addColumn [groupBy] := rfl

theorem mem_addColumn {a : Aggregation} : key ∈ addColumn columns a ↔ key ∈ columns ∨ a.outputKey = key := by
  unfold addColumn
  split_ifs with h
  · have hmem : a.outputKey ∈ columns := by simpa using h
    exact ⟨.inl, fun h => h.elim id fun heq => heq ▸ hmem⟩
  · rw [List.mem_append, List.mem_singleton, eq_comm]

theorem nodup_addColumn (h : columns.Nodup) (a : Aggregation) : (addColumn columns a).Nodup := by
  unfold addColumn
  split_ifs with hmem
  · exact h
  · rw [List.nodup_append]
    refine ⟨h, List.nodup_singleton _, fun c hc d hd heq => hmem ?_⟩
    obtain rfl := List.mem_singleton.1 hd
    simpa using heq ▸ hc

theorem mem_foldl_addColumn : key ∈ aggregations.foldl addColumn columns ↔
    key ∈ columns ∨ ∃ a ∈ aggregations, a.outputKey = key := by
  induction aggregations generalizing columns with
  | nil => simp
  | cons a aggregations ih => rw [List.foldl_cons, ih, mem_addColumn, or_assoc, List.exists_mem_cons_iff]

theorem nodup_foldl_addColumn (h : columns.Nodup) : (aggregations.foldl addColumn columns).Nodup := by
  induction aggregations generalizing columns with
  | nil => exact h
  | cons a aggregations ih => exact ih (nodup_addColumn h a)

theorem mem_outputColumns : key ∈ outputColumns groupBy aggregations ↔
    key = groupBy ∨ ∃ a ∈ aggregations, a.outputKey = key := by
  rw [outputColumns_eq_foldl, mem_foldl_addColumn, List.mem_singleton]

theorem nodup_outputColumns : (outputColumns groupBy aggregations).Nodup :=
  nodup_foldl_addColumn (List.nodup_singleton groupBy)

end Columns

/-! ## The row of a group -/

section Group
variable {members : List Row} {g next : Row} {a : Aggregation} {before : Row}

/-- A row is another one with the columns of aggregations added. -/
structure Aggregates (members : List Row) (aggregations : List Aggregation) (before g : Row) : Prop where
  keys : g.keys = aggregations.foldl addColumn before.keys
  kept : ∀ key ∈ before.keys, g.get key = before.get key
  added : ∀ a ∈ aggregations, a.outputKey ∉ before.keys →
    ∃ n, a.function.reduce (members.map (·.get a.field)) = .ok n ∧ g.get a.outputKey = n.toValue

theorem aggregateStep_cases (h : aggregateStep members before a = .ok next) :
    (a.outputKey ∈ before.keys ∧ next = before) ∨
    (a.outputKey ∉ before.keys ∧ ∃ n, a.function.reduce (members.map (·.get a.field)) = .ok n ∧
      next = before ++ [(a.outputKey, n.toValue)]) := by
  unfold aggregateStep at h
  split_ifs at h with hmem
  · have hmem : a.outputKey ∈ before.keys := by simpa using hmem
    exact .inl ⟨hmem, (Except.ok.inj h).symm⟩
  · have hmem : a.outputKey ∉ before.keys := by simpa using hmem
    obtain ⟨n, hn, h⟩ := exists_of_bind_eq_ok h
    exact .inr ⟨hmem, n, hn, (Except.ok.inj h).symm⟩

theorem aggregates_step (h : aggregateStep members before a = .ok next) :
    Aggregates members [a] before next := by
  rcases aggregateStep_cases h with ⟨hmem, heq⟩ | ⟨hmem, n, hn, heq⟩
  · have hcolumn : addColumn before.keys a = before.keys := if_pos (by simpa using hmem)
    subst heq
    refine ⟨hcolumn.symm, fun key _ => rfl, fun b hb hnew => ?_⟩
    obtain rfl := List.mem_singleton.1 hb
    exact absurd hmem hnew
  · have hcolumn : addColumn before.keys a = before.keys ++ [a.outputKey] := if_neg (by simpa using hmem)
    subst heq
    refine ⟨?_, fun key hkey => Row.get_append_of_mem hkey, fun b hb hnew => ?_⟩
    · rw [keys_append]
      exact hcolumn.symm
    · obtain rfl := List.mem_singleton.1 hb
      refine ⟨n, hn, ?_⟩
      rw [Row.get_append_of_not_mem hnew, Row.get_cons_self]

/-- A later aggregation with the output key of an earlier one is that one again. -/
theorem Aggregates.cons (hstep : Aggregates members [a] before next)
    (hrest : Aggregates members aggregations next g) : Aggregates members (a :: aggregations) before g := by
  have hkeys : next.keys = addColumn before.keys a := hstep.keys
  refine ⟨?_, fun key hkey => ?_, fun b hb hnew => ?_⟩
  · rw [hrest.keys, hkeys]
    rfl
  · have hnext : key ∈ next.keys := hkeys ▸ mem_addColumn.2 (.inl hkey)
    rw [hrest.kept key hnext, hstep.kept key hkey]
  · by_cases hba : b = a
    · subst hba
      obtain ⟨n, hn, hget⟩ := hstep.added b List.mem_cons_self hnew
      have hnext : b.outputKey ∈ next.keys := hkeys ▸ mem_addColumn.2 (.inr rfl)
      exact ⟨n, hn, (hrest.kept _ hnext).trans hget⟩
    · refine hrest.added b ((List.mem_cons.1 hb).resolve_left hba) ?_
      rw [hkeys, mem_addColumn, not_or]
      exact ⟨hnew, fun heq => hba (Aggregation.outputKey_inj heq).symm⟩

theorem aggregates_foldlM (h : aggregations.foldlM (aggregateStep members) before = .ok g) :
    Aggregates members aggregations before g := by
  induction aggregations generalizing before with
  | nil =>
    obtain rfl := Except.ok.inj h
    exact ⟨rfl, fun key _ => rfl, fun b hb => by cases hb⟩
  | cons a aggregations ih =>
    rw [List.foldlM_cons] at h
    obtain ⟨next, hstep, hrest⟩ := exists_of_bind_eq_ok h
    exact (aggregates_step hstep).cons (ih hrest)

theorem aggregates_aggregateGroup {name : String}
    (h : aggregateGroup groupBy aggregations (name, members) = .ok g) :
    Aggregates members aggregations [(groupBy, .text name)] g := aggregates_foldlM h

theorem Aggregates.get_groupBy {name : String}
    (h : Aggregates members aggregations [(groupBy, .text name)] g) : g.get groupBy = .text name := by
  have hmem : groupBy ∈ Row.keys [(groupBy, .text name)] := List.mem_cons_self
  rw [h.kept groupBy hmem, Row.get_cons_self]

end Group

/-! ## Groups -/

theorem hasText_of_groupKey {v : Value} {name : String} (h : groupKey label v = .ok name) : v.HasText := by
  unfold Value.HasText
  cases htext : v.text? with
  | some text => rfl
  | none =>
    have hform : v.textForm = .error .noTextForm := by simp [Value.textForm, htext]
    cases v with
    | null => cases htext
    | _ =>
      simp only [groupKey, hform] at h
      cases h

theorem hasText_of_foldlM_groupStep {start groups : Groups}
    (h : rows.foldlM (groupStep groupBy label) start = .ok groups) :
    ∀ row ∈ rows, (row.get groupBy).HasText := by
  induction rows generalizing start with
  | nil => simp
  | cons row rows ih =>
    rw [List.foldlM_cons] at h
    obtain ⟨next, hstep, hrest⟩ := exists_of_bind_eq_ok h
    obtain ⟨name, hname, -⟩ := exists_of_bind_eq_ok hstep
    exact List.forall_mem_cons.2 ⟨hasText_of_groupKey hname, ih hrest⟩

/-- Aggregating yields one row for each group. -/
theorem forall₂_of_aggregate (h : aggregate rows groupBy aggregations label = .ok out) :
    (∀ row ∈ rows, (row.get groupBy).HasText) ∧
      List.Forall₂ (fun name g => Aggregates (membersOf groupBy label rows name) aggregations
        [(groupBy, .text name)] g) (groupNames groupBy label rows) out := by
  obtain ⟨groups, hgroups, hrows⟩ := exists_of_bind_eq_ok h
  have htext := hasText_of_foldlM_groupStep (groupRows_eq_foldlM rows ▸ hgroups)
  obtain rfl := Except.ok.inj ((groupRows_eq htext).symm.trans hgroups)
  have hall := forall₂_of_mapM_eq_ok hrows
  rw [List.forall₂_map_left_iff] at hall
  exact ⟨htext, hall.imp fun name g hg => aggregates_aggregateGroup hg⟩

/-- Taking the elements of each key, one key after the other, takes every element once. -/
theorem flatMap_filter_perm {α : Type} (key : α → String) {names : List String} (hnodup : names.Nodup)
    {as : List α} (h : ∀ a ∈ as, key a ∈ names) :
    (names.flatMap fun name => as.filter fun a => key a = name).Perm as := by
  induction names generalizing as with
  | nil =>
    cases as with
    | nil => exact .refl _
    | cons a as => cases h a List.mem_cons_self
  | cons name names ih =>
    obtain ⟨hname, hnames⟩ := List.nodup_cons.1 hnodup
    -- the other names share out what does not have this one
    have hothers : names.flatMap (fun other => as.filter fun a => key a = other) =
        names.flatMap fun other => (as.filter fun a => !decide (key a = name)).filter
          fun a => key a = other := by
      refine List.flatMap_congr fun other hother => ?_
      rw [List.filter_filter]
      refine List.filter_congr fun a _ => ?_
      by_cases ha : key a = other
      · have hne : key a ≠ name := fun heq => hname (heq ▸ ha ▸ hother)
        simp [ha ▸ hne, ha]
      · simp [ha]
    have hrest : ∀ a ∈ as.filter (fun a => !decide (key a = name)), key a ∈ names := by
      intro a ha
      obtain ⟨ha, hne⟩ := List.mem_filter.1 ha
      exact (List.mem_cons.1 (h a ha)).resolve_left (by simpa using hne)
    rw [List.flatMap_cons, hothers]
    exact ((ih hnames hrest).append_left _).trans (List.filter_append_perm _ as)

theorem partition_membersOf (groupBy label : String) (rows : List Row) :
    ((groupNames groupBy label rows).flatMap (membersOf groupBy label rows)).Perm rows :=
  flatMap_filter_perm _ nodup_groupNames fun row hrow => mem_groupNames.2 ⟨row, hrow, rfl⟩

theorem sum_length_membersOf (groupBy label : String) (rows : List Row) :
    ((groupNames groupBy label rows).map fun name => (membersOf groupBy label rows name).length).sum =
      rows.length := by
  rw [← List.length_flatMap]
  exact (partition_membersOf groupBy label rows).length_eq

/-! ## The result of aggregating -/

theorem isGrouping_of_aggregate (h : aggregate rows groupBy aggregations label = .ok out) :
    IsGrouping groupBy label aggregations rows out := by
  obtain ⟨htext, hall⟩ := forall₂_of_aggregate h
  have hvalues : ∀ g ∈ out, ∀ name, g.get groupBy = .text name → ∀ a ∈ aggregations,
      a.outputKey ≠ groupBy →
      ∃ n, a.function.reduce ((membersOf groupBy label rows name).map (·.get a.field)) = .ok n ∧
        g.get a.outputKey = n.toValue := by
    intro g hg name hname a ha hne
    obtain ⟨other, -, hgroup⟩ := exists_of_forall₂_right hall hg
    obtain rfl : other = name := Value.text.inj (hgroup.get_groupBy.symm.trans hname)
    exact hgroup.added a ha (by simpa [Row.keys] using hne)
  refine ⟨fun row hrow => groupKey_eq (htext row hrow), ?_, fun g hg => ?_, hvalues,
    partition_membersOf groupBy label rows, fun a ha hcount hne => ?_⟩
  · exact map_eq_of_forall₂ (hall.imp fun name g hgroup => hgroup.get_groupBy)
  · obtain ⟨name, -, hgroup⟩ := exists_of_forall₂_right hall hg
    exact hgroup.keys
  · refine ⟨_, ?_, sum_length_membersOf groupBy label rows⟩
    rw [List.map_map]
    refine map_eq_of_forall₂ (hall.imp fun name g hgroup => ?_)
    obtain ⟨n, hn, hget⟩ := hgroup.added a ha (by simpa [Row.keys] using hne)
    rw [hcount, Function.reduce, Except.ok.injEq, List.length_map] at hn
    rw [hget, ← hn]
    rfl

namespace IsGrouping
variable {other : List Row} {g g' : Row}

theorem exists_name (h : IsGrouping groupBy label aggregations rows out) (hg : g ∈ out) :
    ∃ name ∈ groupNames groupBy label rows, g.get groupBy = .text name := by
  have hmem : g.get groupBy ∈ (groupNames groupBy label rows).map Value.text :=
    h.names ▸ List.mem_map_of_mem hg
  obtain ⟨name, hname, heq⟩ := List.mem_map.1 hmem
  exact ⟨name, hname, heq.symm⟩

theorem exists_row (h : IsGrouping groupBy label aggregations rows out) {name : String}
    (hname : name ∈ groupNames groupBy label rows) : ∃ g ∈ out, g.get groupBy = .text name := by
  have hmem : Value.text name ∈ out.map (·.get groupBy) := h.names ▸ List.mem_map_of_mem hname
  obtain ⟨g, hg, heq⟩ := List.mem_map.1 hmem
  exact ⟨g, hg, heq⟩

/-- The row of a group is known by its name. -/
theorem eq_of_name_eq (h : IsGrouping groupBy label aggregations rows out)
    (h' : IsGrouping groupBy label aggregations rows other) (hg : g ∈ out) (hg' : g' ∈ other)
    (hsame : g.get groupBy = g'.get groupBy) : g = g' := by
  have hkeys : g.keys = g'.keys := (h.columns g hg).trans (h'.columns g' hg').symm
  have hnodup : g'.keys.Nodup := by
    rw [h'.columns g' hg']
    exact nodup_outputColumns
  refine Row.eq_of_get_eq hnodup hkeys fun key hkey => ?_
  rw [h'.columns g' hg', mem_outputColumns] at hkey
  by_cases hgroup : key = groupBy
  · rw [hgroup, hsame]
  · obtain ⟨a, ha, rfl⟩ := hkey.resolve_left hgroup
    obtain ⟨name, -, hname⟩ := h.exists_name hg
    obtain ⟨n, hn, hget⟩ := h.values g hg name hname a ha hgroup
    obtain ⟨n', hn', hget'⟩ := h'.values g' hg' name (hsame ▸ hname) a ha hgroup
    obtain rfl := Except.ok.inj (hn.symm.trans hn')
    rw [hget, hget']

theorem unique (h : IsGrouping groupBy label aggregations rows out)
    (h' : IsGrouping groupBy label aggregations rows other) : out = other := by
  have hnames := h.names.trans h'.names.symm
  have hlength : out.length = other.length := by
    rw [← List.length_map (·.get groupBy), hnames, List.length_map]
  refine List.ext_getElem hlength fun i hi hi' => ?_
  have hget : (out.map (·.get groupBy))[i]? = (other.map (·.get groupBy))[i]? := congrArg (·[i]?) hnames
  refine h.eq_of_name_eq h' (List.getElem_mem hi) (List.getElem_mem hi') ?_
  simpa [hi, hi'] using hget

/-- What describes grouped rows also says that none of the aggregations fails. -/
theorem exists_aggregate (h : IsGrouping groupBy label aggregations rows out) :
    ∃ other, aggregate rows groupBy aggregations label = .ok other := by
  have htext : ∀ row ∈ rows, (row.get groupBy).HasText := fun row hrow => hasText_of_groupKey (h.named row hrow)
  cases hresult : aggregate rows groupBy aggregations label with
  | ok other => exact ⟨other, rfl⟩
  | error e =>
    obtain ⟨-, row, hrow, a, ha, hne, hoverflows⟩ := (aggregate_eq_error_iff htext).1 hresult
    obtain ⟨g, hg, hname⟩ := h.exists_row (mem_groupNames.2 ⟨row, hrow, rfl⟩)
    obtain ⟨n, hn, -⟩ := h.values g hg _ hname a ha hne
    have hfails := Function.reduce_eq_error_iff.2 ⟨rfl, hoverflows⟩
    cases hn.symm.trans hfails

end IsGrouping

end Rollup
