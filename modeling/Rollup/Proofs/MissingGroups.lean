import Rollup.Proofs.GroupedRows

/-!
# Missing group values

Group values that are nothing or blank go under a label. The label is a group name like any other, so
groups are what they should be (`Groups.KeepsApart`) unless there are both a missing group value and one
that is there and spelled like the label (`groupRows_keepsApart_iff`).
-/

namespace Rollup
variable {groupBy label : String} {rows : List Row} {v w : Value} {text : String}

namespace Value

/-- Whether a value is missing where rows are grouped by it: nothing, or a text of blanks. -/
def isMissing (v : Value) : Bool := v.isNull || v.text?.any Text.isBlank

/-- Whether two values belong in one group: both are missing, or both are there with one text form. -/
def Alike (v w : Value) : Prop :=
  (v.isMissing ∧ w.isMissing) ∨ v.isMissing = false ∧ w.isMissing = false ∧ v.text? = w.text?

/-- Whether a value that is there is spelled like the label of missing ones. -/
def Poses (label : String) (v : Value) : Prop := v.isMissing = false ∧ v.text? = some label

theorem groupKey_of_text? (hnull : v.isNull = false) (h : v.text? = some text) :
    groupKey label v = .ok (if Text.isBlank text then label else text) := by
  have hform : v.textForm = .ok text := by simp [textForm, h]
  cases v with
  | null => cases hnull
  | _ =>
    simp only [groupKey, hform]
    rfl

theorem groupName_of_isMissing (h : v.isMissing) : v.groupName label = label := by
  by_cases hnull : v.isNull
  · cases v with
    | null => rfl
    | _ => cases hnull
  · obtain ⟨text, htext, hblank⟩ : ∃ text, v.text? = some text ∧ Text.isBlank text := by
      simpa [isMissing, hnull, Option.any_eq_true] using h
    rw [groupName, groupKey_of_text? (by simpa using hnull) htext, if_pos hblank]
    rfl

theorem text?_of_not_isMissing (label : String) (htext : v.HasText) (h : v.isMissing = false) :
    v.text? = some (v.groupName label) := by
  obtain ⟨text, htext⟩ := Option.isSome_iff_exists.1 htext
  obtain ⟨hnull, hblank⟩ : v.isNull = false ∧ Text.isBlank text = false := by
    simpa [isMissing, htext] using h
  rw [groupName, groupKey_of_text? hnull htext, htext, hblank]
  rfl

/-- Values of one group belong in it, but for one that is spelled like the label beside a missing one. -/
theorem groupName_eq_iff (hv : v.HasText) (hw : w.HasText) : v.groupName label = w.groupName label ↔
    v.Alike w ∨ v.isMissing ∧ w.Poses label ∨ v.Poses label ∧ w.isMissing := by
  -- Only a missing value and a present one can have the same name without being alike.
  cases hmv : v.isMissing <;> cases hmw : w.isMissing
  · rw [Alike, text?_of_not_isMissing label hv hmv, text?_of_not_isMissing label hw hmw]
    simp [hmv, hmw]
  · rw [groupName_of_isMissing hmw]
    simp [Alike, Poses, hmv, hmw, text?_of_not_isMissing label hv hmv]
  · rw [groupName_of_isMissing hmv]
    simp [Alike, Poses, hmv, hmw, text?_of_not_isMissing label hw hmw, eq_comm]
  · rw [groupName_of_isMissing hmv, groupName_of_isMissing hmw]
    simp [Alike, hmv, hmw]

end Value

/-! ## Groups -/

/-- Whether two rows are in one group. -/
def Groups.Join (groups : Groups) (r r' : Row) : Prop :=
  ∃ group ∈ groups, r ∈ group.2 ∧ r' ∈ group.2

/-- Rows are in one group where their group values belong together. So the missing ones, if there are any,
have a group of their own. -/
structure Groups.KeepsApart (groups : Groups) (groupBy : String) (rows : List Row) : Prop where
  join_iff : ∀ r ∈ rows, ∀ r' ∈ rows, groups.Join r r' ↔ (r.get groupBy).Alike (r'.get groupBy)
  missing : ∀ group ∈ groups, ∀ r ∈ group.2, (r.get groupBy).isMissing →
    group.2 = rows.filter fun row => (row.get groupBy).isMissing

/-- Whether a group value that is there is taken for a missing one, of which there are some. -/
def Collide (groupBy label : String) (rows : List Row) : Prop :=
  ∃ r ∈ rows, ∃ r' ∈ rows, (r.get groupBy).isMissing ∧ (r'.get groupBy).Poses label

theorem groupKey_eq_error {e : EvaluationError} (h : groupKey label v = .error e) :
    e = .noTextForm ∧ ¬ v.HasText := by
  by_cases htext : v.HasText
  · rw [groupKey_eq htext] at h
    cases h
  · have hnone : v.text? = none := by simpa [Value.HasText] using htext
    have hform : v.textForm = .error .noTextForm := by simp [Value.textForm, hnone]
    refine ⟨?_, htext⟩
    cases v with
    | null => cases hnone
    | _ =>
      simp only [groupKey, hform] at h
      exact (Except.error.inj h).symm

theorem foldlM_groupStep_eq_error {start : Groups} {e : EvaluationError}
    (h : rows.foldlM (groupStep groupBy label) start = .error e) :
    e = .noTextForm ∧ ∃ row ∈ rows, ¬ (row.get groupBy).HasText := by
  induction rows generalizing start with
  | nil => cases h
  | cons row rows ih =>
    rw [List.foldlM_cons, groupStep] at h
    cases hkey : groupKey label (row.get groupBy) with
    | error e' =>
      rw [hkey] at h
      obtain rfl := Except.error.inj h
      obtain ⟨rfl, hnone⟩ := groupKey_eq_error hkey
      exact ⟨rfl, row, List.mem_cons_self, hnone⟩
    | ok name =>
      rw [hkey] at h
      obtain ⟨rfl, r, hr, hnone⟩ := ih h
      exact ⟨rfl, r, List.mem_cons_of_mem row hr, hnone⟩

section
variable {r r' : Row}

theorem join_groupNames_iff (hr : r ∈ rows) (hr' : r' ∈ rows) :
    Groups.Join ((groupNames groupBy label rows).map fun name =>
        (name, membersOf groupBy label rows name)) r r' ↔
      (r.get groupBy).groupName label = (r'.get groupBy).groupName label := by
  constructor
  · rintro ⟨group, hgroup, hmem, hmem'⟩
    obtain ⟨name, -, rfl⟩ := List.mem_map.1 hgroup
    have hname := (List.mem_filter.1 hmem).2
    have hname' := (List.mem_filter.1 hmem').2
    simp only [decide_eq_true_eq] at hname hname'
    rw [hname, hname']
  · intro hsame
    refine ⟨_, List.mem_map_of_mem (mem_groupNames.2 ⟨r, hr, rfl⟩), ?_, ?_⟩
    · exact List.mem_filter.2 ⟨hr, by simp⟩
    · exact List.mem_filter.2 ⟨hr', by simp [hsame]⟩

/-- The group of the missing values has them all, and others only where these are spelled like its name. -/
theorem membersOf_label (htext : ∀ row ∈ rows, (row.get groupBy).HasText)
    (hposes : ∀ row ∈ rows, ¬ (row.get groupBy).Poses label) :
    membersOf groupBy label rows label = rows.filter fun row => (row.get groupBy).isMissing := by
  refine List.filter_congr fun row hrow => ?_
  cases hmissing : (row.get groupBy).isMissing with
  | true => simp [Value.groupName_of_isMissing hmissing]
  | false =>
    have hown := Value.text?_of_not_isMissing label (htext row hrow) hmissing
    have hne : (row.get groupBy).groupName label ≠ label := fun heq =>
      hposes row hrow ⟨hmissing, heq ▸ hown⟩
    simp [hne]

end

theorem keepsApart_groupNames_iff (htext : ∀ row ∈ rows, (row.get groupBy).HasText) :
    Groups.KeepsApart ((groupNames groupBy label rows).map fun name =>
      (name, membersOf groupBy label rows name)) groupBy rows ↔ ¬ Collide groupBy label rows := by
  constructor
  · rintro ⟨hjoin, -⟩ ⟨r, hr, r', hr', hmissing, hposes⟩
    have hname : (r.get groupBy).groupName label = (r'.get groupBy).groupName label :=
      (Value.groupName_eq_iff (htext r hr) (htext r' hr')).2 (.inr (.inl ⟨hmissing, hposes⟩))
    rcases (hjoin r hr r' hr').1 ((join_groupNames_iff hr hr').2 hname) with ⟨-, h⟩ | ⟨h, -⟩
    · exact absurd (h.symm.trans hposes.1) nofun
    · exact absurd (h.symm.trans hmissing) nofun
  · intro hcollide
    refine ⟨fun r hr r' hr' => ?_, ?_⟩
    · rw [join_groupNames_iff hr hr', Value.groupName_eq_iff (htext r hr) (htext r' hr')]
      refine or_iff_left ?_
      rintro (⟨hmissing, hposes⟩ | ⟨hposes, hmissing⟩)
      · exact hcollide ⟨r, hr, r', hr', hmissing, hposes⟩
      · exact hcollide ⟨r', hr', r, hr, hmissing, hposes⟩
    · rintro group hgroup r hmem hmissing
      obtain ⟨name, -, rfl⟩ := List.mem_map.1 hgroup
      obtain ⟨hr, hname⟩ := List.mem_filter.1 hmem
      -- A group with one missing value goes by the label, so it has all of them.
      obtain rfl : label = name := by
        simpa [Value.groupName_of_isMissing hmissing] using hname
      exact membersOf_label htext fun r' hr' hposes => hcollide ⟨r, hr, r', hr', hmissing, hposes⟩

/-- Rows are grouped, unless a group value has no text form, and each group is one row of the result. The
groups are what they should be exactly where no group value that is there is spelled like the label of
missing ones that are there, too. -/
theorem groupRows_keepsApart_iff (rows : List Row) (groupBy label : String)
    (aggregations : List Aggregation) :
    (∃ groups, groupRows groupBy label rows = .ok groups ∧
      aggregate rows groupBy aggregations label = groups.mapM (aggregateGroup groupBy aggregations) ∧
      (groups.KeepsApart groupBy rows ↔ ¬ Collide groupBy label rows)) ∨
    aggregate rows groupBy aggregations label = .error .noTextForm ∧
      ∃ row ∈ rows, ¬ (row.get groupBy).HasText := by
  cases hgroups : groupRows groupBy label rows with
  | error e =>
    obtain ⟨rfl, hnone⟩ := foldlM_groupStep_eq_error (groupRows_eq_foldlM rows ▸ hgroups)
    refine .inr ⟨?_, hnone⟩
    rw [aggregate, hgroups]
    rfl
  | ok groups =>
    have htext := hasText_of_foldlM_groupStep (groupRows_eq_foldlM rows ▸ hgroups)
    obtain rfl := Except.ok.inj ((groupRows_eq htext).symm.trans hgroups)
    refine .inl ⟨_, rfl, ?_, keepsApart_groupNames_iff htext⟩
    rw [aggregate, hgroups]
    rfl

/-! ### An owner whose name is the label -/

def ownedDeals : List Row :=
  [[("owner", .text "Unknown"), ("amount", .int 5)], [("owner", .null), ("amount", .int 700)],
   [("amount", .int 30)]]

/-- A deal of the owner `Unknown` is counted among those that have no owner. -/
theorem deals_join_unknown :
    ∃ groups, groupRows "owner" unknownGroup ownedDeals = .ok groups ∧
      aggregate ownedDeals "owner" [⟨.count, "amount"⟩] unknownGroup =
        .ok [[("owner", .text "Unknown"), ("count_amount", .int 3)]] ∧
      ¬ Value.Alike (.text "Unknown") .null ∧
      groups.Join [("owner", .text "Unknown"), ("amount", .int 5)]
        [("owner", .null), ("amount", .int 700)] := by
  have halike : ¬ Value.Alike (.text "Unknown") .null := by
    rintro (⟨h, -⟩ | ⟨-, h, -⟩)
    · exact absurd h (by decide)
    · exact absurd h (by decide)
  refine ⟨_, rfl, rfl, halike, ("Unknown", ownedDeals), List.mem_singleton_self _, ?_, ?_⟩
  · exact List.mem_cons_self
  · exact List.mem_cons_of_mem _ List.mem_cons_self

end Rollup
