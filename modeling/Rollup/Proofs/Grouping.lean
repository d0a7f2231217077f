import Rollup.Proofs.Aggregation
import Rollup.Proofs.Except
import Rollup.Proofs.Filter
import Rollup.Proofs.Number.Sum
import Rollup.Proofs.Planning
import Mathlib.Data.List.Induction

/-!
# Groups and what fails in them

Grouping gives one group for each group name, in the order in which the names are first seen, with the
rows of that name in order (`groupRows_eq`). Where cells have text forms nothing but an overflow makes an
aggregation fail, and it does so exactly when one of its functions overflows on the numbers of some group
(`aggregate_eq_error_iff`).
-/

namespace Rollup

namespace Function

/-- The numbers that a function fails on: none, but for sums and means that overflow. -/
def Overflows (f : Function) (ns : List Number) : Prop :=
  match f with
  | sum => Number.SumOverflows ns
  | avg => Number.MeanOverflows ns
  | count | max | min => False

variable {e : ArithmeticError} {first : Number} {others : List Number}

theorem reduceNumbers_avg_eq_error_iff : avg.reduceNumbers first others = .error e ↔
    Number.MeanOverflows (first :: others) := by
  have havg : avg.reduceNumbers first others = (do
      return .double (← (← Number.sum (first :: others)).divNat (others.length + 1))) := rfl
  rw [havg]
  unfold Number.MeanOverflows
  cases hsum : Number.sum (first :: others) with
  | error e' =>
    cases e
    cases e'
    exact iff_of_true rfl (.inl (Number.sum_eq_error_iff.1 hsum))
  | ok total =>
    have hno : ¬ Number.SumOverflows (first :: others) := fun h => by
      rw [(Number.sum_eq_error_iff (e := .overflow)).2 h] at hsum
      cases hsum
    have hdiv : (do return Number.double (← total.divNat (others.length + 1)) :
        Except ArithmeticError Number) = .error e ↔ total.divNat (others.length + 1) = .error e := by
      cases total.divNat (others.length + 1) <;> simp [bind, Except.bind, pure, Except.pure]
    refine (hdiv.trans (Number.divNat_eq_error_iff _)).trans ?_
    rw [or_iff_right hno]
    constructor
    · rintro ⟨n, rfl, hn⟩
      rcases Number.ints_or_double (first :: others) with ⟨ints, hints⟩ | ⟨ints, x, rest, hsplit⟩
      · have hlength : others.length + 1 = ints.length := by
          rw [← List.length_map (f := Number.int), ← hints, List.length_cons]
        rw [hints, Number.sum_ints] at hsum
        obtain rfl := Number.int.inj (Except.ok.inj hsum)
        refine ⟨ints, ?_, hints, hlength ▸ hn⟩
        rintro rfl
        cases hints
      · rw [hsplit] at hsum
        rcases Number.sum_double ints x rest with ⟨y, hy, -⟩ | ⟨herror, -⟩
        · rw [hy] at hsum
          cases hsum
        · rw [herror] at hsum
          cases hsum
    · rintro ⟨ints, hne, hints, h⟩
      rw [hints, Number.sum_ints] at hsum
      obtain rfl := Except.ok.inj hsum
      have hlength : ints.length = others.length + 1 := by
        rw [← List.length_map (f := Number.int), ← hints, List.length_cons]
      exact ⟨_, rfl, hlength ▸ h⟩

theorem not_overflows_nil (f : Function) : ¬ f.Overflows [] := by
  have hsum : ¬ Number.SumOverflows [] := by
    rintro ⟨ints, x, rest, heq, -⟩
    simp at heq
  cases f with
  | sum => exact hsum
  | avg =>
    rintro (h | ⟨ints, hne, hints, -⟩)
    · exact hsum h
    · exact hne (List.map_eq_nil_iff.1 hints.symm)
  | _ => exact id

theorem reduceNumbers_eq_error_iff {f : Function} :
    f.reduceNumbers first others = .error e ↔ f.Overflows (first :: others) := by
  cases f with
  | sum => exact Number.sum_eq_error_iff
  | avg => exact reduceNumbers_avg_eq_error_iff
  | _ => exact iff_of_false nofun id

theorem reduce_no_numbers {f : Function} {cells : List Value} (hf : f ≠ count)
    (h : cells.filterMap Value.number? = []) : f.reduce cells = .ok (.int 0) := by
  cases f with
  | count => exact absurd rfl hf
  | _ => simp only [reduce, h]

theorem reduce_numbers {f : Function} {cells : List Value} (hf : f ≠ count)
    (h : cells.filterMap Value.number? = first :: others) :
    f.reduce cells = liftArithmetic (f.reduceNumbers first others) := by
  cases f with
  | count => exact absurd rfl hf
  | _ => simp only [reduce, h]

/-- Nothing but overflow makes a function fail on the cells of a group. -/
theorem reduce_eq_error_iff {f : Function} {cells : List Value} {e : EvaluationError} :
    f.reduce cells = .error e ↔ e = .overflow ∧ f.Overflows (cells.filterMap Value.number?) := by
  by_cases hcount : f = count
  · subst hcount
    exact iff_of_false nofun And.right
  · cases hnumbers : cells.filterMap Value.number? with
    | nil =>
      rw [reduce_no_numbers hcount hnumbers]
      exact iff_of_false nofun fun h => f.not_overflows_nil h.2
    | cons first others =>
      rw [reduce_numbers hcount hnumbers, ← reduceNumbers_eq_error_iff (e := .overflow)]
      cases f.reduceNumbers first others with
      | ok n => exact iff_of_false nofun fun h => nomatch h.2
      | error e' =>
        cases e'
        exact ⟨fun h => ⟨(Except.error.inj h).symm, rfl⟩, fun h => congrArg Except.error h.1.symm⟩

end Function

/-! ## Groups -/

/-- The name of the group that a cell belongs to, where it has one. -/
def Value.groupName (label : String) (v : Value) : String := ((groupKey label v).toOption).getD label

variable {groupBy label : String} {rows : List Row} {aggregations : List Aggregation}

theorem groupKey_eq {v : Value} (h : v.HasText) : groupKey label v = .ok (v.groupName label) := by
  obtain ⟨text, ht⟩ := Option.isSome_iff_exists.1 h
  have hform : v.textForm = .ok text := by simp [Value.textForm, ht]
  unfold Value.groupName
  cases v with
  | null => rfl
  | _ => simp only [groupKey, hform]; rfl

/-- The rows of a group name. -/
def membersOf (groupBy label : String) (rows : List Row) (name : String) : List Row :=
  rows.filter fun row => (row.get groupBy).groupName label = name

/-- The group names of rows, in the order in which they are first seen. -/
def groupNames (groupBy label : String) (rows : List Row) : List String :=
  distinct (rows.map fun row => (row.get groupBy).groupName label)

theorem mem_groupNames {name : String} : name ∈ groupNames groupBy label rows ↔
    ∃ row ∈ rows, (row.get groupBy).groupName label = name := by
  simp [groupNames, mem_distinct]

theorem nodup_groupNames : (groupNames groupBy label rows).Nodup := nodup_distinct _

/-- Adding a row to groups that are given by their names. -/
theorem Groups.insert_map (f : String → List Row) (name : String) (row : Row) {names : List String}
    (h : names.Nodup) : Groups.insert name row (names.map fun k => (k, f k)) =
      if name ∈ names then names.map fun k => (k, if k = name then f k ++ [row] else f k)
      else names.map (fun k => (k, f k)) ++ [(name, [row])] := by
  induction names with
  | nil => rfl
  | cons k names ih =>
    obtain ⟨hk, hnames⟩ := List.nodup_cons.1 h
    rw [List.map_cons, Groups.insert, ih hnames]
    by_cases hname : k = name
    · subst hname
      have hother : ∀ j ∈ names, (j, f j) = (j, if j = k then f j ++ [row] else f j) := fun j hj => by
        have hjk : j ≠ k := fun heq => hk (heq ▸ hj)
        rw [if_neg hjk]
      simp [List.map_congr_left hother]
    · by_cases hmem : name ∈ names
      · simp [hname, hmem]
      · simp [hname, hmem, Ne.symm hname]

theorem membersOf_append (before : List Row) (row : Row) (name : String) :
    membersOf groupBy label (before ++ [row]) name =
      if (row.get groupBy).groupName label = name then membersOf groupBy label before name ++ [row]
      else membersOf groupBy label before name := by
  unfold membersOf
  rw [List.filter_append]
  split_ifs with h <;> simp [h]

theorem groupNames_append (before : List Row) (row : Row) :
    groupNames groupBy label (before ++ [row]) =
      if (row.get groupBy).groupName label ∈ groupNames groupBy label before then
        groupNames groupBy label before
      else groupNames groupBy label before ++ [(row.get groupBy).groupName label] := by
  have hmem : (row.get groupBy).groupName label ∈ groupNames groupBy label before ↔ _ := mem_groupNames
  unfold groupNames at hmem ⊢
  rw [List.map_append, distinct_append]
  split_ifs with h
  · simpa [distinct] using hmem.1 h
  · simpa [distinct] using mt hmem.2 h

/-- One group for each name in the order of first sight, with the rows of the name in order. -/
theorem groupRows_eq (h : ∀ row ∈ rows, (row.get groupBy).HasText) :
    groupRows groupBy label rows = .ok ((groupNames groupBy label rows).map fun name =>
      (name, membersOf groupBy label rows name)) := by
  -- The groups of the rows so far are what the next row is added to.
  induction rows using List.reverseRecOn with
  | nil => rfl
  | append_singleton before row ih =>
    have hrow := h row (List.mem_append_right _ (List.mem_singleton_self row))
    have hbefore := ih fun r hr => h r (List.mem_append_left _ hr)
    rw [groupRows_eq_foldlM] at hbefore ⊢
    rw [List.foldlM_append, hbefore]
    show groupStep groupBy label _ row >>= pure = _
    rw [groupStep, groupKey_eq hrow]
    show Except.ok (Groups.insert _ row _) = _
    rw [Groups.insert_map _ _ _ nodup_groupNames, groupNames_append]
    refine congrArg Except.ok ?_
    split_ifs with hmem
    · refine List.map_congr_left fun name _ => ?_
      rw [membersOf_append]
      simp only [eq_comm]
    · rw [List.map_append, List.map_singleton, membersOf_append, if_pos rfl]
      have hempty : membersOf groupBy label before ((row.get groupBy).groupName label) = [] := by
        rw [membersOf, List.filter_eq_nil_iff]
        intro r hr
        have hne := fun heq => hmem (mem_groupNames.2 ⟨r, hr, heq⟩)
        simpa using hne
      rw [hempty, List.nil_append]
      refine congrArg (· ++ _) (List.map_congr_left fun name hname => ?_)
      have hne : (row.get groupBy).groupName label ≠ name := fun heq => hmem (heq ▸ hname)
      rw [membersOf_append, if_neg hne]

/-! ## Aggregations of a group -/

/-- No two aggregations have one output key. -/
theorem Aggregation.outputKey_inj {a b : Aggregation} (h : a.outputKey = b.outputKey) : a = b := by
  obtain ⟨f, field⟩ := a
  obtain ⟨g, other⟩ := b
  have hchars := congrArg String.toList h
  cases f <;> cases g <;>
    simp [outputKey, Function.name, String.toList_append] at hchars <;>
    simpa using String.toList_injective hchars

/-- The numbers that an aggregation finds in the rows of a group. -/
def Aggregation.numbers (a : Aggregation) (members : List Row) : List Number :=
  (members.map (·.get a.field)).filterMap Value.number?

variable {members : List Row} {out : Row} {a : Aggregation}

theorem keys_append (out : Row) (key : String) (v : Value) :
    Row.keys (out ++ [(key, v)]) = out.keys ++ [key] := List.map_append

/-- A row of a group fails by the first aggregation that overflows and whose column is not there. -/
theorem foldlM_aggregateStep_eq_error_iff {e : EvaluationError} :
    aggregations.foldlM (aggregateStep members) out = .error e ↔ e = .overflow ∧
      ∃ a ∈ aggregations, a.outputKey ∉ out.keys ∧ a.function.Overflows (a.numbers members) := by
  induction aggregations generalizing out with
  | nil => exact iff_of_false nofun (by simp)
  | cons a aggregations ih =>
    rw [List.foldlM_cons, aggregateStep]
    by_cases hkey : a.outputKey ∈ out.keys
    · rw [if_pos (List.contains_iff_mem.2 hkey)]
      refine ih.trans (and_congr_right fun _ => ?_)
      simp [hkey]
    · rw [if_neg (by simpa using hkey)]
      have hreduce (e : EvaluationError) :
          a.function.reduce (members.map (·.get a.field)) = .error e ↔
            e = .overflow ∧ a.function.Overflows (a.numbers members) := Function.reduce_eq_error_iff
      cases hnumber : a.function.reduce (members.map (·.get a.field)) with
      | error e' =>
        obtain ⟨rfl, hoverflows⟩ := (hreduce e').1 hnumber
        refine ⟨fun h => ⟨(Except.error.inj h).symm, a, List.mem_cons_self, hkey, hoverflows⟩, ?_⟩
        rintro ⟨rfl, -⟩
        rfl
      | ok n =>
        have hfine : ¬ a.function.Overflows (a.numbers members) := fun hoverflows => by
          rw [(hreduce .overflow).2 ⟨rfl, hoverflows⟩] at hnumber
          cases hnumber
        refine ih.trans (and_congr_right fun _ => ?_)
        rw [keys_append]
        constructor
        · rintro ⟨b, hb, hbkey, hoverflows⟩
          exact ⟨b, List.mem_cons_of_mem a hb, fun h => hbkey (List.mem_append_left _ h), hoverflows⟩
        · rintro ⟨b, hb, hbkey, hoverflows⟩
          -- An aggregation with the column just added is the one just computed.
          have hba : b ≠ a := fun heq => hfine (heq ▸ hoverflows)
          refine ⟨b, (List.mem_cons.1 hb).resolve_left hba, ?_, hoverflows⟩
          simpa [hbkey] using fun heq => hba (Aggregation.outputKey_inj heq)

/-- Whether an aggregation overflows in some group. A column that would have the key of the group is
not computed. -/
def AggregateOverflows (rows : List Row) (groupBy : String) (aggregations : List Aggregation)
    (label : String) : Prop :=
  ∃ row ∈ rows, ∃ a ∈ aggregations, a.outputKey ≠ groupBy ∧
    a.function.Overflows (a.numbers (membersOf groupBy label rows ((row.get groupBy).groupName label)))

/-- Where the cells to group by have text forms, aggregating fails only by an overflow. -/
theorem aggregate_eq_error_iff (h : ∀ row ∈ rows, (row.get groupBy).HasText) {e : EvaluationError} :
    aggregate rows groupBy aggregations label = .error e ↔
      e = .overflow ∧ AggregateOverflows rows groupBy aggregations label := by
  have hgroup (name : String) (e : EvaluationError) :
      aggregateGroup groupBy aggregations (name, membersOf groupBy label rows name) = .error e ↔
        e = .overflow ∧ ∃ a ∈ aggregations, a.outputKey ≠ groupBy ∧
          a.function.Overflows (a.numbers (membersOf groupBy label rows name)) := by
    rw [aggregateGroup, foldlM_aggregateStep_eq_error_iff]
    simp [Row.keys]
  have haggregate : aggregate rows groupBy aggregations label =
      ((groupNames groupBy label rows).map fun name =>
        (name, membersOf groupBy label rows name)).mapM (aggregateGroup groupBy aggregations) := by
    rw [aggregate, groupRows_eq h]
    rfl
  have honly : ∀ group ∈ (groupNames groupBy label rows).map (fun name =>
      (name, membersOf groupBy label rows name)), ∀ e',
      aggregateGroup groupBy aggregations group = .error e' → e' = .overflow := by
    rintro group hmem e' herror
    obtain ⟨name, -, rfl⟩ := List.mem_map.1 hmem
    exact ((hgroup name e').1 herror).1
  rw [haggregate, mapM_eq_error_iff honly]
  refine and_congr_right fun _ => ?_
  constructor
  · rintro ⟨group, hmem, herror⟩
    obtain ⟨name, hname, rfl⟩ := List.mem_map.1 hmem
    obtain ⟨row, hrow, rfl⟩ := mem_groupNames.1 hname
    exact ⟨row, hrow, ((hgroup _ .overflow).1 herror).2⟩
  · rintro ⟨row, hrow, hoverflows⟩
    exact ⟨_, List.mem_map_of_mem (mem_groupNames.2 ⟨row, hrow, rfl⟩),
      (hgroup _ .overflow).2 ⟨rfl, hoverflows⟩⟩

end Rollup
