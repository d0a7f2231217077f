import Rollup.Proofs.GroupedRows
import Rollup.Proofs.Number.Order
import Rollup.Proofs.Number.Whole
import Mathlib.Data.List.ReduceOption

/-!
# Aggregates of whole numbers

Whole numbers are aggregated exactly, however large they are and however they are spelled, and in any order:
the sum is the sum of the integers, the maximum the greatest and the minimum the least of them, and what is no
number is skipped (`Value.Whole`). So the sums of groups add up to the sum of all rows, as the counts do
(`reduce_whole`).
-/

namespace Rollup

/-! ## Whole numbers -/

/-- A cell with a whole number, or with none: nothing, a truth value, a text that is no numeral, an integer
or a text that spells one. -/
inductive Value.Whole : Value → Option Int → Prop
  | null : Whole .null none
  | bool (b : Bool) : Whole (.bool b) none
  | words {s : String} (h : Number.ofText? s = none) : Whole (.text s) none
  | int (n : Int) : Whole (.int n) (some n)
  | spelled {s : String} {n : Int} (h : Numeral.Spells s n) : Whole (.text s) (some n)

theorem Value.Whole.number?_eq {v : Value} {n? : Option Int} (h : v.Whole n?) : v.number? = n?.map .int := by
  cases h with
  | words h => exact h
  | spelled h => exact Number.ofText?_eq_int_iff.2 h
  | _ => rfl

variable {cells cells' : List Value} {values : List (Option Int)} {ints : List Int}

theorem filterMap_number?_of_whole (h : List.Forall₂ Value.Whole cells values) :
    cells.filterMap Value.number? = values.reduceOption.map Number.int := by
  induction h with
  | nil => rfl
  | @cons v n? cells values hv _ ih =>
    rw [List.filterMap_cons, hv.number?_eq]
    cases n? with
    | none => exact ih
    | some n => exact congrArg (Number.int n :: ·) ih

theorem exists_forall₂_whole (h : ∀ v ∈ cells, ∃ n?, v.Whole n?) :
    ∃ values, List.Forall₂ Value.Whole cells values := by
  induction cells with
  | nil => exact ⟨[], .nil⟩
  | cons v cells ih =>
    obtain ⟨⟨n?, hv⟩, hcells⟩ := List.forall_mem_cons.1 h
    obtain ⟨values, hvalues⟩ := ih hcells
    exact ⟨n? :: values, .cons hv hvalues⟩

/-- What a cell adds to a sum of whole numbers. -/
def Value.summand (v : Value) : Int :=
  match v.number? with
  | some (.int n) => n
  | _ => 0

theorem sum_summand (h : List.Forall₂ Value.Whole cells values) :
    (cells.map Value.summand).sum = values.reduceOption.sum := by
  induction h with
  | nil => rfl
  | @cons v n? cells values hv _ ih =>
    rw [List.map_cons, List.sum_cons, ih, Value.summand, hv.number?_eq]
    cases n? with
    | none => exact Int.zero_add _
    | some n => exact List.sum_cons.symm

/-! ## Aggregates -/

namespace Number

theorem compare_int (m n : Int) : (int m).compare (int n) = Ord.compare m n := by
  have hm : (int m).value? = some (m : ℚ) := rfl
  have hn : (int n).value? = some (n : ℚ) := rfl
  rw [compare_eq hm hn]
  rcases lt_trichotomy m n with h | rfl | h
  · rw [compare_lt_iff_lt.2 h, compare_lt_iff_lt.2 (Int.cast_lt.2 h)]
  · rw [compare_eq_iff_eq.2 rfl, compare_eq_iff_eq.2 rfl]
  · rw [compare_gt_iff_gt.2 h, compare_gt_iff_gt.2 (Int.cast_lt.2 h)]

/-- The first of the best of integers, where a better one is told by its order. -/
theorem foldl_ints {o : Ordering} {choose : Int → Int → Int}
    (h : ∀ best n, (if Ord.compare n best = o then n else best) = choose best n) (first : Int)
    (others : List Int) : (others.map int).foldl (fun best n => if n.compare best = o then n else best)
      (int first) = int (others.foldl choose first) := by
  induction others generalizing first with
  | nil => rfl
  | cons n others ih =>
    rw [List.map_cons, List.foldl_cons, List.foldl_cons, compare_int, ← apply_ite int, h, ih]

theorem maximum_ints (first : Int) (others : List Int) :
    maximum (int first) (others.map int) = int (others.foldl max first) := by
  refine foldl_ints (fun best n => ?_) first others
  split_ifs with h
  · exact (max_eq_right (compare_gt_iff_gt.1 h).le).symm
  · exact (max_eq_left (not_lt.1 (mt compare_gt_iff_gt.2 h))).symm

theorem minimum_ints (first : Int) (others : List Int) :
    minimum (int first) (others.map int) = int (others.foldl min first) := by
  refine foldl_ints (fun best n => ?_) first others
  split_ifs with h
  · exact (min_eq_right (compare_lt_iff_lt.1 h).le).symm
  · exact (min_eq_left (not_lt.1 (mt compare_lt_iff_lt.2 h))).symm

end Number

namespace Function

/-- What a function makes of cells, given how many they are and the integers among them. -/
def reduceInts (f : Function) (size : Nat) (ints : List Int) : Except EvaluationError Number :=
  match f with
  | count => .ok (.int size)
  | sum => .ok (.int ints.sum)
  | avg =>
    if ints = [] then .ok (.int 0)
    else liftArithmetic (((Number.int ints.sum).divNat ints.length).map Number.double)
  | max => .ok (.int (ints.max?.getD 0))
  | min => .ok (.int (ints.min?.getD 0))

theorem reduceNumbers_avg {first total : Number} {others : List Number}
    (h : Number.sum (first :: others) = .ok total) :
    avg.reduceNumbers first others = (total.divNat (others.length + 1)).map Number.double := by
  rw [reduceNumbers, h]
  show (do return Number.double (← total.divNat (others.length + 1))) = _
  cases total.divNat (others.length + 1) <;> rfl

theorem reduceNumbers_ints (f : Function) (first : Int) (others : List Int) :
    liftArithmetic (f.reduceNumbers (.int first) (others.map Number.int)) =
      f.reduceInts (others.length + 1) (first :: others) := by
  have hsum := Number.sum_ints (first :: others)
  rw [List.map_cons] at hsum
  cases f with
  | count =>
    rw [reduceNumbers, List.length_map]
    rfl
  | sum =>
    rw [reduceNumbers, hsum]
    rfl
  | avg =>
    rw [reduceNumbers_avg hsum, List.length_map, reduceInts, if_neg (List.cons_ne_nil first others),
      List.length_cons]
  | max =>
    rw [reduceNumbers, Number.maximum_ints, reduceInts, List.max?_cons']
    rfl
  | min =>
    rw [reduceNumbers, Number.minimum_ints, reduceInts, List.min?_cons']
    rfl

theorem reduce_ints (f : Function) (h : cells.filterMap Value.number? = ints.map Number.int) :
    f.reduce cells = f.reduceInts cells.length ints := by
  by_cases hcount : f = count
  · subst hcount
    rfl
  · cases ints with
    | nil =>
      rw [reduce_no_numbers hcount h]
      cases f with
      | count => exact absurd rfl hcount
      | _ => rfl
    | cons first others =>
      rw [reduce_numbers hcount h, reduceNumbers_ints]
      cases f with
      | count => exact absurd rfl hcount
      | _ => rfl

theorem reduceInts_perm (f : Function) (size : Nat) {ints' : List Int} (h : ints'.Perm ints) :
    f.reduceInts size ints' = f.reduceInts size ints := by
  have hnil : ints' = [] ↔ ints = [] := ⟨fun hnil => (hnil ▸ h).nil_eq.symm, fun hnil => (hnil ▸ h).eq_nil⟩
  cases f with
  | count => rfl
  | sum => rw [reduceInts, reduceInts, h.sum_eq]
  | avg =>
    rw [reduceInts, reduceInts, h.sum_eq, h.length_eq]
    simp only [hnil]
  | max =>
    have hmax : ints'.max? = ints.max? := Option.ext fun m => by
      simp only [List.max?_eq_some_iff, h.mem_iff]
    rw [reduceInts, reduceInts, hmax]
  | min =>
    have hmin : ints'.min? = ints.min? := Option.ext fun m => by
      simp only [List.min?_eq_some_iff, h.mem_iff]
    rw [reduceInts, reduceInts, hmin]

theorem reduce_perm (f : Function) (h : List.Forall₂ Value.Whole cells values) (hperm : cells'.Perm cells) :
    f.reduce cells' = f.reduce cells := by
  obtain ⟨values', h', hvalues⟩ := List.perm_comp_forall₂ hperm h
  have hints : values'.reduceOption.Perm values.reduceOption := hvalues.filterMap id
  rw [f.reduce_ints (filterMap_number?_of_whole h'), f.reduce_ints (filterMap_number?_of_whole h),
    hperm.length_eq, f.reduceInts_perm _ hints]

theorem reduce_count_eq (cells : List Value) :
    count.reduce cells = .ok (.int (cells.map fun _ => (1 : Int)).sum) := by
  rw [List.map_const', List.sum_replicate, nsmul_eq_mul, mul_one]
  rfl

theorem reduce_sum_eq (h : List.Forall₂ Value.Whole cells values) :
    sum.reduce cells = .ok (.int (cells.map Value.summand).sum) := by
  rw [sum.reduce_ints (filterMap_number?_of_whole h), sum_summand h]
  rfl

end Function

/-! ## Groups -/

section Groups
variable {groupBy label : String} {rows out : List Row}
variable {aggregations : List Aggregation} {a : Aggregation}

/-- Where the columns of a function over the groups add up to the function over all rows. -/
def Aggregation.AddsUp (a : Aggregation) (out rows : List Row) : Prop :=
  ∃ parts : List Int, out.map (·.get a.outputKey) = parts.map Value.int ∧
    a.function.reduce (rows.map (·.get a.field)) = .ok (.int parts.sum)

/-- The weights of the members of all groups are those of the rows. -/
theorem sum_membersOf (weight : Row → Int) (rows : List Row) :
    ((groupNames groupBy label rows).map fun name =>
      ((membersOf groupBy label rows name).map weight).sum).sum = (rows.map weight).sum := by
  have hperm := ((partition_membersOf groupBy label rows).map weight).sum_eq
  rw [← hperm, List.map_flatMap, List.flatMap_def, List.sum_flatten, List.map_map]
  rfl

/-- A function that adds weights adds up over the groups. -/
theorem Aggregation.addsUp (weight : Value → Int) (h : aggregate rows groupBy aggregations label = .ok out)
    (ha : a ∈ aggregations) (hne : a.outputKey ≠ groupBy)
    (hweight : ∀ members ⊆ rows, a.function.reduce (members.map (·.get a.field)) =
      .ok (.int ((members.map (·.get a.field)).map weight).sum)) : a.AddsUp out rows := by
  obtain ⟨-, hall⟩ := forall₂_of_aggregate h
  refine ⟨(groupNames groupBy label rows).map fun name =>
    ((membersOf groupBy label rows name).map fun row => weight (row.get a.field)).sum, ?_, ?_⟩
  · rw [List.map_map]
    refine map_eq_of_forall₂ (hall.imp fun name g hgroup => ?_)
    obtain ⟨n, hn, hget⟩ := hgroup.added a ha (by simpa [Row.keys] using hne)
    have hmembers : membersOf groupBy label rows name ⊆ rows := List.filter_sublist.subset
    rw [hweight _ hmembers, Except.ok.injEq, List.map_map] at hn
    rw [hget, ← hn]
    rfl
  · rw [sum_membersOf, hweight rows (List.Subset.refl rows), List.map_map]
    rfl

theorem exists_whole_members {field : String} {members : List Row} (hmembers : members ⊆ rows)
    (h : ∀ row ∈ rows, ∃ n?, (row.get field).Whole n?) :
    ∃ values, List.Forall₂ Value.Whole (members.map (·.get field)) values := by
  refine exists_forall₂_whole fun v hv => ?_
  obtain ⟨row, hrow, rfl⟩ := List.mem_map.1 hv
  exact h row (hmembers hrow)

theorem Aggregation.addsUp_of_whole (h : aggregate rows groupBy aggregations label = .ok out)
    (ha : a ∈ aggregations) (hne : a.outputKey ≠ groupBy) (hf : a.function = .sum ∨ a.function = .count)
    (hwhole : ∀ row ∈ rows, ∃ n?, (row.get a.field).Whole n?) : a.AddsUp out rows := by
  rcases hf with hsum | hcount
  · refine Aggregation.addsUp Value.summand h ha hne fun members hmembers => ?_
    obtain ⟨values, hvalues⟩ := exists_whole_members hmembers hwhole
    rw [hsum, Function.reduce_sum_eq hvalues]
  · refine Aggregation.addsUp (fun _ => 1) h ha hne fun members _ => ?_
    rw [hcount, Function.reduce_count_eq]

/-- Aggregations of whole numbers that are no means never overflow. -/
theorem exists_aggregate_of_whole (htext : ∀ row ∈ rows, (row.get groupBy).HasText)
    (h : ∀ a ∈ aggregations, a.function ≠ .avg ∧ ∀ row ∈ rows, ∃ n?, (row.get a.field).Whole n?) :
    ∃ out, aggregate rows groupBy aggregations label = .ok out := by
  cases hresult : aggregate rows groupBy aggregations label with
  | ok out => exact ⟨out, rfl⟩
  | error e =>
    obtain ⟨-, row, hrow, a, ha, -, hoverflows⟩ := (aggregate_eq_error_iff htext).1 hresult
    obtain ⟨havg, hwhole⟩ := h a ha
    have hmembers : membersOf groupBy label rows ((row.get groupBy).groupName label) ⊆ rows :=
      List.filter_sublist.subset
    obtain ⟨values, hvalues⟩ := exists_whole_members hmembers hwhole
    have herror := Function.reduce_eq_error_iff.2 ⟨rfl, hoverflows⟩
    rw [a.function.reduce_ints (filterMap_number?_of_whole hvalues)] at herror
    cases hf : a.function with
    | avg => exact absurd hf havg
    | _ =>
      rw [hf] at herror
      cases herror

end Groups

/-- Whole numbers are aggregated exactly and in any order, and their sums and counts over groups add up to
those over all rows. -/
theorem reduce_whole (h : List.Forall₂ Value.Whole cells values) :
    Function.sum.reduce cells = .ok (.int values.reduceOption.sum) ∧
    Function.max.reduce cells = .ok (.int (values.reduceOption.max?.getD 0)) ∧
    Function.min.reduce cells = .ok (.int (values.reduceOption.min?.getD 0)) ∧
    Function.count.reduce cells = .ok (.int cells.length) ∧
    (∀ (f : Function) (cells' : List Value), cells'.Perm cells → f.reduce cells' = f.reduce cells) ∧
    ∀ (rows rows' : List Row) (groupBy label field : String) (aggregations : List Aggregation),
      rows.map (·.get field) = cells → rows'.Perm rows →
      ((∀ row ∈ rows, (row.get groupBy).HasText) →
        (∀ a ∈ aggregations, a.field = field ∧ a.function ≠ .avg) →
        ∃ out, aggregate rows' groupBy aggregations label = .ok out) ∧
      ∀ out, aggregate rows' groupBy aggregations label = .ok out →
        ∀ a ∈ aggregations, a.field = field → a.function = .sum ∨ a.function = .count →
          a.outputKey ≠ groupBy → a.AddsUp out rows := by
  have hints := filterMap_number?_of_whole h
  refine ⟨Function.sum.reduce_ints hints, Function.max.reduce_ints hints, Function.min.reduce_ints hints, rfl,
    fun f cells' hperm => f.reduce_perm h hperm, ?_⟩
  rintro rows rows' groupBy label field aggregations rfl hperm
  have hwhole : ∀ row ∈ rows', ∃ n?, (row.get field).Whole n? := fun row hrow => by
    obtain ⟨n?, -, hn⟩ := exists_of_forall₂_right h.flip (List.mem_map_of_mem (hperm.subset hrow))
    exact ⟨n?, hn⟩
  refine ⟨fun htext haggregations => ?_, fun out hout a ha hfield hf hne => ?_⟩
  · refine exists_aggregate_of_whole (fun row hrow => htext row (hperm.subset hrow)) fun a ha => ?_
    obtain ⟨rfl, havg⟩ := haggregations a ha
    exact ⟨havg, hwhole⟩
  · subst hfield
    obtain ⟨parts, hparts, htotal⟩ := a.addsUp_of_whole hout ha hne hf hwhole
    have hsame := a.function.reduce_perm h (hperm.map fun row => row.get a.field)
    exact ⟨parts, hparts, hsame ▸ htotal⟩

/-! ### Amounts in several spellings -/

def amounts : List Value :=
  [.null, .text " -1_000 ", .text "n/a", .int 9007199254740993, .bool true, .text "٤٢"]

def teamRows : List Row :=
  (["red", "blue", "red", "blue", "red", "red"].zip amounts).map fun (team, amount) =>
    [("team", .text team), ("amount", amount)]

theorem amounts_whole : List.Forall₂ Value.Whole amounts
    [none, some (-1000), none, some 9007199254740993, none, some 42] := by
  have hthousand : Numeral.Spells " -1_000 " (-1000) := Number.ofText?_eq_int_iff.1 (by decide +kernel)
  have harabic : Numeral.Spells "٤٢" 42 := Number.ofText?_eq_int_iff.1 (by decide +kernel)
  have hwords : Number.ofText? "n/a" = none := by decide +kernel
  exact .cons .null (.cons (.spelled hthousand) (.cons (.words hwords) (.cons (.int _) (.cons (.bool _)
    (.cons (.spelled harabic) .nil)))))

theorem teamRows_add_up : Function.sum.reduce amounts = .ok (.int 9007199254740035) ∧
    Function.max.reduce amounts.reverse = .ok (.int 9007199254740993) ∧
    ∃ out, aggregate teamRows.reverse "team" [⟨.sum, "amount"⟩, ⟨.count, "amount"⟩] unknownGroup = .ok out ∧
      Aggregation.AddsUp ⟨.sum, "amount"⟩ out teamRows ∧
      Aggregation.AddsUp ⟨.count, "amount"⟩ out teamRows := by
  obtain ⟨hsum, hmax, -, -, hperm, hgroups⟩ := reduce_whole amounts_whole
  have htext : ∀ row ∈ teamRows, (row.get "team").HasText := by decide +kernel
  obtain ⟨hexists, hadd⟩ := hgroups teamRows teamRows.reverse "team" unknownGroup "amount"
    [⟨.sum, "amount"⟩, ⟨.count, "amount"⟩] rfl teamRows.reverse_perm
  obtain ⟨out, hout⟩ := hexists htext (by simp)
  exact ⟨hsum, (hperm .max _ amounts.reverse_perm).trans hmax, out, hout,
    hadd out hout _ (by simp) rfl (.inl rfl) (by decide),
    hadd out hout _ (by simp) rfl (.inr rfl) (by decide)⟩

end Rollup
