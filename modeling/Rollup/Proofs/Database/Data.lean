import Rollup.Proofs.Database.Reports
import Rollup.Proofs.Number.Order
import Rollup.Proofs.Pushdown

/-!
# Tables made from data

A table made from rows of data takes the type of each column from the first value that is there, and all
values of the column are cast to it. Columns of one kind of values are fetched as they were given, but for
numbers where that first one decides: an integer makes a column that rounds fractions, a double one that
rounds large integers (`Loses`). These are all losses there are (`Database.createFromData_keeps_iff`).
-/

namespace Rollup

namespace Double
variable {x : Double} {n : Int}

theorem value?_eq_int_iff : x.value? = some (n : ℚ) ↔ x.signedUnits? = some (n * unitsPerOne) := by
  have hone : (unitsPerOne : ℚ) ≠ 0 := Nat.cast_ne_zero.2 unitsPerOne_pos.ne'
  cases x with
  | finite negative units representable =>
    simp only [value?, signedUnits?, Option.some.injEq, div_eq_iff hone]
    exact_mod_cast Iff.rfl
  | _ => exact iff_of_false nofun nofun

theorem natAbs_signed (negative : Bool) (units : Nat) : (signed negative units).natAbs = units := by
  unfold signed
  split <;> omega

theorem signed_mul (negative : Bool) (a b : Nat) : signed negative (a * b) = signed negative a * b := by
  unfold signed
  split <;> simp

theorem wholeOfDouble?_of_value? (h : x.value? = some (n : ℚ)) : Cast.wholeOfDouble? x = some n := by
  rw [value?_eq_int_iff] at h
  cases x with
  | finite negative units representable =>
    have hunits : signed negative units = n * unitsPerOne := Option.some.inj h
    have hdvd : unitsPerOne ∣ units := by
      refine ⟨n.natAbs, ?_⟩
      rw [← natAbs_signed negative units, hunits, Int.natAbs_mul, Int.natAbs_natCast, Nat.mul_comm]
    have hround : signed negative (roundQuotient units unitsPerOne) * unitsPerOne = n * unitsPerOne := by
      rw [← signed_mul, roundQuotient_mul_of_dvd unitsPerOne_pos hdvd, hunits]
    exact congrArg some (Int.eq_of_mul_eq_mul_right (Int.natCast_ne_zero.2 unitsPerOne_pos.ne') hround)
  | _ => cases h

/-- Where an integer is the value of a double, that is the one nearest to it. -/
theorem value?_ofInt (h : x.value? = some (n : ℚ)) : (ofInt n).value? = some (n : ℚ) := by
  rw [value?_eq_int_iff] at h ⊢
  cases x with
  | finite negative units representable =>
    have hunits : units = n.natAbs * unitsPerOne := by
      rw [← natAbs_signed negative units, Option.some.inj h, Int.natAbs_mul, Int.natAbs_natCast]
    have hround : roundUnits (n.natAbs * unitsPerOne) 1 = units := by
      rw [← hunits, roundUnits_of_representable representable]
    have hof : ofInt n = finite (n < 0) units representable := by
      rw [ofInt, ofFraction, round, hround, ofUnits, dif_pos representable]
    have hsign : signed (n < 0) n.natAbs = n := by
      by_cases hn : n < 0
      · simp only [signed, hn, decide_true, if_true]
        omega
      · simp only [signed, hn, decide_false, Bool.false_eq_true, if_false]
        omega
    rw [hof, signedUnits?, hunits, signed_mul, hsign]
  | _ => cases h

end Double

/-! ## Kinds of values -/

inductive CellKind
  | number
  | text
  | truth
  | date
  | timestamp

/-- The cells of a kind: nothing is of every kind. Integers have 64 bits, doubles are finite and timestamps
have no offset. -/
inductive CellKind.Has : CellKind → Value → Prop
  | null (kind : CellKind) : Has kind .null
  | int {n : Int} (h : Cast.isLong n) : Has .number (.int n)
  | double {x : Double} (h : x.isFinite) : Has .number (.double x)
  | text (s : String) : Has .text (.text s)
  | truth (b : Bool) : Has .truth (.bool b)
  | date (d : Date) : Has .date (.date d)
  | timestamp {t : Timestamp} (h : t.offset? = none) : Has .timestamp (.timestamp t)

/-- Whether the values of a column are of one kind. -/
def Homogeneous (column : List Value) : Prop := ∃ kind : CellKind, ∀ v ∈ column, kind.Has v

/-- Whether a cell is as good as another: the same, or a number of the same value. -/
inductive Value.Keeps : Value → Value → Prop
  | same (v : Value) : Keeps v v
  | number {a b : Number} {x : ℚ} (ha : a.value? = some x) (hb : b.value? = some x) :
    Keeps a.toValue b.toValue

/-- Whether a column of numbers has one that its first number leaves no place for. -/
inductive Loses (column : List Value) : Prop
  /-- An integer comes first, and a double is no integer of 64 bits. -/
  | fraction {n : Int} {x : Double} (hfirst : column.find? (fun v => !v.isNull) = some (.int n))
    (hmem : .double x ∈ column) (h : ∀ m : Int, Cast.isLong m → x.value? ≠ some (m : ℚ))
  /-- A double comes first, and an integer is no double. -/
  | precision {x : Double} {n : Int} (hfirst : column.find? (fun v => !v.isNull) = some (.double x))
    (hmem : .int n ∈ column) (h : ∀ y : Double, y.value? ≠ some (n : ℚ))

variable {column : List Value} {kind : CellKind} {u v w : Value}

theorem Value.Keeps.value?_eq {a b : Number} (h : Keeps a.toValue b.toValue) : a.value? = b.value? := by
  have hinj {c d : Number} (h : c.toValue = d.toValue) : c = d := by
    cases c <;> cases d <;> cases h <;> rfl
  generalize hv : a.toValue = v at h
  generalize hw : b.toValue = w at h
  cases h with
  | same => rw [hinj (hv.trans hw.symm)]
  | number ha hb => rw [hinj hv, hinj hw, ha, hb]

namespace Cast

/-- Whether a value is kept in a column of a type. -/
def Kept (type : ColumnType) (v : Value) : Prop := ∃ w, convert type v = .ok w ∧ v.Keeps w

theorem kept_null (type : ColumnType) : Kept type .null := ⟨.null, rfl, .same _⟩

theorem kept_double_in_bigint {x : Double} :
    Kept .bigint (.double x) ↔ ∃ n : Int, isLong n ∧ x.value? = some (n : ℚ) := by
  constructor
  · rintro ⟨w, hw, hkeeps⟩
    have hconvert : toBigint? (.double x) = some w := by
      unfold convert convert? at hw
      cases h : toBigint? (.double x) <;> simp_all [Value.isNull]
    obtain ⟨n, -, hn⟩ := Option.bind_eq_some_iff.1 hconvert
    split_ifs at hn with hlong
    obtain rfl := Option.some.inj hn
    exact ⟨n, hlong, Value.Keeps.value?_eq (a := .double x) (b := .int n) hkeeps⟩
  · rintro ⟨n, hlong, hvalue⟩
    refine ⟨.int n, ?_, .number (a := .double x) (b := .int n) hvalue rfl⟩
    simp [convert, convert?, toBigint?, Value.isNull, Double.wholeOfDouble?_of_value? hvalue, hlong]

theorem kept_int_in_double {n : Int} :
    Kept .double (.int n) ↔ ∃ x : Double, x.value? = some (n : ℚ) := by
  have hconvert : convert .double (.int n) = .ok (.double (Double.ofInt n)) := rfl
  have hnearest : ∀ x : Double, x.value? = some (n : ℚ) → (Double.ofInt n).value? = some (n : ℚ) :=
    fun x hx => Double.value?_ofInt hx
  generalize Double.ofInt n = y at hconvert hnearest
  constructor
  · rintro ⟨w, hw, hkeeps⟩
    obtain rfl := Except.ok.inj (hconvert.symm.trans hw)
    exact ⟨y, (Value.Keeps.value?_eq (a := .int n) (b := .double y) hkeeps).symm⟩
  · rintro ⟨x, hvalue⟩
    exact ⟨_, hconvert, .number (a := .int n) (b := .double y) rfl (hnearest x hvalue)⟩

/-- Values of the same kind fit the type of each other, unless an integer meets a double. -/
theorem kept_ofValue (hu : kind.Has u) (hv : kind.Has v) (hthere : u.isNull = false)
    (hmixed : ∀ (n : Int) (x : Double), ¬ (u = .int n ∧ v = .double x) ∧ ¬ (u = .double x ∧ v = .int n)) :
    Kept (.ofValue u) v := by
  cases hu with
  | null => cases hthere
  | int =>
    cases hv with
    | null => exact kept_null _
    | int h => exact ⟨_, by simp [convert, convert?, toBigint?, ColumnType.ofValue, Value.isNull, h], .same _⟩
    | double => exact absurd ⟨rfl, rfl⟩ (hmixed _ _).1
  | double =>
    cases hv with
    | null => exact kept_null _
    | int => exact absurd ⟨rfl, rfl⟩ (hmixed _ _).2
    | double => exact ⟨_, rfl, .same _⟩
  | text =>
    cases hv with
    | null => exact kept_null _
    | text s =>
      refine ⟨.text s, ?_, .same _⟩
      exact congrArg (fun s => Except.ok (Value.text s)) (Value.Plain.cast_text s)
  | timestamp =>
    cases hv with
    | null => exact kept_null _
    | timestamp h =>
      exact ⟨_, by simp [convert, convert?, toTimestamp?, ColumnType.ofValue, Value.isNull, h], .same _⟩
  | _ =>
    cases hv with
    | null => exact kept_null _
    | _ => exact ⟨_, rfl, .same _⟩

/-- A column of one kind of values is kept in the type that is taken from it exactly if no number is lost. -/
theorem kept_iff (hcolumn : Homogeneous column) :
    (∀ v ∈ column, Kept (.infer column) v) ↔ ¬ Loses column := by
  obtain ⟨kind, hkind⟩ := hcolumn
  cases hfirst : column.find? (fun v => !v.isNull) with
  | none =>
    refine iff_of_true (fun v hv => ?_) fun hloses => ?_
    · have hnull : v.isNull = true := by simpa using List.find?_eq_none.1 hfirst v hv
      cases v with
      | null => exact kept_null _
      | _ => cases hnull
    · cases hloses <;> simp_all
  | some u =>
    have hu : kind.Has u := hkind u (List.mem_of_find?_eq_some hfirst)
    have hthere : u.isNull = false := by simpa using List.find?_some hfirst
    have hinfer : ColumnType.infer column = .ofValue u := by rw [ColumnType.infer, hfirst]
    rw [hinfer]
    constructor
    · intro hkept hloses
      cases hloses with
      | fraction hint hmem hnone =>
        obtain rfl := Option.some.inj (hfirst.symm.trans hint)
        obtain ⟨m, hlong, hvalue⟩ := kept_double_in_bigint.1 (hkept _ hmem)
        exact hnone m hlong hvalue
      | precision hdouble hmem hnone =>
        obtain rfl := Option.some.inj (hfirst.symm.trans hdouble)
        obtain ⟨y, hvalue⟩ := kept_int_in_double.1 (hkept _ hmem)
        exact hnone y hvalue
    · intro hloses v hv
      by_cases hfraction : ∃ n x, u = .int n ∧ v = .double x
      · obtain ⟨n, x, rfl, rfl⟩ := hfraction
        refine kept_double_in_bigint.2 ?_
        by_contra hnone
        exact hloses (.fraction hfirst hv fun m hlong hvalue => hnone ⟨m, hlong, hvalue⟩)
      by_cases hprecision : ∃ x n, u = .double x ∧ v = .int n
      · obtain ⟨x, n, rfl, rfl⟩ := hprecision
        refine kept_int_in_double.2 ?_
        by_contra hnone
        exact hloses (.precision hfirst hv fun y hvalue => hnone ⟨y, hvalue⟩)
      exact kept_ofValue hu (hkind v hv) hthere fun n x =>
        ⟨fun h => hfraction ⟨n, x, h⟩, fun h => hprecision ⟨x, n, h⟩⟩

end Cast

/-! ## Rows of data -/

def columnOf (i : Nat) (rows : List (List Value)) : List Value := rows.filterMap (·[i]?)

/-- The columns of a table made from data, at positions from `i` on. -/
def dataColumns (i : Nat) (columns : List String) (rows : List (List Value)) : List Column :=
  (columns.zipIdx i).map fun (name, j) => { name, type := .infer (columnOf j rows) }

/-- Names that a new table and its columns can have. -/
structure NamesFit (name : String) (columns : List String) : Prop where
  name_plain : isPlainName name
  columns_ne : columns ≠ []
  columns_plain : ∀ column ∈ columns, isPlainName column
  distinct : columns.Pairwise fun a b => sameName a b = false

variable {columns : List Column} {names : List String} {name : String} {rows casts : List (List Value)}
  {row cast : List Value} {t t' : Table} {i : Nat}

theorem sameName_comm (a b : String) : sameName a b = sameName b a := Bool.beq_comm

theorem inferColumn_eq (h : ∀ row ∈ rows, i < row.length) :
    Database.inferColumn i rows = .ok (.infer (columnOf i rows)) := by
  induction rows with
  | nil => rfl
  | cons row rows ih =>
    obtain ⟨hrow, hrows⟩ := List.forall_mem_cons.1 h
    have hcell : row[i]? = some row[i] := List.getElem?_eq_getElem hrow
    have hcolumn : columnOf i (row :: rows) = row[i] :: columnOf i rows :=
      List.filterMap_cons_some hcell
    rw [Database.inferColumn, hcell, hcolumn, ColumnType.infer, List.find?_cons]
    cases hnull : row[i].isNull with
    | true => simpa [hnull, ColumnType.infer] using ih hrows
    | false => simp [hnull]

theorem inferColumns_eq (h : ∀ row ∈ rows, i + names.length ≤ row.length) :
    Database.inferColumns i rows names = .ok (dataColumns i names rows) := by
  induction names generalizing i with
  | nil => rfl
  | cons name names ih =>
    have hfirst : ∀ row ∈ rows, i < row.length := fun row hrow => by
      have := h row hrow
      simp only [List.length_cons] at this
      omega
    have hrest : ∀ row ∈ rows, i + 1 + names.length ≤ row.length := fun row hrow => by
      have := h row hrow
      simp only [List.length_cons] at this
      omega
    rw [Database.inferColumns, inferColumn_eq hfirst, ih hrest]
    rfl

theorem length_dataColumns (i : Nat) (names : List String) (rows : List (List Value)) :
    (dataColumns i names rows).length = names.length := by
  simp [dataColumns]

theorem names_dataColumns : (dataColumns i names rows).map (·.name) = names := by
  simp [dataColumns, List.map_map, Function.comp_def]

namespace Table

theorem checkNames_eq_ok_iff {seen : List String} : checkNames seen names = .ok () ↔
    (∀ name ∈ names, isPlainName name ∧ ∀ other ∈ seen, sameName name other = false) ∧
      names.Pairwise fun a b => sameName a b = false := by
  induction names generalizing seen with
  | nil => simp [checkNames]
  | cons name names ih =>
    unfold checkNames
    split_ifs with hplain hseen
    · simp only [Bool.not_eq_true'] at hplain
      simp [hplain]
    · refine iff_of_false nofun fun h => ?_
      obtain ⟨other, hother, hsame⟩ := List.any_eq_true.1 hseen
      exact absurd hsame (by simp [(h.1 name List.mem_cons_self).2 other hother])
    · simp only [Bool.not_eq_true', Bool.not_eq_false, List.any_eq_true, not_exists, not_and,
        Bool.not_eq_true] at hplain hseen
      rw [ih]
      simp only [List.forall_mem_cons, List.pairwise_cons]
      constructor
      · rintro ⟨hnames, hpairs⟩
        refine ⟨⟨⟨hplain, hseen⟩, fun a ha => ⟨(hnames a ha).1, (hnames a ha).2.2⟩⟩, ?_, hpairs⟩
        exact fun a ha => (sameName_comm name a).trans (hnames a ha).2.1
      · rintro ⟨⟨-, hnames⟩, hname, hpairs⟩
        refine ⟨fun a ha => ⟨(hnames a ha).1, ?_, (hnames a ha).2⟩, hpairs⟩
        exact (sameName_comm a name).trans (hname a ha)

theorem create_eq_ok_iff :
    create name columns = .ok t ↔ NamesFit name (columns.map (·.name)) ∧ t = { name, columns } := by
  constructor
  · intro h
    refine ⟨?_, eq_of_create h⟩
    unfold create at h
    split_ifs at h with hname hempty
    obtain ⟨⟨⟩, hcheck, -⟩ := exists_of_bind_eq_ok h
    obtain ⟨hplain, hdistinct⟩ := checkNames_eq_ok_iff.1 hcheck
    exact ⟨by simpa using hname, by simpa using hempty, fun c hc => (hplain c hc).1, hdistinct⟩
  · rintro ⟨⟨hname, hne, hplain, hdistinct⟩, rfl⟩
    have hcheck : checkNames [] (columns.map (·.name)) = .ok () :=
      checkNames_eq_ok_iff.2 ⟨fun c hc => ⟨hplain c hc, nofun⟩, hdistinct⟩
    have hcolumns : ¬ columns.isEmpty := by simpa using hne
    rw [create, if_neg (by simpa using hname), if_neg hcolumns, hcheck]
    rfl

/-- A row is stored with cells that keep its values exactly if each column keeps its value. -/
theorem exists_castRow_iff (hoptional : ∀ c ∈ columns, c.required = false) :
    (∃ cast, castRow columns row = .ok cast ∧ List.Forall₂ Value.Keeps row cast) ↔
      List.Forall₂ (fun c v => Cast.Kept c.type v) columns row := by
  induction columns generalizing row with
  | nil =>
    cases row with
    | nil => exact iff_of_true ⟨[], rfl, .nil⟩ .nil
    | cons v vs => exact iff_of_false (fun ⟨_, h, _⟩ => by cases h) nofun
  | cons c cs ih =>
    obtain ⟨hc, hcs⟩ := List.forall_mem_cons.1 hoptional
    cases row with
    | nil => exact iff_of_false (fun ⟨_, h, _⟩ => by cases h) nofun
    | cons v vs =>
      rw [List.forall₂_cons, ← ih hcs, castRow]
      simp only [hc, Bool.false_and, Bool.false_eq_true, if_false]
      constructor
      · rintro ⟨cast, h, hall⟩
        obtain ⟨w, hw, h⟩ := exists_of_bind_eq_ok h
        obtain ⟨rest, hrest, h⟩ := exists_of_bind_eq_ok h
        obtain rfl := Except.ok.inj h
        obtain ⟨hkeeps, hall⟩ := List.forall₂_cons.1 hall
        exact ⟨⟨w, hw, hkeeps⟩, rest, hrest, hall⟩
      · rintro ⟨⟨w, hw, hkeeps⟩, rest, hrest, hall⟩
        refine ⟨w :: rest, ?_, .cons hkeeps hall⟩
        rw [hw, hrest]
        rfl

theorem insertAll_eq_ok_iff : t.insertAll rows = (t', .ok ()) ↔
    ∃ casts, rows.mapM (castRow t.columns) = .ok casts ∧ t' = { t with rows := t.rows ++ casts } := by
  induction rows generalizing t with
  | nil =>
    constructor
    · intro h
      obtain ⟨rfl, -⟩ := Prod.mk.inj h
      exact ⟨[], rfl, by simp⟩
    · rintro ⟨casts, h, rfl⟩
      obtain rfl := Except.ok.inj h
      simp [insertAll]
  | cons row rows ih =>
    rw [insertAll, insert, List.mapM_cons]
    cases hcast : castRow t.columns row with
    | error e => exact iff_of_false (fun h => by cases h) (fun ⟨_, h, _⟩ => by cases h)
    | ok cast =>
      show insertAll { t with rows := t.rows ++ [cast] } rows = (t', .ok ()) ↔ _
      rw [ih]
      cases hrest : rows.mapM (castRow t.columns) with
      | error e => exact iff_of_false (fun ⟨_, h, _⟩ => by cases h) (fun ⟨_, h, _⟩ => by cases h)
      | ok rest =>
        constructor
        · rintro ⟨casts, h, rfl⟩
          obtain rfl := Except.ok.inj h
          exact ⟨cast :: rest, rfl, by simp⟩
        · rintro ⟨casts, h, rfl⟩
          obtain rfl := Except.ok.inj h
          exact ⟨rest, rfl, by simp⟩

end Table

/-- A table is made from data exactly if names and values fit. -/
theorem Database.createFromData_eq_ok_iff {db db' : Database} (hrows : rows ≠ [])
    (hwidth : ∀ row ∈ rows, row.length = names.length) :
    db.createFromData name names rows = (db', .ok ()) ↔
      NamesFit name names ∧ ∃ casts, rows.mapM (Table.castRow (dataColumns 0 names rows)) = .ok casts ∧
        db' = db.put { name, columns := dataColumns 0 names rows, rows := casts } := by
  have hempty : ¬ rows.isEmpty := by simpa using hrows
  have hcolumns : inferColumns 0 rows names = .ok (dataColumns 0 names rows) :=
    inferColumns_eq fun row hrow => by rw [hwidth row hrow, Nat.zero_add]
  have hcreate (t : Table) : Table.create name (dataColumns 0 names rows) = .ok t ↔
      NamesFit name names ∧ t = { name, columns := dataColumns 0 names rows } := by
    rw [Table.create_eq_ok_iff, names_dataColumns]
  rw [Database.createFromData, if_neg hempty, hcolumns]
  dsimp only
  cases ht : Table.create name (dataColumns 0 names rows) with
  | error e =>
    refine iff_of_false nofun fun ⟨hfit, _⟩ => ?_
    cases ht.symm.trans ((hcreate _).2 ⟨hfit, rfl⟩)
  | ok t =>
    obtain ⟨hfit, rfl⟩ := (hcreate t).1 ht
    simp only [hfit, true_and]
    rcases hinsert : Table.insertAll { name, columns := dataColumns 0 names rows } rows with ⟨t, answer⟩
    cases answer with
    | error e =>
      refine iff_of_false nofun fun ⟨casts, hcasts, _⟩ => ?_
      cases hinsert.symm.trans (Table.insertAll_eq_ok_iff.2 ⟨casts, hcasts, rfl⟩)
    | ok u =>
      obtain ⟨casts, hcasts, rfl⟩ := Table.insertAll_eq_ok_iff.1 hinsert
      constructor
      · intro h
        exact ⟨casts, hcasts, (Prod.mk.inj h).1.symm⟩
      · rintro ⟨casts', hcasts', rfl⟩
        obtain rfl := Except.ok.inj (hcasts.symm.trans hcasts')
        rfl

/-! ## Fetching all columns -/

theorem putEntry_of_not_mem {key : String} {v : Value} {out : Row} (h : key ∉ out.keys) :
    putEntry key v out = out ++ [(key, v)] := by
  induction out with
  | nil => rfl
  | cons entry out ih =>
    obtain ⟨k, w⟩ := entry
    simp only [Row.keys, List.map_cons, List.mem_cons, not_or] at h
    rw [putEntry, if_neg (Ne.symm h.1), ih h.2]
    rfl

namespace Sql.Select
variable {schema : Schema} {keys : List String}

/-- A query of different built-in fields reads the cells of their columns. -/
theorem project_eq (schema : Schema) (before : Row) (hbuiltIn : ∀ key ∈ keys, customName? key = none)
    (hdistinct : (before.keys ++ keys).Nodup)
    (hcells : List.Forall₂ (fun key v => t.cell? key row = some v) keys cast) :
    (keys.map fun key => (schema.source key, key)).foldlM
      (fun out (e, key) => return putEntry key (← e.eval t row) out) before =
        (.ok (before ++ keys.zip cast) : Except DatabaseError Row) := by
  induction hcells generalizing before with
  | nil => simp [pure, Except.pure]
  | @cons key v keys vs hcell _ ih =>
    obtain ⟨hkey, hkeys⟩ := List.forall_mem_cons.1 hbuiltIn
    have heval : (schema.source key).eval t row = .ok v := by
      rw [Schema.eval_source_builtIn hkey, hcell]
    have hfresh : key ∉ before.keys := fun h =>
      (List.nodup_append.1 hdistinct).2.2 key h key List.mem_cons_self rfl
    have hrest : (Row.keys (before ++ [(key, v)]) ++ keys).Nodup := by
      simpa [Row.keys] using hdistinct
    rw [List.map_cons, List.foldlM_cons]
    simp only [heval, putEntry_of_not_mem hfresh, bind, Except.bind, pure, Except.pure] at ih ⊢
    rw [ih _ hkeys hrest, List.append_assoc]
    rfl

theorem rowsOf_eq_mapM (select : List (Expr × String)) (table : String) :
    rowsOf ⟨select, table, none⟩ t rows = rows.mapM (project ⟨select, table, none⟩ t) := by
  induction rows with
  | nil => rfl
  | cons row rows ih =>
    rw [rowsOf, List.mapM_cons, ← ih]
    rfl

end Sql.Select

namespace NamesFit

/-- A name of a column stands at its place only, whatever the case of letters. -/
theorem indexOf?_getElem (h : NamesFit t.name (t.columns.map (·.name))) (hi : i < t.columns.length) :
    t.indexOf? t.columns[i].name = some i := by
  refine List.findIdx?_eq_some_iff_getElem.2 ⟨hi, beq_self_eq_true _, fun j hj => ?_⟩
  have hpairs := List.pairwise_map.1 h.distinct
  have hne := List.pairwise_iff_getElem.1 hpairs j i (hj.trans hi) hi hj
  simp [hne]

theorem forall₂_cell? (h : NamesFit t.name (t.columns.map (·.name))) (hcast : cast.length = t.columns.length) :
    List.Forall₂ (fun key v => t.cell? key cast = some v) (t.columns.map (·.name)) cast := by
  rw [List.forall₂_map_left_iff]
  refine List.forall₂_iff_get.2 ⟨hcast.symm, fun i hi hi' => ?_⟩
  simp only [List.get_eq_getElem]
  rw [Table.cell?, h.indexOf?_getElem hi, Option.bind_some, List.getElem?_eq_getElem hi']

theorem nodup (h : NamesFit name names) : names.Nodup := by
  refine h.distinct.imp fun {a b} hne heq => ?_
  subst heq
  exact absurd hne (by simp [sameName])

end NamesFit

theorem Sql.Select.run_all {schema : Schema} {table : String} (hnames : t.columns.map (·.name) = names)
    (hfit : NamesFit t.name names) (hbuiltIn : ∀ key ∈ names, customName? key = none)
    (hwidth : ∀ cast ∈ t.rows, cast.length = t.columns.length) :
    run ⟨names.map fun key => (schema.source key, key), table, none⟩ t = .ok (t.rows.map (names.zip ·)) := by
  subst hnames
  have hcheck : ∀ key ∈ t.columns.map (·.name), key ≠ "" ∧ (t.indexOf? key).isSome := by
    intro key hkey
    have hplain := hfit.columns_plain key hkey
    simp only [isPlainName, Bool.and_eq_true, decide_eq_true_eq] at hplain
    obtain ⟨c, hc, rfl⟩ := List.mem_map.1 hkey
    obtain ⟨i, hi, rfl⟩ := List.getElem_of_mem hc
    exact ⟨hplain.1, by rw [hfit.indexOf?_getElem hi]; rfl⟩
  have hread (cast : List Value) (hcast : cast ∈ t.rows) :=
    project_eq schema [] hbuiltIn hfit.nodup (hfit.forall₂_cell? (hwidth cast hcast))
  rw [run, checkColumns_eq_ok_iff.2]
  · rw [rowsOf_eq_mapM]
    exact mapM_eq_ok_map hread
  · intro read hmem
    rw [reads, Option.map_none, Option.getD_none, List.append_nil, List.flatMap_map] at hmem
    obtain ⟨key, hkey, hmem⟩ := List.mem_flatMap.1 hmem
    rw [Schema.source_builtIn (hbuiltIn key hkey)] at hmem
    obtain rfl := List.mem_singleton.1 hmem
    exact hcheck read hkey

/-- Whether fetched rows have the cells of data under the names of the columns, in the same order. -/
def HoldsData (names : List String) (rows : List (List Value)) (fetched : List Row) : Prop :=
  List.Forall₂ (fun cells row => Row.keys row = names ∧ List.Forall₂ Value.Keeps cells (row.map (·.2)))
    rows fetched

/-- Data that has been stored is fetched with equal cells exactly if these were stored so. -/
theorem holdsData_zip_iff (hwidth : ∀ cast ∈ casts, cast.length = names.length) :
    HoldsData names rows (casts.map (names.zip ·)) ↔ List.Forall₂ (List.Forall₂ Value.Keeps) rows casts := by
  rw [HoldsData, List.forall₂_map_right_iff]
  induction casts generalizing rows with
  | nil => simp
  | cons cast casts ih =>
    obtain ⟨hcast, hcasts⟩ := List.forall_mem_cons.1 hwidth
    cases rows with
    | nil => exact iff_of_false nofun nofun
    | cons row rows =>
      have hkeys : Row.keys (names.zip cast) = names := List.map_fst_zip hcast.ge
      have hcells : (names.zip cast).map (·.2) = cast := List.map_snd_zip hcast.le
      rw [List.forall₂_cons, List.forall₂_cons, ih hcasts, hkeys, hcells, and_iff_right rfl]

/-- All cells of data are kept exactly if no column loses a number. -/
theorem exists_casts_iff (hwidth : ∀ row ∈ rows, row.length = names.length)
    (hkinds : ∀ i < names.length, Homogeneous (columnOf i rows)) :
    (∃ casts, rows.mapM (Table.castRow (dataColumns 0 names rows)) = .ok casts ∧
      List.Forall₂ (List.Forall₂ Value.Keeps) rows casts) ↔
    ∀ i < names.length, ¬ Loses (columnOf i rows) := by
  have hoptional : ∀ c ∈ dataColumns 0 names rows, c.required = false := by
    intro c hc
    obtain ⟨_, -, rfl⟩ := List.mem_map.1 hc
    rfl
  have htype (i : Nat) (hi : i < (dataColumns 0 names rows).length) :
      (dataColumns 0 names rows)[i].type = .infer (columnOf i rows) := by simp [dataColumns]
  calc _ ↔ ∀ row ∈ rows, List.Forall₂ (fun c v => Cast.Kept c.type v) (dataColumns 0 names rows) row := by
        rw [exists_mapM_iff]
        exact forall₂_congr fun row _ => Table.exists_castRow_iff hoptional
    _ ↔ ∀ i < names.length, ∀ v ∈ columnOf i rows, Cast.Kept (.infer (columnOf i rows)) v := by
        constructor
        · intro h i hi v hv
          obtain ⟨row, hrow, hcell⟩ := List.mem_filterMap.1 hv
          obtain ⟨hlt, rfl⟩ := List.getElem?_eq_some_iff.1 hcell
          have hkept := (List.forall₂_iff_get.1 (h row hrow)).2 i (by rwa [length_dataColumns]) hlt
          simpa [htype] using hkept
        · intro h row hrow
          have hlength := (length_dataColumns 0 names rows).trans (hwidth row hrow).symm
          refine List.forall₂_iff_get.2 ⟨hlength, fun i hi hlt => ?_⟩
          rw [List.get_eq_getElem, List.get_eq_getElem, htype]
          refine h i (by rwa [length_dataColumns] at hi) _ (List.mem_filterMap.2 ⟨row, hrow, ?_⟩)
          exact List.getElem?_eq_getElem hlt
    _ ↔ ∀ i < names.length, ¬ Loses (columnOf i rows) :=
        forall₂_congr fun i hi => Cast.kept_iff (hkinds i hi)

theorem Database.get_put {db : Database} (h : isPlainName t.name) : (db.put t).get t.name = .ok t := by
  rw [get, find?_put, h]
  rfl

namespace Warehouse
variable {w : Warehouse} {entity : String}

theorem fetch_put (hlimit : w.pageSize = 0) (hentity : w.schema.tableOf entity = t.name)
    (hnames : t.columns.map (·.name) = names) (hfit : NamesFit t.name names)
    (hbuiltIn : ∀ key ∈ names, customName? key = none)
    (hwidth : ∀ cast ∈ t.rows, cast.length = t.columns.length) :
    { w with database := w.database.put t }.fetch ⟨entity, names, []⟩ =
      .ok (t.rows.map (names.zip ·)) := by
  have hget : (w.database.put t).get (w.schema.tableOf entity) = .ok t := by
    rw [hentity, Database.get_put hfit.name_plain]
  have hnone : Sql.Schema.conjunction ([].map w.schema.condition) = none := rfl
  rw [fetch_eq (w := { w with database := w.database.put t }) hlimit hfit.columns_ne hget, hnone,
    Sql.Select.run_all hnames hfit hbuiltIn hwidth]

/-- A table is made from data with columns of one kind each, and a fetch of these columns returns equal cells
in the same order, exactly if the names can be those of a table and no column of numbers has one that its
first number leaves no place for. -/
theorem createFromData_keeps_iff (hlimit : w.pageSize = 0) (hentity : w.schema.tableOf entity = name)
    (hbuiltIn : ∀ key ∈ names, customName? key = none) (hrows : rows ≠ [])
    (hwidth : ∀ row ∈ rows, row.length = names.length)
    (hkinds : ∀ i < names.length, Homogeneous (columnOf i rows)) :
    (∃ db fetched, w.database.createFromData name names rows = (db, .ok ()) ∧
      { w with database := db }.fetch ⟨entity, names, []⟩ = .ok fetched ∧ HoldsData names rows fetched) ↔
    NamesFit name names ∧ ∀ i < names.length, ¬ Loses (columnOf i rows) := by
  rw [← exists_casts_iff hwidth hkinds]
  -- What is stored is fetched; the question is what of it is kept.
  have hstored {casts : List (List Value)} (hfit : NamesFit name names)
      (hcasts : rows.mapM (Table.castRow (dataColumns 0 names rows)) = .ok casts) :
      ({ w with database := w.database.put { name, columns := dataColumns 0 names rows, rows := casts } } :
        Warehouse).fetch ⟨entity, names, []⟩ = .ok (casts.map (names.zip ·)) ∧
      ∀ cast ∈ casts, cast.length = names.length := by
    have hlength (cast : List Value) (hcast : cast ∈ casts) :
        cast.length = (dataColumns 0 names rows).length := by
      obtain ⟨row, -, hrow⟩ := exists_of_forall₂_right (forall₂_of_mapM_eq_ok hcasts) hcast
      exact (Table.admits_of_castRow hrow).length_eq.symm
    refine ⟨?_, fun cast hcast => (hlength cast hcast).trans (length_dataColumns ..)⟩
    exact fetch_put (t := { name, columns := dataColumns 0 names rows, rows := casts }) hlimit hentity
      names_dataColumns hfit hbuiltIn hlength
  constructor
  · rintro ⟨db, fetched, hcreate, hfetched, hholds⟩
    obtain ⟨hfit, casts, hcasts, rfl⟩ := (Database.createFromData_eq_ok_iff hrows hwidth).1 hcreate
    obtain ⟨hall, hlength⟩ := hstored hfit hcasts
    obtain rfl := Except.ok.inj (hall.symm.trans hfetched)
    exact ⟨hfit, casts, hcasts, (holdsData_zip_iff hlength).1 hholds⟩
  · rintro ⟨hfit, casts, hcasts, hkeeps⟩
    obtain ⟨hall, hlength⟩ := hstored hfit hcasts
    exact ⟨_, _, (Database.createFromData_eq_ok_iff hrows hwidth).2 ⟨hfit, casts, hcasts, rfl⟩, hall,
      (holdsData_zip_iff hlength).2 hkeeps⟩

/-! ### Readings of which the first is whole -/

def twoAndAHalf : Double := .ofFraction false 5 2

def readings : List (List Value) := [[.text "Acme", .int 1], [.text "Bolt", .double twoAndAHalf]]

def readingNames : List String := ["name", "size"]

theorem readings_homogeneous : ∀ i < readingNames.length, Homogeneous (columnOf i readings) := by
  have hfinite : twoAndAHalf.isFinite := by decide +kernel
  intro i hi
  match i, hi with
  | 0, _ => exact ⟨.text, by simpa [columnOf, readings] using ⟨.text "Acme", .text "Bolt"⟩⟩
  | 1, _ => exact ⟨.number, by simpa [columnOf, readings] using ⟨.int (by decide), .double hfinite⟩⟩

theorem readings_keeps_iff :
    readings ≠ [] ∧ (∀ row ∈ readings, row.length = readingNames.length) ∧
    (∀ i < readingNames.length, Homogeneous (columnOf i readings)) ∧
    ((∃ db fetched, Database.createFromData {} "companies" readingNames readings = (db, .ok ()) ∧
        ({ database := db } : Warehouse).fetch ⟨"companies", readingNames, []⟩ = .ok fetched ∧
        HoldsData readingNames readings fetched) ↔
      NamesFit "companies" readingNames ∧ ∀ i < readingNames.length, ¬ Loses (columnOf i readings)) :=
  ⟨by decide, by decide, readings_homogeneous,
    createFromData_keeps_iff (w := {}) rfl rfl (by decide) (by decide) (by decide) readings_homogeneous⟩

theorem wholeOfDouble?_twoAndAHalf : Cast.wholeOfDouble? twoAndAHalf = some 2 := by decide +kernel

theorem twoAndAHalf_ne_int (n : Int) : twoAndAHalf.value? ≠ some (n : ℚ) := by
  intro h
  obtain rfl : 2 = n :=
    Option.some.inj (wholeOfDouble?_twoAndAHalf.symm.trans (Double.wholeOfDouble?_of_value? h))
  exact absurd (Double.value?_eq_int_iff.1 h) (by decide +kernel)

/-- The table is made and fetched, but the half of the second reading is gone. -/
theorem second_half_lost : NamesFit "companies" readingNames ∧
    (∀ i < readingNames.length, Homogeneous (columnOf i readings)) ∧
    ∃ db, Database.createFromData {} "companies" readingNames readings = (db, .ok ()) ∧
      ({ database := db } : Warehouse).fetch ⟨"companies", readingNames, []⟩ =
        .ok [[("name", .text "Acme"), ("size", .int 1)], [("name", .text "Bolt"), ("size", .int 2)]] ∧
      ¬ HoldsData readingNames readings
        [[("name", .text "Acme"), ("size", .int 1)], [("name", .text "Bolt"), ("size", .int 2)]] := by
  have hfit : NamesFit "companies" readingNames := ⟨by decide, by decide, by decide, by decide⟩
  have hcast : Cast.convert .bigint (.double twoAndAHalf) = .ok (.int 2) := by
    simp [Cast.convert, Cast.convert?, Cast.toBigint?, Value.isNull, wholeOfDouble?_twoAndAHalf, Cast.isLong]
  have hcasts : readings.mapM (Table.castRow (dataColumns 0 readingNames readings)) =
      .ok [[.text "Acme", .int 1], [.text "Bolt", .int 2]] := by
    have hcolumns : dataColumns 0 readingNames readings =
        [⟨"name", .varchar, false⟩, ⟨"size", .bigint, false⟩] := rfl
    rw [hcolumns, readings]
    simp only [List.mapM_cons, List.mapM_nil, Table.castRow, hcast]
    rfl
  refine ⟨hfit, readings_homogeneous, _,
    (Database.createFromData_eq_ok_iff (by decide) (by decide)).2 ⟨hfit, _, hcasts, rfl⟩, rfl, ?_⟩
  intro hholds
  obtain ⟨-, hcells⟩ := (List.forall₂_cons.1 (List.forall₂_cons.1 hholds).2).1
  have hkeeps : Value.Keeps (.double twoAndAHalf) (.int 2) :=
    (List.forall₂_cons.1 (List.forall₂_cons.1 hcells).2).1
  exact twoAndAHalf_ne_int 2 (Value.Keeps.value?_eq (a := .double twoAndAHalf) (b := .int 2) hkeeps)

end Warehouse

end Rollup
