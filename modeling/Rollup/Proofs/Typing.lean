import Rollup.Database.Reports
import Rollup.Proofs.Except

/-!
# Typed tables

Every cell of a table is nothing or a value of the type of its column, and integers have 64 bits
(`Table.WellTyped`). A row is cast when it is inserted, which makes this so, and no other operation on
the tables of a database breaks it (`Database.WellTyped`). So the type of a column is all that has to
be known of its cells (`Table.WellTyped.fits_of_cell?`).
-/

namespace Rollup

/-- The cells that a column of a type may have. -/
inductive ColumnType.Fits : ColumnType → Value → Prop
  | null (type : ColumnType) : Fits type .null
  | bool (b : Bool) : Fits .boolean (.bool b)
  | int {n : Int} (h : Cast.isLong n) : Fits .bigint (.int n)
  | double (x : Double) : Fits .double (.double x)
  | timestamp (t : Timestamp) : Fits .timestamp (.timestamp t)
  | date (d : Date) : Fits .date (.date d)
  | text (s : String) : Fits .varchar (.text s)

namespace Cast
variable {type : ColumnType} {v w : Value}

theorem fits_of_convert? (h : convert? type v = some w) : type.Fits w := by
  cases type with
  | boolean =>
    cases v with
    | text s =>
      obtain ⟨b, -, rfl⟩ := Option.map_eq_some_iff.1 h
      exact .bool b
    | bool _ | int _ | double _ =>
      simp only [convert?, toBoolean?, Option.some.injEq] at h
      exact h ▸ .bool _
    | _ => cases h
  | bigint =>
    obtain ⟨n, -, hn⟩ := Option.bind_eq_some_iff.1 h
    split_ifs at hn with hlong
    exact Option.some.inj hn ▸ .int hlong
  | double =>
    cases v with
    | text s =>
      obtain ⟨x, -, rfl⟩ := Option.map_eq_some_iff.1 h
      exact .double x
    | bool _ | int _ | double _ | decimal _ =>
      simp only [convert?, toDouble?, Option.some.injEq] at h
      exact h ▸ .double _
    | _ => cases h
  | timestamp =>
    cases v with
    | text s =>
      simp only [convert?, toTimestamp?, Option.map_eq_some_iff] at h
      obtain ⟨t, -, rfl⟩ := h
      exact .timestamp t
    | timestamp _ | date _ =>
      simp only [convert?, toTimestamp?, Option.some.injEq] at h
      exact h ▸ .timestamp _
    | _ => cases h
  | date =>
    cases v with
    | text s =>
      simp only [convert?, toDate?, Option.map_eq_some_iff] at h
      obtain ⟨d, -, rfl⟩ := h
      exact .date d
    | timestamp _ | date _ =>
      simp only [convert?, toDate?, Option.some.injEq] at h
      exact h ▸ .date _
    | _ => cases h
  | varchar => exact Option.some.inj h ▸ .text _

/-- A value that was cast to a type can stand in its columns. -/
theorem fits_of_convert (h : convert type v = .ok w) : type.Fits w := by
  unfold convert at h
  split_ifs at h
  · exact Except.ok.inj h ▸ .null type
  · cases hw : convert? type v with
    | none => simp [hw] at h
    | some u =>
      rw [hw] at h
      exact Except.ok.inj h ▸ fits_of_convert? hw

end Cast

namespace Table
variable {t t' : Table} {row cast : List Value}

/-- A cell for every column, each of the type of its column. -/
def Admits (columns : List Column) (row : List Value) : Prop :=
  List.Forall₂ (fun c v => c.type.Fits v) columns row

def WellTyped (t : Table) : Prop := ∀ row ∈ t.rows, Admits t.columns row

/-- The type of a column. -/
def typeOf? (t : Table) (name : String) : Option ColumnType :=
  (t.indexOf? name).bind fun i => (t.columns[i]?).map (·.type)

theorem admits_of_castRow {columns : List Column} (h : castRow columns row = .ok cast) :
    Admits columns cast := by
  induction columns generalizing row cast with
  | nil =>
    cases row with
    | nil => exact Except.ok.inj h ▸ .nil
    | cons => cases h
  | cons c cs ih =>
    cases row with
    | nil => cases h
    | cons v vs =>
      unfold castRow at h
      obtain ⟨w, hw, h⟩ := exists_of_bind_eq_ok h
      split_ifs at h
      · cases h
      · obtain ⟨rest, hrest, h⟩ := exists_of_bind_eq_ok h
        exact Except.ok.inj h ▸ .cons (Cast.fits_of_convert hw) (ih hrest)

theorem eq_of_create {name : String} {columns : List Column} (h : create name columns = .ok t) :
    t = { name, columns } := by
  unfold create at h
  split_ifs at h
  obtain ⟨-, -, h⟩ := exists_of_bind_eq_ok h
  exact (Except.ok.inj h).symm

theorem wellTyped_of_create {name : String} {columns : List Column}
    (h : create name columns = .ok t) : t.WellTyped := by
  rw [eq_of_create h]
  exact fun _ hrow => by cases hrow

theorem WellTyped.insert (ht : t.WellTyped) (h : t.insert row = .ok t') : t'.WellTyped := by
  obtain ⟨cast, hcast, h⟩ := exists_of_bind_eq_ok h
  obtain rfl := Except.ok.inj h
  intro r hr
  rcases List.mem_append.1 hr with hr | hr
  · exact ht r hr
  · obtain rfl := List.mem_singleton.1 hr
    exact admits_of_castRow hcast

theorem WellTyped.insertAll (ht : t.WellTyped) {rows : List (List Value)}
    {answer : Except DatabaseError Unit} (h : t.insertAll rows = (t', answer)) : t'.WellTyped := by
  induction rows generalizing t with
  | nil =>
    obtain ⟨rfl, -⟩ := Prod.mk.inj h
    exact ht
  | cons row rows ih =>
    unfold Table.insertAll at h
    cases hrow : t.insert row with
    | error e =>
      rw [hrow] at h
      obtain ⟨rfl, -⟩ := Prod.mk.inj h
      exact ht
    | ok u =>
      rw [hrow] at h
      exact ih (ht.insert hrow) h

theorem mem_replaceRow {r : List Value} {rows : List (List Value)} (h : r ∈ replaceRow row rows) :
    r = row ∨ r ∈ rows := by
  induction rows with
  | nil => exact .inl (List.mem_singleton.1 h)
  | cons u rows ih =>
    unfold replaceRow at h
    split_ifs at h
    · exact (List.mem_cons.1 h).imp_right (List.mem_cons_of_mem _)
    · rcases List.mem_cons.1 h with rfl | h
      · exact .inr List.mem_cons_self
      · exact (ih h).imp_right (List.mem_cons_of_mem _)

theorem WellTyped.insertOrReplace (ht : t.WellTyped) (h : t.insertOrReplace row = .ok t') :
    t'.WellTyped := by
  obtain ⟨cast, hcast, h⟩ := exists_of_bind_eq_ok h
  split_ifs at h
  obtain rfl := Except.ok.inj h
  intro r hr
  rcases mem_replaceRow hr with rfl | hr
  · exact admits_of_castRow hcast
  · exact ht r hr

theorem WellTyped.fits_of_cell? (ht : t.WellTyped) (hrow : row ∈ t.rows) {name : String}
    {type : ColumnType} {v : Value} (htype : t.typeOf? name = some type)
    (hcell : t.cell? name row = some v) : type.Fits v := by
  obtain ⟨i, hi, htype⟩ := Option.bind_eq_some_iff.1 htype
  obtain ⟨c, hc, rfl⟩ := Option.map_eq_some_iff.1 htype
  rw [cell?, hi, Option.bind_some] at hcell
  obtain ⟨hlc, rfl⟩ := List.getElem?_eq_some_iff.1 hc
  obtain ⟨hlv, rfl⟩ := List.getElem?_eq_some_iff.1 hcell
  exact (List.forall₂_iff_get.1 (ht row hrow)).2 i hlc hlv

end Table

namespace Database
variable {db db' : Database} {t : Table} {name : String}

def WellTyped (db : Database) : Prop := ∀ t ∈ db.tables, t.WellTyped

theorem wellTyped_empty : WellTyped {} := fun _ h => by cases h

theorem WellTyped.get (hdb : db.WellTyped) (h : db.get name = .ok t) : t.WellTyped := by
  unfold Database.get at h
  split_ifs at h
  cases hfind : db.find? name with
  | none => simp [hfind] at h
  | some u =>
    rw [hfind] at h
    exact Except.ok.inj h ▸ hdb u (List.mem_of_find?_eq_some hfind)

theorem mem_putTable {u : Table} {tables : List Table} (h : u ∈ putTable t tables) :
    u = t ∨ u ∈ tables := by
  induction tables with
  | nil => exact .inl (List.mem_singleton.1 h)
  | cons v tables ih =>
    unfold putTable at h
    split_ifs at h
    · exact (List.mem_cons.1 h).imp_right (List.mem_cons_of_mem _)
    · rcases List.mem_cons.1 h with rfl | h
      · exact .inr List.mem_cons_self
      · exact (ih h).imp_right (List.mem_cons_of_mem _)

theorem WellTyped.put (hdb : db.WellTyped) (ht : t.WellTyped) : (db.put t).WellTyped := by
  intro u hu
  rcases mem_putTable hu with rfl | hu
  · exact ht
  · exact hdb u hu

/-- Also where a row does not fit and the table is left with the rows before it. -/
theorem WellTyped.createFromData (hdb : db.WellTyped) (name : String) (columns : List String)
    (rows : List (List Value)) : (db.createFromData name columns rows).1.WellTyped := by
  unfold Database.createFromData
  split_ifs
  · exact hdb
  · cases inferColumns 0 rows columns with
    | error e => exact hdb
    | ok columns =>
      cases hcreate : Table.create name columns with
      | error e => simpa [hcreate] using hdb
      | ok t =>
        simp only [hcreate]
        rcases hrows : t.insertAll rows with ⟨t', answer⟩
        have ht := (Table.wellTyped_of_create hcreate).insertAll hrows
        cases answer <;> exact hdb.put ht

theorem WellTyped.loadCsv (hdb : db.WellTyped) {content : String}
    (h : db.loadCsv name content = .ok db') : db'.WellTyped := by
  unfold Database.loadCsv at h
  split at h
  · cases h
  · obtain ⟨t, hcreate, h⟩ := exists_of_bind_eq_ok h
    dsimp only at h
    split at h
    · rename_i t' hrows
      exact Except.ok.inj h ▸ hdb.put ((Table.wellTyped_of_create hcreate).insertAll hrows)
    · cases h

theorem WellTyped.copy (hdb : db.WellTyped) {source : String} (h : db.copy source name = .ok db') :
    db'.WellTyped := by
  obtain ⟨t, ht, h⟩ := exists_of_bind_eq_ok h
  obtain ⟨copied, hcopied, h⟩ := exists_of_bind_eq_ok h
  obtain rfl := Table.eq_of_create hcopied
  exact Except.ok.inj h ▸ hdb.put fun row hrow =>
    List.forall₂_map_left_iff.2 (hdb.get ht row hrow)

theorem ok_of_ofDatabase {α : Type} {x : Except DatabaseError α} {a : α}
    (h : KeeperError.ofDatabase x = .ok a) : x = .ok a := by
  cases x with
  | error e => cases h
  | ok b => exact congrArg Except.ok (Except.ok.inj h)

theorem WellTyped.ensureReports (hdb : db.WellTyped) : db.ensureReports.WellTyped := by
  unfold Database.ensureReports
  split_ifs
  · exact hdb
  · exact hdb.put fun _ h => by cases h

theorem WellTyped.insertReport (hdb : db.WellTyped) {r : SavedReport}
    (h : db.insertReport r = .ok db') : db'.WellTyped := by
  obtain ⟨t, ht, h⟩ := exists_of_bind_eq_ok (ok_of_ofDatabase h)
  obtain ⟨t', ht', h⟩ := exists_of_bind_eq_ok h
  exact Except.ok.inj h ▸ hdb.put ((hdb.get ht).insertOrReplace ht')

theorem WellTyped.removeReport (hdb : db.WellTyped) {id : String}
    (h : db.removeReport id = .ok db') : db'.WellTyped := by
  obtain ⟨t, ht, h⟩ := exists_of_bind_eq_ok (ok_of_ofDatabase h)
  exact Except.ok.inj h ▸ hdb.put fun row hrow => hdb.get ht row (List.mem_of_mem_filter hrow)

end Database

end Rollup
