import Rollup.Document
import Rollup.Proofs.Json.Reader
import Rollup.Proofs.Row

/-!
# Definitions read back

The form in which a definition is kept loses nothing (`Definition.reads_back`): what has been read once is
read as itself, from its value, from its JSON text in either layout, and from a file with that text, be it
bare or under the key `report`. Reading settles the spelling of a definition, so a second reading finds
nothing left to change.
-/

namespace Rollup

/-! ## Checks -/

namespace Checked
variable {α β : Type} {check : Value → Checked α} {fields : List (String × Value)} {key : String}
variable {v : Value} {a : α}

theorem both_eq_ok_iff {x : Checked α} {y : Checked β} {p : α × β} :
    both x y = .ok p ↔ x = .ok p.1 ∧ y = .ok p.2 := by
  cases x <;> cases y <;> simp [both, Prod.ext_iff]

theorem map_eq_ok_iff {x : Checked α} {f : α → β} {b : β} :
    x.map f = .ok b ↔ ∃ a, x = .ok a ∧ f a = b := by
  cases x <;> simp [Except.map]

theorem optional_eq_ok {default : α} (h : lookup? key fields = some v) (hv : check v = .ok a) :
    Checked.optional fields key default check = .ok a := by
  rw [Checked.optional, h]
  simp only [hv, within]

/-- An optional field has its default or what is there. -/
theorem of_optional_eq_ok {default : α} (h : Checked.optional fields key default check = .ok a) :
    a = default ∨ ∃ v, check v = .ok a := by
  unfold Checked.optional at h
  split at h
  case h_1 v _ =>
    refine .inr ⟨v, ?_⟩
    cases hv : check v with
    | ok a' => rw [← h, hv, within]
    | error problems => simp [hv, within] at h
  case h_2 => exact .inl (Except.ok.inj h).symm

/-- A list is read back where its items are. -/
theorem list_map {write : α → Value} (h : ∀ a, check (write a) = .ok a) (as : List α) :
    list check (.list (as.map write)) = .ok as := by
  have hitems : ∀ n, items check n (as.map write) = .ok as := by
    induction as with
    | nil => exact fun n => rfl
    | cons a as ih =>
      intro n
      rw [List.map_cons, items, h, ih]
      rfl
  exact hitems 0

theorem named_name {ofName? : String → Option α} {name : String} (h : ofName? name = some a) :
    named ofName? (.text name) = .ok a := by
  simp only [named, h]

end Checked

open Checked

/-! ## Parts of a definition -/

theorem Operator.ofName?_name (op : Operator) : Operator.ofName? op.name = some op := by
  cases op <;> rfl

theorem Function.ofName?_name (f : Function) : Function.ofName? f.name = some f := by
  cases f <;> rfl

theorem Visualization.ofName?_name (v : Visualization) : Visualization.ofName? v.name = some v := by
  cases v <;> rfl

theorem Filter.check_toValue (f : Filter) : Filter.check f.toValue = .ok f := by
  have hoperator := named_name f.operator.ofName?_name
  simp [Filter.check, Filter.toValue, model, required, Checked.optional, lookup?, hoperator, Checked.text,
    Filter.checkValue, both, within, Except.map]

theorem Aggregation.check_toValue (a : Aggregation) : Aggregation.check a.toValue = .ok a := by
  have hfunction := named_name a.function.ofName?_name
  simp [Aggregation.check, Aggregation.toValue, model, required, lookup?, hfunction, Checked.text, both,
    within, Except.map]

namespace Definition
variable {d : Definition}

/-- Nothing is left to settle: the grouping, if there is one, is not blank. -/
def IsSettled (d : Definition) : Prop := ∀ s, d.groupBy? = some s → Text.isBlank s = false

theorem isSettled_of_checkGroupBy {v : Value} (h : checkGroupBy v = .ok d.groupBy?) : d.IsSettled := by
  intro s hs
  rw [hs] at h
  unfold checkGroupBy at h
  split at h
  · cases h
  · split_ifs at h with hblank
    · cases h
    · obtain rfl := Option.some.inj (Except.ok.inj h)
      simpa using hblank
  · cases h

theorem isSettled_of_checkFields {r : List (String × Value)} (h : checkFields r = .ok d) :
    d.IsSettled := by
  obtain ⟨⟨entity, columns, filters, groupBy?, rest⟩, hparts, rfl⟩ := map_eq_ok_iff.1 h
  simp only [both_eq_ok_iff] at hparts
  obtain ⟨-, -, -, hgroup, -⟩ := hparts
  rcases of_optional_eq_ok hgroup with rfl | ⟨v, hv⟩
  · exact fun s hs => nomatch hs
  · exact isSettled_of_checkGroupBy hv

theorem isSettled_of_check {v : Value} (h : check v = .ok d) : d.IsSettled := by
  cases v with
  | record fields => exact isSettled_of_checkFields h
  | _ => cases h

theorem settled_eq_self (h : d.IsSettled) : d.settled = d := by
  have hgroup : d.groupBy?.filter (fun s => !Text.isBlank s) = d.groupBy? := by
    cases hgroupBy : d.groupBy? with
    | none => rfl
    | some s => simp [h s hgroupBy]
  rw [settled, hgroup]

/-- A definition is read back from its fields, whatever other fields there are before them. -/
theorem checkFields_append (d : Definition) {front : List (String × Value)}
    (hfront : ∀ key ∈ d.toFields.map (·.1), key ∉ front.map (·.1)) :
    checkFields (front ++ d.toFields) = .ok d.settled := by
  have hlookup {key : String} {v : Value} (hv : lookup? key d.toFields = some v) :
      lookup? key (front ++ d.toFields) = some v :=
    (lookup?_append (hfront key (List.mem_map_of_mem (mem_of_lookup? hv))) _).trans hv
  have hentity : Checked.optional (front ++ d.toFields) "entity" "" Checked.text = .ok d.entity :=
    optional_eq_ok (hlookup rfl) rfl
  have hcolumns : Checked.optional (front ++ d.toFields) "columns" [] (list Checked.text) =
      .ok d.columns :=
    optional_eq_ok (hlookup rfl) (list_map (by intro s; rfl) d.columns)
  have hfilters : Checked.optional (front ++ d.toFields) "filters" [] (list Filter.check) =
      .ok d.filters :=
    optional_eq_ok (hlookup rfl) (list_map Filter.check_toValue d.filters)
  have hgroupBy : Checked.optional (front ++ d.toFields) "group_by" none checkGroupBy =
      .ok (d.groupBy?.filter fun s => !Text.isBlank s) := by
    refine optional_eq_ok (hlookup rfl) ?_
    cases d.groupBy? with
    | none => rfl
    | some s => cases hblank : Text.isBlank s <;> simp [checkGroupBy, Option.filter, hblank]
  have haggregations : Checked.optional (front ++ d.toFields) "aggregations" []
      (list Aggregation.check) = .ok d.aggregations :=
    optional_eq_ok (hlookup rfl) (list_map Aggregation.check_toValue d.aggregations)
  have hvisualization : Checked.optional (front ++ d.toFields) "visualization" .table
      (named Visualization.ofName?) = .ok d.visualization :=
    optional_eq_ok (hlookup rfl) (named_name d.visualization.ofName?_name)
  have hname : Checked.optional (front ++ d.toFields) "name" "" Checked.text = .ok d.name :=
    optional_eq_ok (hlookup rfl) rfl
  rw [checkFields, hentity, hcolumns, hfilters, hgroupBy, haggregations, hvisualization, hname]
  rfl

theorem check_toValue (d : Definition) : check d.toValue = .ok d.settled := by
  show checkFields ([] ++ d.toFields) = .ok d.settled
  exact checkFields_append d fun _ _ => List.not_mem_nil

theorem IsSettled.check_toValue (h : d.IsSettled) : check d.toValue = .ok d :=
  (Definition.check_toValue d).trans (congrArg Except.ok (settled_eq_self h))

/-! ## Texts of a definition -/

theorem keys_toFields (d : Definition) : d.toFields.map (·.1) =
    ["entity", "columns", "filters", "group_by", "aggregations", "visualization", "name"] := rfl

theorem plain_filter (f : Filter) : Json.Plain f.toValue := by
  refine .record (by simp) ?_
  simp only [List.forall_mem_cons]
  exact ⟨.text _, .text _, .text _, List.forall_mem_nil _⟩

theorem plain_aggregation (a : Aggregation) : Json.Plain a.toValue := by
  refine .record (by simp) ?_
  simp only [List.forall_mem_cons]
  exact ⟨.text _, .text _, List.forall_mem_nil _⟩

theorem plain_toValue (d : Definition) : Json.Plain d.toValue := by
  have hlist {α : Type} {write : α → Value} (h : ∀ a, Json.Plain (write a)) (as : List α) :
      Json.Plain (.list (as.map write)) := .list (List.forall_mem_map.2 fun a _ => h a)
  refine .record (keys_toFields d ▸ by decide) ?_
  unfold toFields
  simp only [List.forall_mem_cons]
  refine ⟨.text _, hlist .text _, hlist plain_filter _, ?_, hlist plain_aggregation _, .text _, .text _,
    List.forall_mem_nil _⟩
  cases d.groupBy? with
  | none => exact .null
  | some s => exact .text s

variable {layout : Json.Layout}

theorem ofJson_eq_check {text : String} {v : Value} (h : Json.parse text = .ok v) :
    ofJson text = check v := by
  rw [ofJson, h]

theorem ofJson_toJson (hlayout : layout.IsPlain) (h : d.IsSettled) : ofJson (d.toJson layout) = .ok d :=
  (ofJson_eq_check (Json.parse_render hlayout d.plain_toValue)).trans h.check_toValue

end Definition

/-! ## Files -/

namespace Document
variable {files : Files} {path : Path} {place : List String} {text : String} {d : Definition}

/-- The value of a definition holds it as it is read anew. -/
theorem definition_toValue (path : Path) (d : Definition) : definition path d.toValue = .ok d.settled := by
  have hbare : unwrap "report" d.toFields = d.toValue := rfl
  rw [Definition.toValue, definition, hbare, d.check_toValue]
  rfl

/-- What a value holds for a definition, bare or under the key `report`. -/
theorem definition_eq_ok (h : d.IsSettled) {v : Value}
    (hv : v = d.toValue ∨ v = .record [("report", d.toValue)]) : definition path v = .ok d := by
  rcases hv with rfl | rfl
  · rw [definition_toValue, Definition.settled_eq_self h]
  · show LoadError.ofRejection ((Definition.check d.toValue).as .definition) = .ok d
    rw [h.check_toValue]
    rfl

/-- A file with JSON is read as its text. -/
theorem loadDefinition_eq (hsuffix : path.suffix = ".json") (hfile : files.find? path = some (.file place text))
    (hends : '\r' ∉ text.toList) : loadDefinition files path = ofJson text >>= definition path := by
  have htext : Document.text .definition files path = .ok text := by
    rw [Document.text, hfile]
    simp only [Files.normalizeLineEnds_eq_self hends, String.ofList_toList]
  simp only [loadDefinition, htext, hsuffix, if_true]
  rfl

theorem loadDefinition_eq_ok (h : d.IsSettled) (hsuffix : path.suffix = ".json")
    (hfile : files.find? path = some (.file place text)) (hends : '\r' ∉ text.toList) {v : Value}
    (hparse : Json.parse text = .ok v) (hv : v = d.toValue ∨ v = .record [("report", d.toValue)]) :
    loadDefinition files path = .ok d := by
  have hjson : ofJson text = .ok v := by rw [ofJson, hparse]
  rw [loadDefinition_eq hsuffix hfile hends, hjson]
  exact definition_eq_ok h hv

/-- The texts that hold a definition: its own, the same between braces under the key `report`, and that
of a record with it in the same layout. -/
def textsOf (layout : Json.Layout) (d : Definition) : List String :=
  [d.toJson layout, "\x7b\"report\": " ++ d.toJson layout ++ "\x7d",
   Json.render layout (.record [("report", d.toValue)])]

/-- Each of them is JSON for the definition or for a record with it, on lines that end in newlines. -/
theorem parse_of_mem_textsOf {layout : Json.Layout} (hlayout : layout.IsPlain)
    (h : text ∈ textsOf layout d) : '\r' ∉ text.toList ∧ ∃ v, Json.parse text = .ok v ∧
      (v = d.toValue ∨ v = .record [("report", d.toValue)]) := by
  have hplain := d.plain_toValue
  have hwrapped : Json.Plain (.record [("report", d.toValue)]) :=
    .record (by simp) (by simpa using hplain)
  have hends {v : Value} (hv : Json.Plain v) : '\r' ∉ (Json.render layout v).toList := by
    rw [Json.render, String.toList_ofList]
    exact (hv.calm_chars hlayout 0).not_mem
  simp only [textsOf, Definition.toJson, List.mem_cons, List.not_mem_nil, or_false] at h
  rcases h with rfl | rfl | rfl
  · exact ⟨hends hplain, _, Json.parse_render hlayout hplain, .inl rfl⟩
  · have hfront : "\x7b" ++ String.ofList (Json.stringChars false "report".toList) ++ ":" ++
        String.ofList (List.replicate 1 ' ') = "\x7b\"report\": " := by decide
    refine ⟨by simpa using hends hplain, .record [("report", d.toValue)], ?_, .inr rfl⟩
    rw [← hfront]
    exact Json.parse_member hlayout hplain "report" (Json.isSpace_replicate 1)
  · exact ⟨hends hwrapped, _, Json.parse_render hlayout hwrapped, .inr rfl⟩

end Document

/-- What was read as a definition is read as the same definition from its value, from its texts, and from
files with them. -/
theorem Definition.reads_back {v : Value} {d : Definition} (h : Definition.check v = .ok d) :
    Definition.check d.toValue = .ok d ∧
      ∀ layout ∈ [Json.Layout.compact, Json.Layout.pretty],
        Definition.ofJson (d.toJson layout) = .ok d ∧
        ∀ text ∈ Document.textsOf layout d, ∀ (files : Files) (path : Path) (place : List String),
          path.suffix = ".json" → files.find? path = some (.file place text) →
            Document.loadDefinition files path = .ok d := by
  have hsettled := Definition.isSettled_of_check h
  refine ⟨hsettled.check_toValue, fun layout hmem => ?_⟩
  have hlayout : layout.IsPlain := by
    simp only [List.mem_cons, List.not_mem_nil, or_false] at hmem
    rcases hmem with rfl | rfl
    · exact Json.Layout.compact_isPlain
    · exact Json.Layout.pretty_isPlain
  refine ⟨Definition.ofJson_toJson hlayout hsettled, fun text htext files path place hsuffix hfile => ?_⟩
  obtain ⟨hends, v, hparse, hv⟩ := Document.parse_of_mem_textsOf hlayout htext
  exact Document.loadDefinition_eq_ok hsettled hsuffix hfile hends hparse hv

/-! ### A definition with much to settle

Quotes, backslashes and control characters in its texts, filter values that are no texts, a blank grouping
and a field that no definition has. -/

namespace Definition

def scrawl : Value :=
  .record [("name", .text "\"Q1\"\n\\ é"), ("entity", .text "companies"),
    ("columns", .list [.text "na\"me", .text "a\u0001\r\tb"]), ("group_by", .text " \t"),
    ("note", .int 7),
    ("filters", .list [
      .record [("field", .text "size"), ("operator", .text "greater_than"), ("value", .int (-12))],
      .record [("field", .text "tier"), ("value", .bool true)],
      .record [("field", .text "tier"), ("operator", .text "contains"), ("value", .null)]]),
    ("aggregations", .list [.record [("field", .text "size"), ("function", .text "avg")]])]

def scrawled : Definition :=
  { entity := "companies", columns := ["na\"me", "a\u0001\r\tb"],
    filters := [⟨"size", .greaterThan, "-12"⟩, ⟨"tier", .equals, "true"⟩, ⟨"tier", .contains, ""⟩],
    aggregations := [⟨.avg, "size"⟩], name := "\"Q1\"\n\\ é" }

def scrawledFiles : Files :=
  { entries := [(["reports", "q1.json"],
      "\x7b\"report\": " ++ scrawled.toJson .pretty ++ "\x7d")] }

def scrawledPath : Path := ⟨"", ["reports", "q1.json"]⟩

theorem scrawled_reads_back : check scrawl = .ok scrawled ∧ check scrawled.toValue = .ok scrawled ∧
    ofJson (scrawled.toJson .pretty) = .ok scrawled ∧
    Document.loadDefinition scrawledFiles scrawledPath = .ok scrawled := by
  have h : check scrawl = .ok scrawled := by decide +kernel
  obtain ⟨hvalue, htexts⟩ := reads_back h
  obtain ⟨hjson, hfiles⟩ := htexts .pretty (by simp)
  exact ⟨h, hvalue, hjson, hfiles _ (by simp [Document.textsOf]) scrawledFiles scrawledPath
    ["reports", "q1.json"] (by decide) rfl⟩

end Definition

end Rollup
