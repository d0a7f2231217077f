import Rollup.Proofs.Catalog
import Rollup.Proofs.Json.Path
import Rollup.Proofs.Json.Reader
import Rollup.Sql.Evaluator

/-!
# Names of custom fields

What becomes of the name under which a registry knows a custom field: it gets a key in the catalog, and
queries read the member that this key leads to. That is the member of the same name exactly if the name is
without the prefix. A field whose name has the prefix is taken to be named like what follows it, so it
cannot be told apart from a field of that name (`Catalog.HasTwins`). For all other lists of fields nothing
is lost (`Engine.resolve_names`).
-/

namespace Rollup

namespace Sql

/-- The text of a member of a JSON value. What is no object has no members. -/
def memberOf (v : Value) (name : String) : Value :=
  match v with
  | .record fields =>
    match lookup? name fields with
    | none | some .null => .null
    | some (.text s) => .text s
    | some member => .text (Json.render .compact member)
  | _ => .null

/-- An expression reads the text of a member of the JSON value in a column. -/
def Expr.Addresses (e : Expr) (column name : String) : Prop :=
  ∀ (t : Table) (row : List Value), e.eval t row =
    match t.cell? column row with
    | none => .error (.noColumn column)
    | some (.text json) => match Json.parse json with
      | .error _ => .error .malformedJson
      | .ok v => .ok (memberOf v name)
    | some _ => .ok .null

theorem textOfMember_ofKey (json name : String) : textOfMember json (Json.Path.ofKey name) =
    match Json.parse json with
    | .error _ => .error .malformedJson
    | .ok v => .ok (memberOf v name) := by
  unfold textOfMember
  rw [Json.Path.key?_ofKey]
  cases Json.parse json with
  | error e => rfl
  | ok v =>
    cases v with
    | record fields =>
      dsimp only [memberOf]
      rcases lookup? name fields with _ | member
      · rfl
      · cases member <;> rfl
    | _ => rfl

theorem Schema.addresses_source (schema : Schema) {key : String} (h : HasCustomPrefix key) :
    (schema.source key).Addresses schema.customColumn (stripCustomPrefix key) := by
  obtain ⟨name, rfl⟩ := hasCustomPrefix_iff.1 h
  intro t row
  rw [stripCustomPrefix_append, source, customName?_eq_some_iff.2 rfl]
  dsimp only [Expr.eval]
  cases t.cell? schema.customColumn row with
  | none => rfl
  | some v =>
    cases v with
    | text json => exact textOfMember_ofKey json name
    | _ => rfl

theorem Expr.Addresses.unique {e : Expr} {column name other : String} (h : e.Addresses column name)
    (hother : e.Addresses column other) : name = other := by
  -- a row whose object has `name` as its only member tells `name` from all other names
  let v : Value := .record [(name, .text "")]
  let t : Table := { name := "", columns := [{ name := column, type := .varchar }] }
  have hcell : t.cell? column [.text (Json.render .compact v)] =
      some (.text (Json.render .compact v)) := by
    simp [Table.cell?, Table.indexOf?, t, sameName]
  have hplain : Json.Plain v := .record (by simp) (by simpa using .text "")
  have hparse := Json.parse_render Json.Layout.compact_isPlain hplain
  have heq := (h t [.text (Json.render .compact v)]).symm.trans (hother t _)
  rw [hcell] at heq
  simp only [hparse, memberOf, v, lookup?, if_true] at heq
  by_contra hne
  rw [if_neg hne] at heq
  cases heq

theorem Schema.addresses_source_iff (schema : Schema) {key name : String} (h : HasCustomPrefix key) :
    (schema.source key).Addresses schema.customColumn name ↔ stripCustomPrefix key = name := by
  constructor
  · exact (schema.addresses_source h).unique
  · rintro rfl
    exact schema.addresses_source h

end Sql

namespace Catalog
variable {fs : List Field}

/-- One of two fields is named like the key of the other. -/
def HasTwins (fs : List Field) : Prop :=
  ∃ f ∈ fs, ∃ g ∈ fs, ¬ HasCustomPrefix f.key ∧ g.key = customPrefix ++ f.key

theorem nodup_keys_iff (h : (fs.map (·.key)).Nodup) :
    ((fs.map Field.asCustom).map (·.key)).Nodup ↔ ¬ HasTwins fs := by
  have hkeys : (fs.map Field.asCustom).map (·.key) = (fs.map (·.key)).map customFieldKey := by
    simp [Field.asCustom, Function.comp_def]
  rw [hkeys, List.nodup_map_iff_inj_on h]
  constructor
  · rintro hinj ⟨f, hf, g, hg, hname, htwin⟩
    have heq : customFieldKey f.key = customFieldKey g.key :=
      customFieldKey_eq_iff.2 (.inr (.inl ⟨hname, htwin⟩))
    have hsame := hinj _ (List.mem_map_of_mem hf) _ (List.mem_map_of_mem hg) heq
    rw [← hsame] at htwin
    exact hname (htwin ▸ hasCustomPrefix_append f.key)
  · intro htwins key hkey other hother heq
    obtain ⟨f, hf, rfl⟩ := List.mem_map.1 hkey
    obtain ⟨g, hg, rfl⟩ := List.mem_map.1 hother
    rcases customFieldKey_eq_iff.1 heq with hsame | ⟨hname, htwin⟩ | ⟨hname, htwin⟩
    · exact hsame
    · exact absurd ⟨f, hf, g, hg, hname, htwin⟩ htwins
    · exact absurd ⟨g, hg, f, hf, hname, htwin⟩ htwins

theorem customFields_eq_map {seen : List String} (hseen : ∀ f ∈ fs, f.asCustom.key ∉ seen)
    (hnodup : ((fs.map Field.asCustom).map (·.key)).Nodup) :
    customFields seen fs = fs.map Field.asCustom := by
  induction fs generalizing seen with
  | nil => rfl
  | cons f fs ih =>
    rw [List.map_cons, List.map_cons, List.nodup_cons] at hnodup
    obtain ⟨hfirst, hrest⟩ := hnodup
    have hnew : customFieldKey f.key ∉ seen := hseen f List.mem_cons_self
    rw [customFields, if_neg (by simpa using hnew)]
    refine congrArg (f.asCustom :: ·) (ih (fun g hg hmem => ?_) hrest)
    rcases List.mem_cons.1 hmem with heq | hmem
    · have hkey : g.asCustom.key ∈ (fs.map Field.asCustom).map (·.key) :=
        List.mem_map_of_mem (List.mem_map_of_mem hg)
      rw [heq] at hkey
      exact hfirst hkey
    · exact hseen g (List.mem_cons_of_mem f hg) hmem

/-- All fields are kept exactly if no two of them share a key. -/
theorem customFields_eq_map_iff {seen : List String} (hseen : ∀ key ∈ seen, ¬ HasCustomPrefix key)
    (h : (fs.map (·.key)).Nodup) :
    customFields seen fs = fs.map Field.asCustom ↔ ¬ HasTwins fs := by
  rw [← nodup_keys_iff h]
  constructor
  · intro hkept
    rw [← hkept]
    exact (collects_customFields hseen fs).nodup
  · refine customFields_eq_map fun f _ hmem => ?_
    exact hseen _ hmem (hasCustomPrefix_customFieldKey f.key)

theorem mem_keys_customFields {seen : List String} (hseen : ∀ key ∈ seen, ¬ HasCustomPrefix key)
    {f : Field} (hf : f ∈ fs) : f.asCustom.key ∈ (customFields seen fs).map (·.key) := by
  rw [(collects_customFields hseen fs).keys, List.mem_eraseDups]
  exact List.mem_map_of_mem (List.mem_map_of_mem hf)

end Catalog

namespace Engine
variable {engine : Engine} {e : Entity} {custom : List Field}

/-- Of the fields that a registry lists under different names, a catalog has all exactly if there are no
twins among them. Every one has its key there, and queries read it from the member of its name exactly if
the name is without the prefix, and otherwise from the member named like what follows the prefix. -/
theorem resolve_names (hregistry : engine.registry.IsReached) (he : e ∈ engine.registry.entities)
    (hanswer : engine.answer? e.name = some (.ok (some custom)))
    (hnames : (custom.map (·.key)).Nodup) :
    ∃ catalog, engine.resolve e.name = .ok catalog ∧
      (catalog.fields = e.fields ++ custom.map Field.asCustom ↔ ¬ Catalog.HasTwins custom) ∧
      ∀ f ∈ custom, f.asCustom.key ∈ catalog.keys ∧
        (stripCustomPrefix f.asCustom.key = f.key ↔ ¬ HasCustomPrefix f.key) ∧
        ∀ (schema : Sql.Schema) (name : String),
          (schema.source f.asCustom.key).Addresses schema.customColumn name ↔
            stripCustomPrefix f.asCustom.key = name := by
  have hsound := hregistry.isSound
  have hbuiltIns : ∀ key ∈ e.fields.map (·.key), ¬ HasCustomPrefix key :=
    List.forall_mem_map.2 (hsound.keys e he).unprefixed
  have hcatalog := resolve_eq hsound he
  rw [hanswer, Catalog.ofReply_eq] at hcatalog
  refine ⟨_, hcatalog, ?_, fun f hf => ⟨?_, stripCustomPrefix_customFieldKey_eq_iff, ?_⟩⟩
  · rw [List.append_cancel_left_eq]
    exact Catalog.customFields_eq_map_iff hbuiltIns hnames
  · rw [Catalog.keys, List.map_append]
    exact List.mem_append_right _ (Catalog.mem_keys_customFields hbuiltIns hf)
  · intro schema name
    exact schema.addresses_source_iff (hasCustomPrefix_customFieldKey f.key)

def companyEntity : Entity :=
  Registry.defaultEntity "companies" "Companies"
    [{ key := "name", label := "Name" }, { key := "website", label := "Website" },
     { key := "industry", label := "Industry" }, { key := "size", label := "Size" }]

/-- Names that need care in a query, one of them with the prefix. -/
def oddFields : List Field :=
  [⟨"", "No name", .custom, .text⟩, ⟨"name", "Other name", .custom, .text⟩,
   ⟨"a.\"b\"", "Quoted", .custom, .text⟩, ⟨"custom.tier", "Tier", .custom, .number⟩]

def oddEngine : Engine :=
  { twinEngine with fields? := some fun _ => ⟨true, .ok (some oddFields)⟩ }

theorem oddEngine_resolve_names : oddEngine.registry.IsReached ∧
    companyEntity ∈ oddEngine.registry.entities ∧
    oddEngine.answer? "companies" = some (.ok (some oddFields)) ∧ (oddFields.map (·.key)).Nodup ∧
    ∃ catalog, oddEngine.resolve "companies" = .ok catalog ∧
      catalog.fields = companyEntity.fields ++ oddFields.map Field.asCustom ∧
      ∀ name, (({} : Sql.Schema).source "custom.a.\"b\"").Addresses "custom_fields" name ↔
        "a.\"b\"" = name := by
  have hreached : oddEngine.registry.IsReached := Registry.isReached_default
  have hmem : companyEntity ∈ oddEngine.registry.entities := by decide
  have hanswer : oddEngine.answer? companyEntity.name = some (.ok (some oddFields)) := rfl
  have hnames : (oddFields.map (·.key)).Nodup := by decide
  obtain ⟨catalog, hcatalog, hall, hread⟩ := resolve_names hreached hmem hanswer hnames
  obtain ⟨-, hstrip, hsource⟩ := hread ⟨"a.\"b\"", "Quoted", .custom, .text⟩ (by decide)
  have htwins : ¬ Catalog.HasTwins oddFields := by unfold Catalog.HasTwins; decide
  refine ⟨hreached, hmem, hanswer, hnames, catalog, hcatalog, hall.2 htwins, fun name => ?_⟩
  have hname := hstrip.2 (by decide)
  have hread := hsource {} name
  rw [hname] at hread
  exact hread

/-- Two fields under different names of which a catalog has one, and a name that its key does not lead
back to. -/
theorem twinEngine_merges_names : (twinFields.map (·.key)).Nodup ∧
    twinEngine.answer? "companies" = some (.ok (some twinFields)) ∧
    (∃ catalog, twinEngine.resolve "companies" = .ok catalog ∧
      catalog.fields = companyEntity.fields ++
        [⟨"custom.tier", "Tier", .custom, .number⟩, ⟨"custom.", "No name", .custom, .text⟩]) ∧
    stripCustomPrefix (customFieldKey "custom.tier") = "tier" ∧
    ¬ (({} : Sql.Schema).source (customFieldKey "custom.tier")).Addresses "custom_fields"
      "custom.tier" := by
  refine ⟨by decide, rfl, ⟨_, rfl, by decide⟩, by decide, fun haddresses => ?_⟩
  have hstrip := (Sql.Schema.addresses_source_iff {} (by decide)).1 haddresses
  exact absurd hstrip (by decide)

end Engine

end Rollup
