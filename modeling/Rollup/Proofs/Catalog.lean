import Rollup.Proofs.Calls
import Rollup.Proofs.Registry

/-!
# Catalogs of registered entities

The catalog of a registered entity holds its built-in fields and then the custom fields under their keys,
of fields with one key the first (`Catalog.Merges`). It depends on a registry of custom fields only through
what that is asked for, and no one is asked about an entity that is not registered
(`Engine.resolve_merges`).
-/

namespace Rollup

/-- A custom field as it stands in a catalog. -/
def Field.asCustom (f : Field) : Field := { f with key := customFieldKey f.key, kind := .custom }

namespace Catalog

/-- The custom fields that an answer lists. -/
def listing (outcome? : Option (Except Failure (Option (List Field)))) : List Field :=
  match outcome? with
  | some (.ok (some custom)) => custom
  | _ => []

/-- What is said of an answer that is a failure. -/
def notices (entity : String) (outcome? : Option (Except Failure (Option (List Field)))) :
    List Warning :=
  match outcome? with
  | some (.error failure) => [⟨ErrorKind.partialCatalog.name,
      "Custom fields for '" ++ entity ++ "' are unavailable: " ++ failure.text⟩]
  | _ => []

/-- Fields are those of a list under the keys of custom fields, of fields with one key the first. -/
structure Collects (custom fields : List Field) : Prop where
  keys : fields.map (·.key) = ((custom.map Field.asCustom).map (·.key)).eraseDups
  first : ∀ g ∈ fields, (custom.map Field.asCustom).find? (fun f => f.key == g.key) = some g

/-- A catalog consists of the built-in fields of an entity and of the custom fields in an answer. -/
structure Merges (catalog : Catalog) (e : Entity)
    (outcome? : Option (Except Failure (Option (List Field)))) : Prop where
  entity : catalog.entity = e.name
  nodup : catalog.keys.Nodup
  fields : ∃ custom, catalog.fields = e.fields ++ custom ∧ Collects (listing outcome?) custom ∧
    ∀ g ∈ custom, g.kind = .custom ∧ HasCustomPrefix g.key
  failed : ∀ failure, outcome? = some (.error failure) → catalog.fields = e.fields
  warnings : catalog.warnings = notices e.name outcome?

/-! ## Custom fields -/

theorem keys_customFields (seen : List String) (fs : List Field) :
    (customFields seen fs).map (·.key) =
      (distinct ((fs.map Field.asCustom).map (·.key))).filter (· ∉ seen) := by
  -- a key that is seen joins `seen`, and leaves what `distinct` has behind it
  induction fs generalizing seen with
  | nil => rfl
  | cons f fs ih =>
    have hkey : f.asCustom.key = customFieldKey f.key := rfl
    rw [List.map_cons, List.map_cons, distinct, hkey, customFields]
    by_cases hseen : customFieldKey f.key ∈ seen
    · rw [if_pos (by simpa using hseen), ih, List.filter_cons_of_neg (by simpa using hseen),
        List.filter_filter]
      refine List.filter_congr fun key _ => ?_
      by_cases hkey : key = customFieldKey f.key <;> simp [hkey, hseen]
    · rw [if_neg (by simpa using hseen), List.map_cons, ih,
        List.filter_cons_of_pos (by simpa using hseen), List.filter_filter]
      refine congrArg (customFieldKey f.key :: ·) (List.filter_congr fun key _ => ?_)
      by_cases hkey : key = customFieldKey f.key <;> simp [hkey]

theorem find?_of_mem_customFields {seen : List String} {fs : List Field} {g : Field}
    (h : g ∈ customFields seen fs) :
    g.key ∉ seen ∧ (fs.map Field.asCustom).find? (fun f => f.key == g.key) = some g := by
  induction fs generalizing seen with
  | nil => cases h
  | cons f fs ih =>
    have hkey : f.asCustom.key = customFieldKey f.key := rfl
    rw [customFields] at h
    rw [List.map_cons]
    split_ifs at h with hseen
    · obtain ⟨hnew, hfind⟩ := ih h
      have hmem : f.asCustom.key ∈ seen := by simpa [hkey] using hseen
      have hne : f.asCustom.key ≠ g.key := fun heq => hnew (heq ▸ hmem)
      rw [List.find?_cons_of_neg (by simpa using hne)]
      exact ⟨hnew, hfind⟩
    · rcases List.mem_cons.1 h with rfl | h
      · exact ⟨by simpa using hseen, List.find?_cons_of_pos (by simp [hkey])⟩
      · obtain ⟨hnew, hfind⟩ := ih h
        rw [List.mem_cons, not_or] at hnew
        have hne : f.asCustom.key ≠ g.key := fun heq => hnew.1 heq.symm
        rw [List.find?_cons_of_neg (by simpa using hne)]
        exact ⟨hnew.2, hfind⟩

theorem isCustom_of_mem_map {fs : List Field} {g : Field} (h : g ∈ fs.map Field.asCustom) :
    g.kind = .custom ∧ HasCustomPrefix g.key := by
  obtain ⟨f, -, rfl⟩ := List.mem_map.1 h
  exact ⟨rfl, hasCustomPrefix_customFieldKey f.key⟩

/-- No custom field is left out for the keys of built-in fields. -/
theorem collects_customFields {seen : List String} (hseen : ∀ key ∈ seen, ¬ HasCustomPrefix key)
    (fs : List Field) : Collects fs (customFields seen fs) := by
  refine ⟨?_, fun g hg => (find?_of_mem_customFields hg).2⟩
  rw [keys_customFields, ← distinct_eq_eraseDups]
  refine List.filter_eq_self.2 fun key hkey => ?_
  obtain ⟨g, hg, rfl⟩ := List.mem_map.1 (mem_distinct.1 hkey)
  have hnot : g.key ∉ seen := fun hmem => hseen _ hmem (isCustom_of_mem_map hg).2
  simpa using hnot

theorem Collects.isCustom {custom fields : List Field} (h : Collects custom fields) {g : Field}
    (hg : g ∈ fields) : g.kind = .custom ∧ HasCustomPrefix g.key :=
  isCustom_of_mem_map (List.mem_of_find?_eq_some (h.first g hg))

theorem Collects.nodup {custom fields : List Field} (h : Collects custom fields) :
    (fields.map (·.key)).Nodup := by
  rw [h.keys, ← distinct_eq_eraseDups]
  exact nodup_distinct _

theorem ofReply_eq (entity : String) (builtIns : List Field)
    (outcome? : Option (Except Failure (Option (List Field)))) :
    ofReply entity builtIns outcome? =
      ⟨entity, builtIns ++ customFields (builtIns.map (·.key)) (listing outcome?),
        notices entity outcome?⟩ := by
  unfold ofReply listing notices
  rcases outcome? with _ | failure | _ | custom
  · simp [customFields]
  · simp [customFields, degraded]
  · simp [customFields, merge]
  · simp [merge]

theorem merges_ofReply {e : Entity} (hown : e.HasOwnKeys)
    (outcome? : Option (Except Failure (Option (List Field)))) :
    (ofReply e.name e.fields outcome?).Merges e outcome? := by
  have hbuiltIns : ∀ key ∈ e.fields.map (·.key), ¬ HasCustomPrefix key := by
    intro key hkey
    obtain ⟨f, hf, rfl⟩ := List.mem_map.1 hkey
    exact hown.unprefixed f hf
  have hcollects := collects_customFields hbuiltIns (listing outcome?)
  rw [ofReply_eq]
  refine ⟨rfl, ?_, ⟨_, rfl, hcollects, fun g hg => hcollects.isCustom hg⟩, ?_, rfl⟩
  -- built-in and custom keys differ in the prefix
  · rw [keys, List.map_append, List.nodup_append]
    refine ⟨hown.nodup, hcollects.nodup, fun key hkey other hother heq => ?_⟩
    obtain ⟨g, hg, rfl⟩ := List.mem_map.1 hother
    exact hbuiltIns key hkey (heq ▸ (hcollects.isCustom hg).2)
  · rintro failure rfl
    simp [listing, customFields]

end Catalog

/-! ## Resolving -/

namespace Registry
variable {r : Registry}

theorem IsSound.find? (h : r.IsSound) {e : Entity} (he : e ∈ r.entities) : r.find? e.name = some e :=
  find?_eq_some_of_nodup h.nodup he

theorem IsSound.builtIns (h : r.IsSound) {e : Entity} (he : e ∈ r.entities) :
    r.builtIns e.name = .ok e.fields := by
  unfold Registry.builtIns Registry.get
  rw [h.find? he]
  rfl

theorem find?_eq_none {name : String} (h : name ∉ r.names) : r.find? name = none := by
  refine List.find?_eq_none.2 fun e he heq => h ?_
  exact List.mem_map.2 ⟨e, he, by simpa using heq⟩

end Registry

namespace Engine
variable {engine : Engine}

/-- What the registry of custom fields answers for an entity, if there is one. -/
def answer? (engine : Engine) (entity : String) : Option (Except Failure (Option (List Field))) :=
  engine.fields?.map fun source => (source entity).outcome

theorem resolve_of_builtIns {entity : String} {builtIns : List Field}
    (h : engine.registry.builtIns entity = .ok builtIns) :
    engine.resolve entity = .ok (Catalog.ofReply entity builtIns (engine.answer? entity)) := by
  unfold Engine.resolve Catalog.resolve
  rw [h]
  rfl

theorem resolve_of_builtIns_eq_error {entity : String} {e : ReportError}
    (h : engine.registry.builtIns entity = .error e) : engine.resolve entity = .error e := by
  unfold Engine.resolve Catalog.resolve
  rw [h]
  rfl

theorem resolve_eq {e : Entity} (hsound : engine.registry.IsSound) (he : e ∈ engine.registry.entities) :
    engine.resolve e.name = .ok (Catalog.ofReply e.name e.fields (engine.answer? e.name)) :=
  resolve_of_builtIns (hsound.builtIns he)

theorem resolveNow_eq {e : Entity} (hsound : engine.registry.IsSound)
    (he : e ∈ engine.registry.entities)
    (hnow : ∀ source, engine.fields? = some source → (source e.name).deferred = false) :
    engine.resolveNow e.name = .ok (Catalog.ofReply e.name e.fields (engine.answer? e.name)) := by
  have hany : engine.fields?.any (fun source => (source e.name).deferred) = false := by
    cases hsource : engine.fields? with
    | none => rfl
    | some source => exact hnow source hsource
  unfold Engine.resolveNow Catalog.resolveNow
  rw [hsound.builtIns he]
  dsimp only
  rw [hany]
  rfl

/-- A catalog depends on the registry of custom fields only through what that is asked. -/
theorem resolve_congr {entity : String} {other? : Option FieldSource}
    (hsome : other?.isSome = engine.fields?.isSome)
    (h : ∀ asked ∈ engine.resolveCalls entity, { engine with fields? := other? }.answer? asked =
      engine.answer? asked) :
    { engine with fields? := other? }.resolve entity = engine.resolve entity := by
  unfold resolveCalls at h
  unfold Engine.resolve Catalog.resolve Registry.builtIns Registry.get
  cases hfind : engine.registry.find? entity with
  | none => rfl
  | some e =>
    have hanswer : other?.map (fun source => (source entity).outcome) =
        engine.fields?.map fun source => (source entity).outcome :=
      outcome_congr hsome fun hfields => h entity (by simp [hfields, hfind])
    dsimp only
    rw [hanswer]

/-- The catalogs of the entities of a registry that requests have led to. Whether a registry of custom
fields answers at once or later makes no difference to them. -/
theorem resolve_merges (hregistry : engine.registry.IsReached) :
    (∀ e ∈ engine.registry.entities, ∃ catalog, engine.resolve e.name = .ok catalog ∧
      catalog.Merges e (engine.answer? e.name) ∧
      ((∀ source, engine.fields? = some source → (source e.name).deferred = false) →
        engine.resolveNow e.name = .ok catalog)) ∧
    (∀ entity ∉ engine.registry.names, engine.resolve entity = .error (.unknownEntity entity) ∧
      engine.resolveNow entity = .error (.report (.unknownEntity entity)) ∧
      engine.resolveCalls entity = []) ∧
    ∀ (entity : String) (other? : Option FieldSource), other?.isSome = engine.fields?.isSome →
      (∀ asked ∈ engine.resolveCalls entity, { engine with fields? := other? }.answer? asked =
        engine.answer? asked) →
      { engine with fields? := other? }.resolve entity = engine.resolve entity := by
  have hsound := hregistry.isSound
  refine ⟨fun e he => ?_, fun entity hentity => ?_, fun entity other? hsome h => resolve_congr hsome h⟩
  · exact ⟨_, resolve_eq hsound he, Catalog.merges_ofReply (hsound.keys e he) _,
      resolveNow_eq hsound he⟩
  · have hfind := Registry.find?_eq_none hentity
    refine ⟨resolve_eq_error_iff.2 ⟨rfl, hentity⟩, ?_, ?_⟩
    · unfold Engine.resolveNow Catalog.resolveNow Registry.builtIns Registry.get
      rw [hfind]
      rfl
    · simp [resolveCalls, hfind]

/-- A registry of custom fields with two fields for one key of the catalog. -/
def twinFields : List Field :=
  [⟨"tier", "Tier", .builtIn, .number⟩, ⟨"custom.tier", "Other tier", .custom, .text⟩,
   ⟨"", "No name", .custom, .text⟩]

def twinEngine : Engine :=
  { registry := .default, store := { fetch := fun _ => ⟨none, .ok []⟩ },
    fields? := some fun _ => ⟨false, .ok (some twinFields)⟩ }

theorem twinEngine_resolve_merges : twinEngine.registry.IsReached ∧
    (∀ e ∈ Registry.default.entities, ∃ catalog, twinEngine.resolve e.name = .ok catalog ∧
      catalog.Merges e (some (.ok (some twinFields))) ∧ twinEngine.resolveNow e.name = .ok catalog) ∧
    twinEngine.resolve "planets" = .error (.unknownEntity "planets") ∧
    twinEngine.resolveNow "planets" = .error (.report (.unknownEntity "planets")) ∧
    twinEngine.resolveCalls "planets" = [] := by
  have hreached : twinEngine.registry.IsReached := Registry.isReached_default
  obtain ⟨hknown, hunknown, -⟩ := resolve_merges hreached
  refine ⟨hreached, fun e he => ?_, hunknown "planets" (by decide)⟩
  obtain ⟨catalog, hcatalog, hmerges, hnow⟩ := hknown e he
  refine ⟨catalog, hcatalog, hmerges, hnow ?_⟩
  rintro source hsource
  obtain rfl := Option.some.inj hsource
  rfl

end Engine

end Rollup
