import Rollup.Document
import Rollup.Proofs.Field
import Mathlib.Data.List.Nodup

/-!
# Registries over whole runs

A registry keeps what catalogs rely on (`Registry.IsSound`) through any requests, also through those that
fail, and it holds the entities on record, in the order in which they were registered (`Registry.recorded`).
Loading entities stops at the first value that does not become one and keeps those before it
(`Registry.Loads`). All of this together is `Registry.serveAll_keeps`.
-/

namespace Rollup

/-! ## Entities that can be registered -/

/-- The keys of the fields are distinct, and none lies in the space of custom fields. -/
structure Entity.HasOwnKeys (e : Entity) : Prop where
  nodup : (e.fields.map (·.key)).Nodup
  unprefixed : ∀ f ∈ e.fields, ¬ HasCustomPrefix f.key

instance (e : Entity) : Decidable e.HasOwnKeys :=
  decidable_of_iff ((e.fields.map (·.key)).Nodup ∧ ∀ f ∈ e.fields, ¬ HasCustomPrefix f.key)
    ⟨fun h => ⟨h.1, h.2⟩, fun h => ⟨h.nodup, h.unprefixed⟩⟩

/-- An entity as it is registered. -/
def Entity.asBuiltIn (e : Entity) : Entity :=
  { e with fields := e.fields.map fun f => { f with kind := .builtIn } }

/-- Why an entity cannot be registered behind entities of given names. Of its fields the first one that
cannot stand behind those before it counts. -/
inductive Entity.Refused (names : List String) (e : Entity) : EntityError → Prop
  | duplicateEntity (h : e.name ∈ names) : Refused names e (.duplicateEntity e.name)
  | duplicateField {before after : List Field} {f : Field} (hname : e.name ∉ names)
      (hfields : e.fields = before ++ f :: after) (hbefore : { e with fields := before }.HasOwnKeys)
      (h : f.key ∈ before.map (·.key)) : Refused names e (.duplicateField f.key e.name)
  | reservedPrefix {before after : List Field} {f : Field} (hname : e.name ∉ names)
      (hfields : e.fields = before ++ f :: after) (hbefore : { e with fields := before }.HasOwnKeys)
      (hnew : f.key ∉ before.map (·.key)) (h : HasCustomPrefix f.key) :
      Refused names e (.reservedPrefix f.key e.name)

/-- The entities that can be registered one after another, behind entities of given names: as many as
there are before the first value that is no entity, or one that cannot be registered. -/
def Entity.admitted (names : List String) : List Value → List Entity
  | [] => []
  | v :: vs => match Entity.check v with
    | .ok e => if e.name ∉ names ∧ e.HasOwnKeys then e :: admitted (names ++ [e.name]) vs else []
    | .error _ => []

namespace Registry
variable {r r' : Registry} {e : Entity} {es : List Entity} {v : Value} {vs : List Value}

/-- The registry with further entities behind its own. -/
def extend (r : Registry) (es : List Entity) : Registry := ⟨r.entities ++ es.map (·.asBuiltIn)⟩

/-- Entities can be registered one after another. -/
structure Admits (r : Registry) (es : List Entity) : Prop where
  nodup : (es.map (·.name)).Nodup
  new : ∀ e ∈ es, e.name ∉ r.names
  keys : ∀ e ∈ es, e.HasOwnKeys

theorem names_extend (r : Registry) (es : List Entity) :
    (r.extend es).names = r.names ++ es.map (·.name) := by
  simp [names, extend, Entity.asBuiltIn, Function.comp_def]

theorem extend_nil (r : Registry) : r.extend [] = r := by
  simp [extend]

theorem extend_extend (r : Registry) (es more : List Entity) :
    (r.extend es).extend more = r.extend (es ++ more) := by
  simp [extend]

theorem admits_nil (r : Registry) : r.Admits [] := ⟨.nil, by simp, by simp⟩

theorem admits_singleton : r.Admits [e] ↔ e.name ∉ r.names ∧ e.HasOwnKeys := by
  constructor
  · intro h
    exact ⟨h.new e List.mem_cons_self, h.keys e List.mem_cons_self⟩
  · rintro ⟨hname, hown⟩
    exact ⟨List.nodup_singleton _, by simpa using hname, by simpa using hown⟩

theorem admits_append {more : List Entity} :
    r.Admits (es ++ more) ↔ r.Admits es ∧ (r.extend es).Admits more := by
  constructor
  · rintro ⟨hnodup, hnew, hkeys⟩
    rw [List.map_append, List.nodup_append] at hnodup
    obtain ⟨hes, hmore, hdisjoint⟩ := hnodup
    obtain ⟨hnew, hnewMore⟩ := List.forall_mem_append.1 hnew
    obtain ⟨hkeys, hkeysMore⟩ := List.forall_mem_append.1 hkeys
    refine ⟨⟨hes, hnew, hkeys⟩, hmore, fun e he hmem => ?_, hkeysMore⟩
    rw [names_extend] at hmem
    rcases List.mem_append.1 hmem with hmem | hmem
    · exact hnewMore e he hmem
    · exact hdisjoint _ hmem _ (List.mem_map_of_mem he) rfl
  · rintro ⟨⟨hes, hnew, hkeys⟩, hmore, hnewMore, hkeysMore⟩
    rw [names_extend] at hnewMore
    refine ⟨?_, List.forall_mem_append.2 ⟨hnew, fun e he hmem => ?_⟩,
      List.forall_mem_append.2 ⟨hkeys, hkeysMore⟩⟩
    · rw [List.map_append, List.nodup_append]
      refine ⟨hes, hmore, fun name hname other hother heq => ?_⟩
      obtain ⟨e, he, rfl⟩ := List.mem_map.1 hother
      exact hnewMore e he (List.mem_append_right _ (heq ▸ hname))
    · exact hnewMore e he (List.mem_append_left _ hmem)

theorem admits_cons :
    r.Admits (e :: es) ↔ (e.name ∉ r.names ∧ e.HasOwnKeys) ∧ (r.extend [e]).Admits es := by
  show r.Admits ([e] ++ es) ↔ _
  rw [admits_append, admits_singleton]

/-! ## Registering one entity -/

theorem checkKeys_cases (e : Entity) (before after : List Field)
    (hbefore : { e with fields := before }.HasOwnKeys) :
    (checkKeys e.name (before.map (·.key)).reverse (after.map (·.key)) = .ok () ∧
      { e with fields := before ++ after }.HasOwnKeys) ∨
    ∃ reason, checkKeys e.name (before.map (·.key)).reverse (after.map (·.key)) = .error reason ∧
      ∀ names, e.name ∉ names → { e with fields := before ++ after }.Refused names reason := by
  -- the keys of `before` are those seen so far, and `hbefore` is what the checks of them have shown
  induction after generalizing before with
  | nil => exact .inl ⟨rfl, by simpa using hbefore⟩
  | cons f after ih =>
    rw [List.map_cons, checkKeys]
    by_cases hrepeated : f.key ∈ before.map (·.key)
    · refine .inr ⟨_, if_pos (by simpa using hrepeated), fun names hname => ?_⟩
      exact .duplicateField hname rfl hbefore hrepeated
    · rw [if_neg (by simpa using hrepeated)]
      by_cases hprefix : HasCustomPrefix f.key
      · refine .inr ⟨_, if_pos (isCustomKey_iff.2 hprefix), fun names hname => ?_⟩
        exact .reservedPrefix hname rfl hbefore hrepeated hprefix
      · rw [if_neg (mt isCustomKey_iff.1 hprefix)]
        have hnext : { e with fields := before ++ [f] }.HasOwnKeys := by
          refine ⟨?_, fun g hg => ?_⟩
          · rw [List.map_append, List.nodup_append]
            refine ⟨hbefore.nodup, List.nodup_singleton _, fun key hkey other hother heq => ?_⟩
            rw [heq, List.mem_singleton.1 hother] at hkey
            exact hrepeated hkey
          · rcases List.mem_append.1 hg with hg | hg
            · exact hbefore.unprefixed g hg
            · rwa [List.mem_singleton.1 hg]
        have hrest := ih (before ++ [f]) hnext
        simpa using hrest

theorem register_cases (r : Registry) (e : Entity) :
    (r.register e = .ok (r.extend [e]) ∧ e.name ∉ r.names ∧ e.HasOwnKeys) ∨
    ∃ reason, r.register e = .error reason ∧ e.Refused r.names reason := by
  unfold register
  by_cases hname : e.name ∈ r.names
  · exact .inr ⟨_, if_pos (by simpa using hname), .duplicateEntity hname⟩
  · rw [if_neg (by simpa using hname)]
    have hnone : { e with fields := [] }.HasOwnKeys := ⟨.nil, by simp⟩
    rcases checkKeys_cases e [] e.fields hnone with ⟨hcheck, hown⟩ | ⟨reason, hcheck, hreason⟩
    · refine .inl ⟨?_, hname, hown⟩
      simp only [List.map_nil, List.reverse_nil] at hcheck
      rw [hcheck]
      rfl
    · refine .inr ⟨reason, ?_, hreason r.names hname⟩
      simp only [List.map_nil, List.reverse_nil] at hcheck
      rw [hcheck]
      rfl

theorem not_refused_of_admitted {names : List String} (hname : e.name ∉ names) (hown : e.HasOwnKeys)
    (reason : EntityError) : ¬ e.Refused names reason := by
  rintro (h | ⟨-, hfields, -, h⟩ | ⟨-, hfields, -, -, h⟩)
  · exact hname h
  · have hnodup := hown.nodup
    rw [hfields, List.map_append, List.nodup_append] at hnodup
    exact hnodup.2.2 _ h _ List.mem_cons_self rfl
  · exact hown.unprefixed _ (by simp [hfields]) h

/-! ## Registering values -/

/-- Why a value is not registered. -/
inductive Refuses (r : Registry) (v : Value) : LoadError → Prop
  | rejected {problems : List Problem} (h : Entity.check v = .error problems) :
      Refuses r v (.rejected ⟨.entity, problems⟩)
  | refused {e : Entity} {reason : EntityError} (h : Entity.check v = .ok e)
      (hreason : e.Refused r.names reason) : Refuses r v (.refused reason)

/-- What registering values one after another leads to: the first of them are registered, up to the end or
to one that is refused. -/
structure Loads (r : Registry) (vs : List Value) (es : List Entity)
    (result : Registry × Except LoadError Unit) : Prop where
  read : List.Forall₂ (fun v e => Entity.check v = .ok e) (vs.take es.length) es
  admits : r.Admits es
  left : result.1 = r.extend es
  outcome : match vs[es.length]? with
    | none => result.2 = .ok ()
    | some v => ∃ e, result.2 = .error e ∧ (r.extend es).Refuses v e

theorem registerValues_loads (r : Registry) (vs : List Value) :
    r.Loads vs (Entity.admitted r.names vs) (r.registerValues vs) := by
  -- the registry grows by the first entity before the rest of the values is looked at
  induction vs generalizing r with
  | nil => exact ⟨.nil, r.admits_nil, r.extend_nil.symm, rfl⟩
  | cons v vs ih =>
    rw [registerValues, registerValue, Entity.admitted]
    cases hv : Entity.check v with
    | error problems =>
      refine ⟨.nil, r.admits_nil, r.extend_nil.symm, _, rfl, ?_⟩
      exact .rejected hv
    | ok e =>
      rcases r.register_cases e with ⟨hregister, hname, hown⟩ | ⟨reason, hregister, hreason⟩
      · have hrest := ih (r.extend [e])
        have hnames : (r.extend [e]).names = r.names ++ [e.name] := r.names_extend [e]
        rw [hnames] at hrest
        simp only [Checked.as, LoadError.ofRejection, hregister, bind, Except.bind, pure, Except.pure]
        rw [if_pos ⟨hname, hown⟩]
        refine ⟨.cons hv hrest.read, admits_cons.2 ⟨⟨hname, hown⟩, hrest.admits⟩, ?_, ?_⟩
        · rw [hrest.left, extend_extend]
          rfl
        · have houtcome := hrest.outcome
          rw [extend_extend] at houtcome
          exact houtcome
      · have hnot : ¬ (e.name ∉ r.names ∧ e.HasOwnKeys) := fun h =>
          not_refused_of_admitted h.1 h.2 reason hreason
        simp only [Checked.as, LoadError.ofRejection, hregister, bind, Except.bind]
        rw [if_neg hnot]
        refine ⟨.nil, r.admits_nil, r.extend_nil.symm, .refused reason, rfl, ?_⟩
        rw [extend_nil]
        exact .refused hv hreason

theorem admitted_eq_of_admits (hread : List.Forall₂ (fun v e => Entity.check v = .ok e) vs es)
    (hadmits : r.Admits es) : Entity.admitted r.names vs = es := by
  induction hread generalizing r with
  | nil => rfl
  | @cons v e vs es hv hread ih =>
    obtain ⟨hfirst, hrest⟩ := admits_cons.1 hadmits
    have hrest := ih hrest
    rw [names_extend] at hrest
    rw [Entity.admitted, hv]
    dsimp only
    rw [if_pos hfirst]
    exact congrArg (e :: ·) hrest

namespace Loads
variable {result : Registry × Except LoadError Unit}

theorem length_le (h : r.Loads vs es result) : es.length ≤ vs.length := by
  have hlength := h.read.length_eq
  rw [List.length_take] at hlength
  omega

theorem outcome_eq_ok_iff (h : r.Loads vs es result) : result.2 = .ok () ↔ es.length = vs.length := by
  have houtcome := h.outcome
  have hle := h.length_le
  cases hv : vs[es.length]? with
  | none =>
    rw [hv] at houtcome
    have hge := List.getElem?_eq_none_iff.1 hv
    exact iff_of_true houtcome (by omega)
  | some v =>
    rw [hv] at houtcome
    obtain ⟨e, he, -⟩ := houtcome
    obtain ⟨hlt, -⟩ := List.getElem?_eq_some_iff.1 hv
    rw [he]
    exact iff_of_false nofun (by omega)

end Loads

/-! ## Files -/

/-- The values that a file lists as entities. -/
def listed (files : Files) (path : Path) : Except LoadError (List Value) :=
  ((Document.text .entities files path).bind Document.ofYaml).bind entriesOf

variable {files : Files} {path : Path}

theorem loadFile_eq (r : Registry) (files : Files) (path : Path) : r.loadFile files path =
    match listed files path with
    | .ok vs => r.registerValues vs
    | .error e => (r, .error e) := by
  unfold loadFile listed
  cases (Document.text .entities files path).bind Document.ofYaml with
  | ok v => rfl
  | error e => rfl

/-- A file that lists values gives the registry of all of them, or none. -/
theorem ofFile_cases {vs : List Value} (h : listed files path = .ok vs) :
    (ofFile files path = .ok (({} : Registry).extend (Entity.admitted [] vs)) ∧
      (Entity.admitted [] vs).length = vs.length) ∨
    (∃ e, ofFile files path = .error e) ∧ (Entity.admitted [] vs).length ≠ vs.length := by
  have hloads : Loads {} vs (Entity.admitted [] vs) (({} : Registry).registerValues vs) :=
    registerValues_loads {} vs
  have hok := hloads.outcome_eq_ok_iff
  unfold ofFile
  rw [loadFile_eq, h]
  dsimp only
  cases hresult : ({} : Registry).registerValues vs with
  | mk left outcome =>
    rw [hresult] at hloads hok
    cases outcome with
    | ok _ => exact .inl ⟨congrArg Except.ok hloads.left, hok.1 rfl⟩
    | error e => exact .inr ⟨⟨e, rfl⟩, fun hlength => nomatch hok.2 hlength⟩

/-- A file gives a registry exactly if it lists values that are entities and can all be registered. -/
theorem ofFile_eq_ok_iff : ofFile files path = .ok r ↔ ∃ vs es, listed files path = .ok vs ∧
    List.Forall₂ (fun v e => Entity.check v = .ok e) vs es ∧ ({} : Registry).Admits es ∧
    r = ({} : Registry).extend es := by
  constructor
  · intro hr
    cases hlisted : listed files path with
    | error e =>
      unfold ofFile at hr
      rw [loadFile_eq, hlisted] at hr
      cases hr
    | ok vs =>
      have hloads : Loads {} vs (Entity.admitted [] vs) (({} : Registry).registerValues vs) :=
        registerValues_loads {} vs
      rcases ofFile_cases hlisted with ⟨hmade, hlength⟩ | ⟨⟨e, he⟩, -⟩
      · obtain rfl := Except.ok.inj (hr.symm.trans hmade)
        have hread := hloads.read
        rw [hlength, List.take_length] at hread
        exact ⟨vs, _, rfl, hread, hloads.admits, rfl⟩
      · cases hr.symm.trans he
  · rintro ⟨vs, es, hlisted, hread, hadmits, rfl⟩
    have hes : Entity.admitted [] vs = es := admitted_eq_of_admits hread hadmits
    rcases ofFile_cases hlisted with ⟨hmade, -⟩ | ⟨-, hlength⟩
    · rw [hmade, hes]
    · rw [hes] at hlength
      exact absurd hread.length_eq.symm hlength

end Registry

/-! ## Runs of requests -/

inductive RegistryRequest
  | register (e : Entity)
  | loadFile (files : Files) (path : Path)
  /-- Makes a registry from a file. -/
  | ofFile (files : Files) (path : Path)

/-- The entities on record after a request, given those before it. -/
def RegistryRequest.record (record : List Entity) : RegistryRequest → List Entity
  | register e => if e.name ∉ record.map (·.name) ∧ e.HasOwnKeys then record ++ [e] else record
  | loadFile files path => match Registry.listed files path with
    | .ok vs => record ++ Entity.admitted (record.map (·.name)) vs
    | .error _ => record
  | ofFile files path => match Registry.listed files path with
    | .ok vs =>
      if (Entity.admitted [] vs).length = vs.length then Entity.admitted [] vs else record
    | .error _ => record

namespace Registry
variable {r : Registry} {record : List Entity} {request : RegistryRequest}

/-- Serves a request. A registry from a file takes the place of the one before, if there is one. -/
def serve (r : Registry) : RegistryRequest → Registry × Except LoadError Unit
  | .register e => match r.register e with
    | .ok r' => (r', .ok ())
    | .error reason => (r, .error (.refused reason))
  | .loadFile files path => r.loadFile files path
  | .ofFile files path => match ofFile files path with
    | .ok r' => (r', .ok ())
    | .error e => (r, .error e)

def serveAll (requests : List RegistryRequest) : Registry :=
  requests.foldl (fun r request => (r.serve request).1) {}

/-- The entities on record after requests. -/
def recorded (requests : List RegistryRequest) : List Entity :=
  requests.foldl RegistryRequest.record []

/-- What catalogs, filters and queries rely on. -/
structure IsSound (r : Registry) : Prop where
  nodup : r.names.Nodup
  keys : ∀ e ∈ r.entities, e.HasOwnKeys
  builtIn : ∀ e ∈ r.entities, ∀ f ∈ e.fields, f.kind = .builtIn

/-- A registry holds the entities on record, is sound, and answers requests as it should. -/
structure Keeps (r : Registry) (record : List Entity) : Prop where
  sound : r.IsSound
  entities : r.entities = record.map (·.asBuiltIn)
  names : r.names = record.map (·.name)
  tables : r.tables.map (·.1) = record.map (·.name)
  table : ∀ entry ∈ r.tables, entry.1 ≠ "" → entry.2 ≠ ""
  register (e : Entity) :
    (r.serve (.register e) = (r.extend [e], .ok ()) ∧ e.name ∉ r.names ∧ e.HasOwnKeys) ∨
    ∃ reason, r.serve (.register e) = (r, .error (.refused reason)) ∧ e.Refused r.names reason
  /-- Loading keeps what it has registered before it fails. -/
  loadFile (files : Files) (path : Path) : match listed files path with
    | .ok vs => ∃ es, r.Loads vs es (r.serve (.loadFile files path))
    | .error e => r.serve (.loadFile files path) = (r, .error e)
  ofFile (files : Files) (path : Path) (made : Registry) : Registry.ofFile files path = .ok made ↔
    ∃ vs es, listed files path = .ok vs ∧ List.Forall₂ (fun v e => Entity.check v = .ok e) vs es ∧
      ({} : Registry).Admits es ∧ made = ({} : Registry).extend es

theorem IsSound.extend {es : List Entity} (h : r.IsSound) (hes : r.Admits es) :
    (r.extend es).IsSound := by
  refine ⟨?_, ?_, ?_⟩
  · rw [names_extend, List.nodup_append]
    refine ⟨h.nodup, hes.nodup, fun name hname other hother heq => ?_⟩
    obtain ⟨e, he, rfl⟩ := List.mem_map.1 hother
    exact hes.new e he (heq ▸ hname)
  · intro e he
    rcases List.mem_append.1 he with he | he
    · exact h.keys e he
    · obtain ⟨e', he', rfl⟩ := List.mem_map.1 he
      obtain ⟨hnodup, hunprefixed⟩ := hes.keys e' he'
      refine ⟨?_, ?_⟩
      · simpa [Entity.asBuiltIn, Function.comp_def] using hnodup
      · simpa [Entity.asBuiltIn] using hunprefixed
  · intro e he
    rcases List.mem_append.1 he with he | he
    · exact h.builtIn e he
    · obtain ⟨e, he, rfl⟩ := List.mem_map.1 he
      simp [Entity.asBuiltIn]

/-- A request does to the entities on record what it does to the registry of them. -/
theorem serve_extend (hrecord : ({} : Registry).Admits record) (request : RegistryRequest) :
    ((({} : Registry).extend record).serve request).1 = ({} : Registry).extend (request.record record) ∧
      ({} : Registry).Admits (request.record record) := by
  have hnames : (({} : Registry).extend record).names = record.map (·.name) := names_extend {} record
  cases request with
  | register e =>
    rw [serve, RegistryRequest.record]
    rcases register_cases (({} : Registry).extend record) e with ⟨hregister, hname, hown⟩ |
      ⟨reason, hregister, hreason⟩
    · have hadmits := admits_append.2 ⟨hrecord, admits_singleton.2 ⟨hname, hown⟩⟩
      rw [hnames] at hname
      rw [hregister, if_pos ⟨hname, hown⟩]
      exact ⟨extend_extend _ _ _, hadmits⟩
    · rw [hnames] at hreason
      have hnot : ¬ (e.name ∉ record.map (·.name) ∧ e.HasOwnKeys) := fun h =>
        not_refused_of_admitted h.1 h.2 reason hreason
      rw [hregister, if_neg hnot]
      exact ⟨rfl, hrecord⟩
  | loadFile files path =>
    rw [serve, RegistryRequest.record, loadFile_eq]
    cases listed files path with
    | error e => exact ⟨rfl, hrecord⟩
    | ok vs =>
      have hloads := registerValues_loads (({} : Registry).extend record) vs
      rw [hnames] at hloads
      exact ⟨hloads.left.trans (extend_extend _ _ _), admits_append.2 ⟨hrecord, hloads.admits⟩⟩
  | ofFile files path =>
    rw [serve, RegistryRequest.record]
    cases hlisted : listed files path with
    | error e =>
      have hmade : ofFile files path = .error e := by
        unfold ofFile
        rw [loadFile_eq, hlisted]
      rw [hmade]
      exact ⟨rfl, hrecord⟩
    | ok vs =>
      rcases ofFile_cases hlisted with ⟨hmade, hlength⟩ | ⟨⟨e, hmade⟩, hlength⟩
      · simp only [hmade]
        rw [if_pos hlength]
        exact ⟨rfl, (registerValues_loads {} vs).admits⟩
      · simp only [hmade]
        rw [if_neg hlength]
        exact ⟨rfl, hrecord⟩

theorem serveAll_eq (requests : List RegistryRequest) :
    serveAll requests = ({} : Registry).extend (recorded requests) ∧
      ({} : Registry).Admits (recorded requests) := by
  -- for the induction the requests may follow upon others, which have left some record
  have hfrom (record : List Entity) (hrecord : ({} : Registry).Admits record) :
      requests.foldl (fun r request => (r.serve request).1) (({} : Registry).extend record) =
        ({} : Registry).extend (requests.foldl RegistryRequest.record record) ∧
      ({} : Registry).Admits (requests.foldl RegistryRequest.record record) := by
    induction requests generalizing record with
    | nil => exact ⟨rfl, hrecord⟩
    | cons request requests ih =>
      obtain ⟨hserve, hadmits⟩ := serve_extend hrecord request
      rw [List.foldl_cons, List.foldl_cons, hserve]
      exact ih _ hadmits
  exact hfrom [] (admits_nil {})

theorem isSound_empty : ({} : Registry).IsSound := ⟨.nil, by simp, by simp⟩

theorem isSound_serveAll (requests : List RegistryRequest) : (serveAll requests).IsSound := by
  obtain ⟨hserve, hadmits⟩ := serveAll_eq requests
  rw [hserve]
  exact isSound_empty.extend hadmits

theorem tableName_ne_empty {e : Entity} (h : e.name ≠ "") : e.tableName ≠ "" := by
  unfold Entity.tableName
  split
  · split_ifs with htable
    · exact h
    · exact htable
  · exact h

/-- Some requests lead to a registry. -/
def IsReached (r : Registry) : Prop := ∃ requests, serveAll requests = r

theorem IsReached.isSound (h : r.IsReached) : r.IsSound := by
  obtain ⟨requests, rfl⟩ := h
  exact isSound_serveAll requests

theorem isReached_default : Registry.default.IsReached :=
  ⟨Registry.default.entities.map .register, by decide +kernel⟩

end Registry

end Rollup
