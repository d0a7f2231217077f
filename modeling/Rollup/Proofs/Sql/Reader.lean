import Rollup.Proofs.Field
import Rollup.Proofs.Json.Path
import Rollup.Proofs.Sql.Lexer
import Mathlib.Data.List.Basic
import Mathlib.Data.List.Induction

/-!
# Reading fetches back

A reader for the queries of fetches, on their tokens: the fields and the names that they are read under,
the table, and the filters of which each condition is the meaning. From the text of the query of a fetch
it gets back the fetch, whatever is in its keys and values (`Schema.compile?_reads_back`). So no text can
break out of its place, and different fetches of one kind have different queries.
-/

namespace Rollup.Sql

/-- What a query asks for. -/
structure Reading where
  /-- Fields, each with the name that it is read under. -/
  columns : List (String × String)
  table : String
  filters : List Filter
  deriving DecidableEq

namespace Reader

/-- Reads given tokens. -/
def expect : List Token → List Token → Option (List Token)
  | [], ts => some ts
  | t :: expected, u :: ts => if t = u then expect expected ts else none
  | _ :: _, [] => none

def name? : List Token → Option (String × List Token)
  | .name s :: ts => some (s, ts)
  | _ => none

def literal? : List Token → Option (String × List Token)
  | .literal s :: ts => some (s, ts)
  | _ => none

def operator? : List Token → Option (Operator × List Token)
  | .symbol '=' :: ts => some (.equals, ts)
  | .symbol '>' :: ts => some (.greaterThan, ts)
  | .symbol '<' :: ts => some (.lessThan, ts)
  | _ => none

def startsWithDigit (s : String) : Bool := s.toList.head?.any Char.isDigit

/-- Reads a number, whose value is of no account. -/
def number? : List Token → Option (List Token)
  | .word s :: ts => if startsWithDigit s then some ts else none
  | .symbol '-' :: .word s :: ts => if startsWithDigit s then some ts else none
  | _ => none

/-- Reads what reads a field: a column, or a member of the object in a column. -/
def source? : List Token → Option (String × List Token)
  | .name key :: ts => some (key, ts)
  | ts => do
    let ts ← expect [.word "JSON_EXTRACT_STRING", .symbol '('] ts
    let (_, ts) ← name? ts
    let ts ← expect [.symbol ','] ts
    let (path, ts) ← literal? ts
    let ts ← expect [.symbol ')'] ts
    let name ← Json.Path.key? path
    return (customPrefix ++ name, ts)

/-- Reads the text of a field. -/
def cell? (ts : List Token) : Option (String × List Token) := do
  let ts ← expect [.word "CAST", .symbol '('] ts
  let (key, ts) ← source? ts
  let ts ← expect [.word "AS", .word "TEXT", .symbol ')'] ts
  return (key, ts)

/-- Reads a comparison with a text. -/
def comparison? (ts : List Token) : Option (Filter × List Token) := do
  let (key, ts) ← cell? ts
  let (operator, ts) ← operator? ts
  let (value, ts) ← literal? ts
  return (⟨key, operator, value⟩, ts)

/-- Reads a comparison by number that falls back to the one by text. Both must be about one field and
have one operator. -/
def numeric? (ts : List Token) : Option (Filter × List Token) := do
  let ts ← expect [.word "COALESCE", .symbol '(', .word "TRY_CAST", .symbol '('] ts
  let (key, ts) ← cell? ts
  let ts ← expect [.word "AS", .word "DOUBLE", .symbol ')'] ts
  let (operator, ts) ← operator? ts
  let ts ← number? ts
  let ts ← expect [.symbol ','] ts
  let (f, ts) ← comparison? ts
  let ts ← expect [.symbol ')'] ts
  if f.field = key ∧ f.operator = operator then some (f, ts) else none

def containment? (ts : List Token) : Option (Filter × List Token) := do
  let ts ← expect [.word "CONTAINS", .symbol '(', .word "LOWER", .symbol '('] ts
  let (key, ts) ← cell? ts
  let ts ← expect [.symbol ')', .symbol ',', .word "LOWER", .symbol '('] ts
  let (value, ts) ← literal? ts
  let ts ← expect [.symbol ')', .symbol ')'] ts
  return (⟨key, .contains, value⟩, ts)

/-- Reads the condition of a filter. -/
def condition? (ts : List Token) : Option (Filter × List Token) :=
  match ts with
  | .word "CONTAINS" :: _ => containment? ts
  | .word "COALESCE" :: _ => numeric? ts
  | _ => comparison? ts

/-- Reads a conjunction, whose left side is in parentheses where it is one itself. -/
def conjunction? : List Token → Option (List Filter × List Token)
  | .symbol '(' :: ts => do
    let (filters, ts) ← conjunction? ts
    let ts ← expect [.symbol ')', .word "AND"] ts
    let (f, ts) ← condition? ts
    return (filters ++ [f], ts)
  | ts => do
    let (f, ts) ← condition? ts
    match ts with
    | .word "AND" :: ts =>
      let (g, ts) ← condition? ts
      return ([f, g], ts)
    | ts => return ([f], ts)

def column? (ts : List Token) : Option ((String × String) × List Token) := do
  let (key, ts) ← source? ts
  let ts ← expect [.word "AS"] ts
  let (name, ts) ← name? ts
  return ((key, name), ts)

theorem length_of_expect {expected ts rest : List Token} (h : expect expected ts = some rest) :
    rest.length ≤ ts.length := by
  induction expected generalizing ts with
  | nil => exact (congrArg List.length (Option.some.inj h)).ge
  | cons t expected ih =>
    cases ts with
    | nil => cases h
    | cons u ts =>
      unfold expect at h
      split_ifs at h
      exact (ih h).trans (Nat.le_succ _)

theorem length_of_name? {ts rest : List Token} {s : String} (h : name? ts = some (s, rest)) :
    rest.length < ts.length := by
  unfold name? at h
  split at h
  · obtain ⟨-, rfl⟩ := Prod.mk.inj (Option.some.inj h)
    exact Nat.lt_succ_self _
  · cases h

theorem length_of_literal? {ts rest : List Token} {s : String} (h : literal? ts = some (s, rest)) :
    rest.length < ts.length := by
  unfold literal? at h
  split at h
  · obtain ⟨-, rfl⟩ := Prod.mk.inj (Option.some.inj h)
    exact Nat.lt_succ_self _
  · cases h

theorem length_of_source? {ts rest : List Token} {key : String} (h : source? ts = some (key, rest)) :
    rest.length < ts.length := by
  unfold source? at h
  split at h
  · obtain ⟨-, rfl⟩ := Prod.mk.inj (Option.some.inj h)
    exact Nat.lt_succ_self _
  · obtain ⟨ts₁, h₁, h⟩ := Option.bind_eq_some_iff.1 h
    obtain ⟨⟨object, ts₂⟩, h₂, h⟩ := Option.bind_eq_some_iff.1 h
    obtain ⟨ts₃, h₃, h⟩ := Option.bind_eq_some_iff.1 h
    obtain ⟨⟨path, ts₄⟩, h₄, h⟩ := Option.bind_eq_some_iff.1 h
    obtain ⟨ts₅, h₅, h⟩ := Option.bind_eq_some_iff.1 h
    obtain ⟨name, -, h⟩ := Option.bind_eq_some_iff.1 h
    obtain ⟨-, rfl⟩ := Prod.mk.inj (Option.some.inj h)
    have h₁ := length_of_expect h₁
    have h₂ := length_of_name? h₂
    have h₃ := length_of_expect h₃
    have h₄ := length_of_literal? h₄
    have h₅ := length_of_expect h₅
    omega

theorem length_of_column? {ts rest : List Token} {column : String × String}
    (h : column? ts = some (column, rest)) : rest.length < ts.length := by
  obtain ⟨⟨key, ts₁⟩, h₁, h⟩ := Option.bind_eq_some_iff.1 h
  obtain ⟨ts₂, h₂, h⟩ := Option.bind_eq_some_iff.1 h
  obtain ⟨⟨name, ts₃⟩, h₃, h⟩ := Option.bind_eq_some_iff.1 h
  obtain ⟨-, rfl⟩ := Prod.mk.inj (Option.some.inj h)
  have h₁ := length_of_source? h₁
  have h₂ := length_of_expect h₂
  have h₃ := length_of_name? h₃
  omega

/-- Reads columns with commas between them. -/
def columns? (ts : List Token) : Option (List (String × String) × List Token) :=
  match h : column? ts with
  | none => none
  | some (column, .symbol ',' :: more) =>
    have : more.length < ts.length := (Nat.lt_succ_self _).trans (length_of_column? h)
    (columns? more).map fun (columns, ts) => (column :: columns, ts)
  | some (column, rest) => some ([column], rest)
termination_by ts.length

/-- Reads the name of a table, which is not there where it is empty. -/
def table : List Token → String × List Token
  | .name s :: ts => (s, ts)
  | ts => ("", ts)

/-- Reads a query to its end. -/
def select? (ts : List Token) : Option Reading := do
  let ts ← expect [.word "SELECT"] ts
  let (columns, ts) ← columns? ts
  let ts ← expect [.word "FROM"] ts
  let (table, ts) := table ts
  match ts with
  | [] => return ⟨columns, table, []⟩
  | ts =>
    let ts ← expect [.word "WHERE"] ts
    let (filters, ts) ← conjunction? ts
    if ts.isEmpty then some ⟨columns, table, filters⟩ else none

end Reader

/-- What the text of a query asks for. -/
def read? (s : String) : Option Reading := (lex s).bind Reader.select?

/-! ## Reading what was written -/

namespace Reader
variable {schema : Schema} {f : Filter} {key value : String} {rest : List Token}

theorem source?_tokens (schema : Schema) (key : String) (rest : List Token) :
    source? ((schema.source key).tokens ++ rest) = some (key, rest) := by
  unfold Schema.source
  cases hname : customName? key with
  | none => rfl
  | some name =>
    have hkey := customName?_eq_some_iff.1 hname
    simp [Expr.tokens, callTokens, source?, expect, name?, literal?, Json.Path.key?_ofKey, hkey]

theorem cell?_tokens (schema : Schema) (key : String) (rest : List Token) :
    cell? ((Expr.castText (schema.source key)).tokens ++ rest) = some (key, rest) := by
  simp [tokens_castText, callTokens, cell?, expect, source?_tokens]

/-- The comparison that an operator asks for; containment is none. -/
def comparisonOf? : Operator → Option Comparison
  | .equals => some .equal
  | .greaterThan => some .greater
  | .lessThan => some .less
  | .contains => none

theorem operator?_token {operator : Operator} {op : Comparison} (h : comparisonOf? operator = some op)
    (rest : List Token) : operator? (op.token :: rest) = some (operator, rest) := by
  cases operator <;> cases h <;> rfl

theorem comparison?_tokens {operator : Operator} {op : Comparison} (h : comparisonOf? operator = some op)
    (schema : Schema) (key value : String) (rest : List Token) :
    comparison? ((Expr.compare op (.castText (schema.source key)) (.text value)).tokens ++ rest) =
      some (⟨key, operator, value⟩, rest) := by
  rw [tokens_compare, List.append_assoc]
  simp [comparison?, cell?_tokens, operator?_token h, tokens_text, literal?]

theorem number?_tokens {n : Number} (h : n.isFinite) (rest : List Token) :
    number? (numberTokens n ++ rest) = some rest := by
  obtain ⟨cs, hcs, hn⟩ := numberChars_eq h
  have hdigit : startsWithDigit (String.ofList cs) := by
    obtain ⟨d, more, rfl, hd⟩ := hcs.head_isDigit
    simp [startsWithDigit, hd]
  rcases hn with hn | hn
  · rw [numberTokens, hn, numeralTokens_of_unsigned hcs]
    exact if_pos hdigit
  · rw [numberTokens, hn]
    exact if_pos hdigit

theorem numeric?_tokens {operator : Operator} {op : Comparison} (h : comparisonOf? operator = some op)
    {n : Number} (hn : n.isFinite) (schema : Schema) (key value : String) (rest : List Token) :
    numeric? ((Expr.coalesce (.compare op (.tryDouble (.castText (schema.source key))) (.number n))
      (.compare op (.castText (schema.source key)) (.text value))).tokens ++ rest) =
      some (⟨key, operator, value⟩, rest) := by
  have hcell := cell?_tokens schema key
  have hcomparison := comparison?_tokens h schema key value
  rw [tokens_coalesce, tokens_compare, tokens_tryDouble]
  simp [numeric?, callTokens, expect, hcell, operator?_token h, tokens_number, number?_tokens hn,
    hcomparison]

theorem containment?_tokens (schema : Schema) (key value : String) (rest : List Token) :
    containment? ((Expr.contains (.lower (.castText (schema.source key))) (.lower (.text value))).tokens ++
      rest) = some (⟨key, .contains, value⟩, rest) := by
  have hcell := cell?_tokens schema key
  rw [tokens_contains, tokens_lower, tokens_lower]
  simp [containment?, callTokens, expect, hcell, tokens_text, literal?]

/-- The condition of a comparison is read as its filter, by number or by text. -/
theorem condition?_comparison {op : Comparison} (h : comparisonOf? f.operator = some op)
    (schema : Schema) (rest : List Token) :
    condition? ((Schema.comparison op (.castText (schema.source f.field)) f.value).tokens ++ rest) =
      some (f, rest) := by
  unfold Schema.comparison
  cases hvalue : Number.ofText? f.value with
  | none => exact comparison?_tokens h schema f.field f.value rest
  | some n => exact numeric?_tokens h (Number.isFinite_of_ofText? hvalue) schema f.field f.value rest

theorem condition?_tokens (schema : Schema) (f : Filter) (rest : List Token) :
    condition? ((schema.condition f).tokens ++ rest) = some (f, rest) := by
  obtain ⟨field, operator, value⟩ := f
  cases operator with
  | contains => exact containment?_tokens schema field value rest
  | equals | greaterThan | lessThan => exact condition?_comparison rfl schema rest

theorem head_condition (schema : Schema) (f : Filter) :
    ∃ s ts, (schema.condition f).tokens = .word s :: ts := by
  unfold Schema.condition
  cases f.operator with
  | contains => exact ⟨_, _, rfl⟩
  | _ =>
    unfold Schema.comparison
    cases Number.ofText? f.value <;> exact ⟨_, _, rfl⟩

theorem isConjunction_condition (schema : Schema) (f : Filter) :
    (schema.condition f).isConjunction = false := by
  unfold Schema.condition
  cases f.operator with
  | contains => rfl
  | _ =>
    unfold Schema.comparison
    cases Number.ofText? f.value <;> rfl

/-- Whether a conjunction ends before these tokens. -/
def Ends (rest : List Token) : Prop := rest.head? ≠ some (.word "AND")

theorem conjunction?_single (schema : Schema) (f : Filter) (hrest : Ends rest) :
    conjunction? ((schema.condition f).tokens ++ rest) = some ([f], rest) := by
  have hcondition := condition?_tokens schema f rest
  obtain ⟨s, ts, htokens⟩ := head_condition schema f
  rw [htokens, List.cons_append] at hcondition ⊢
  rw [conjunction?, hcondition]
  · simp only [bind, Option.bind]
    split
    · exact absurd rfl hrest
    · rfl
  · exact fun _ h => by cases h

theorem conjunction?_pair (schema : Schema) (f g : Filter) (rest : List Token) :
    conjunction? ((schema.condition f).tokens ++ .word "AND" :: ((schema.condition g).tokens ++ rest)) =
      some ([f, g], rest) := by
  have hcondition := condition?_tokens schema f (.word "AND" :: ((schema.condition g).tokens ++ rest))
  obtain ⟨s, ts, htokens⟩ := head_condition schema f
  rw [htokens, List.cons_append] at hcondition ⊢
  rw [conjunction?, hcondition]
  · simp [condition?_tokens]
  · exact fun _ h => by cases h

/-- By induction on the filters behind the first one, from the last: the conjunction of all before it
stands on its left, in parentheses where there is more than one. -/
theorem conjunction?_tokens (schema : Schema) (f : Filter) (fs : List Filter) {rest : List Token}
    (hrest : Ends rest) :
    conjunction? (((fs.map schema.condition).foldl .and (schema.condition f)).tokens ++ rest) =
      some (f :: fs, rest) := by
  induction fs using List.reverseRecOn generalizing rest with
  | nil => exact conjunction?_single schema f hrest
  | append_singleton gs g ih =>
    rw [List.map_append, List.map_singleton, List.foldl_append, List.foldl_cons, List.foldl_nil,
      tokens_and, isConjunction_condition schema g, List.append_assoc]
    cases gs using List.reverseRecOn with
    | nil =>
      have hsingle : ((List.map schema.condition []).foldl .and (schema.condition f)).isConjunction =
          false := isConjunction_condition schema f
      rw [hsingle]
      exact conjunction?_pair schema f g rest
    | append_singleton hs h =>
      have hmore : (((hs ++ [h]).map schema.condition).foldl .and (schema.condition f)).isConjunction =
          true := by
        rw [List.map_append, List.map_singleton, List.foldl_append]
        rfl
      have hinside := ih (show Ends (.symbol ')' :: .word "AND" ::
        ((schema.condition g).tokens ++ rest)) by simp [Ends])
      rw [hmore]
      simp only [if_true, Bool.false_eq_true, if_false, List.cons_append, List.append_assoc,
        List.nil_append, conjunction?, hinside]
      simp [expect, condition?_tokens]

theorem column?_tokens (schema : Schema) (key : String) (rest : List Token) :
    column? (Select.columnTokens (schema.source key, key) ++ rest) = some ((key, key), rest) := by
  have hsource := source?_tokens schema key
  simp [column?, Select.columnTokens, hsource, expect, name?]

theorem columns?_more {ts more : List Token} {column : String × String}
    (h : column? ts = some (column, .symbol ',' :: more)) : columns? ts =
      (columns? more).map fun (columns, ts) => (column :: columns, ts) := by
  rw [columns?]
  split <;> simp_all

theorem columns?_last {ts : List Token} {column : String × String}
    (h : column? ts = some (column, rest)) (hrest : rest.head? ≠ some (.symbol ',')) :
    columns? ts = some ([column], rest) := by
  rw [columns?]
  split
  · rename_i heq
    rw [h] at heq
    cases heq
  · rename_i heq
    rw [h] at heq
    obtain ⟨rfl, rfl⟩ := Prod.mk.inj (Option.some.inj heq)
    exact absurd rfl hrest
  · rename_i heq
    rw [h] at heq
    obtain ⟨rfl, rfl⟩ := Prod.mk.inj (Option.some.inj heq)
    rfl

theorem columns?_tokens (schema : Schema) {keys : List String} (hkeys : keys ≠ []) {rest : List Token}
    (hrest : rest.head? ≠ some (.symbol ',')) :
    columns? (joinTokens ((keys.map fun key => (schema.source key, key)).map Select.columnTokens) ++
      rest) = some (keys.map fun key => (key, key), rest) := by
  induction keys with
  | nil => exact absurd rfl hkeys
  | cons key keys ih =>
    cases keys with
    | nil => exact columns?_last (column?_tokens schema key rest) hrest
    | cons next keys =>
      have hcolumn := column?_tokens schema key (.symbol ',' ::
        (joinTokens (((next :: keys).map fun key => (schema.source key, key)).map Select.columnTokens) ++
          rest))
      have ih := ih (List.cons_ne_nil next keys)
      simp only [List.map_cons, joinTokens, List.append_assoc, List.cons_append] at hcolumn ih ⊢
      rw [columns?_more hcolumn, ih]
      rfl

/-- A condition does not begin with a name. -/
theorem head_conditionTokens (condition? : Option Expr) (s : String) :
    (Select.conditionTokens condition?).head? ≠ some (.name s) := by
  cases condition? <;> simp [Select.conditionTokens]

theorem table_tokens (name : String) (hrest : ∀ s, rest.head? ≠ some (.name s)) :
    table (Select.tableTokens name ++ rest) = (name, rest) := by
  unfold Select.tableTokens
  split_ifs with hname
  · subst hname
    cases rest with
    | nil => rfl
    | cons t rest =>
      cases t with
      | name s => exact absurd rfl (hrest s)
      | _ => rfl
  · rfl

end Reader

namespace Schema
variable {schema : Schema} {entity : String} {columns : List String} {filters : List Filter}

theorem isFinite_source (schema : Schema) (key : String) : (schema.source key).IsFinite := by
  unfold source
  cases customName? key with
  | none => trivial
  | some name => exact ⟨trivial, trivial⟩

theorem isFinite_comparison {e : Expr} (h : e.IsFinite) (op : Comparison) (value : String) :
    (comparison op e value).IsFinite := by
  unfold comparison
  cases hvalue : Number.ofText? value with
  | none => exact ⟨h, trivial⟩
  | some n => exact ⟨⟨h, Number.isFinite_of_ofText? hvalue⟩, h, trivial⟩

theorem isFinite_condition (schema : Schema) (f : Filter) : (schema.condition f).IsFinite := by
  have hcell : (Expr.castText (schema.source f.field)).IsFinite := isFinite_source schema f.field
  unfold condition
  cases f.operator with
  | contains => exact ⟨hcell, trivial⟩
  | _ => exact isFinite_comparison hcell _ _

theorem isFinite_foldl {es : List Expr} {e : Expr} (he : e.IsFinite) (hes : ∀ e ∈ es, e.IsFinite) :
    (es.foldl Expr.and e).IsFinite := by
  induction es generalizing e with
  | nil => exact he
  | cons a es ih =>
    exact ih ⟨he, hes a List.mem_cons_self⟩ fun b hb => hes b (List.mem_cons_of_mem _ hb)

/-- The query of a fetch that has columns. -/
def queryOf (schema : Schema) (entity : String) (columns : List String) (filters : List Filter) : Select :=
  ⟨columns.map fun key => (schema.source key, key), schema.tableOf entity,
    conjunction (filters.map schema.condition)⟩

theorem compile?_eq_some_iff {q : Select} : schema.compile? entity columns filters = some q ↔
    columns ≠ [] ∧ q = schema.queryOf entity columns filters := by
  unfold compile? queryOf
  cases columns with
  | nil => simp
  | cons key keys => simp [eq_comm]

theorem isFinite_queryOf (schema : Schema) (entity : String) (columns : List String)
    (filters : List Filter) : (schema.queryOf entity columns filters).IsFinite := by
  constructor
  · intro column hcolumn
    obtain ⟨key, -, rfl⟩ := List.mem_map.1 hcolumn
    exact isFinite_source schema key
  · intro e he
    cases filters with
    | nil => cases he
    | cons f fs =>
      rw [← Option.some.inj he]
      refine isFinite_foldl (isFinite_condition schema f) fun a ha => ?_
      obtain ⟨g, -, rfl⟩ := List.mem_map.1 ha
      exact isFinite_condition schema g

theorem select?_tokens (hcolumns : columns ≠ []) :
    Reader.select? (schema.queryOf entity columns filters).tokens =
      some ⟨columns.map fun key => (key, key), schema.tableOf entity, filters⟩ := by
  have hkeys := @Reader.columns?_tokens schema _ hcolumns (.word "FROM" ::
    (Select.tableTokens (schema.tableOf entity) ++
      Select.conditionTokens (conjunction (filters.map schema.condition)))) (by simp)
  have htable := Reader.table_tokens (schema.tableOf entity)
    (Reader.head_conditionTokens (conjunction (filters.map schema.condition)))
  simp only [Reader.select?, Select.tokens, queryOf, Reader.expect, if_true, Option.bind_eq_bind,
    Option.bind_some, hkeys, htable]
  cases filters with
  | nil => rfl
  | cons f fs =>
    have hends : Reader.Ends [] := by simp [Reader.Ends]
    have hconjunction := Reader.conjunction?_tokens schema f fs hends
    rw [List.append_nil] at hconjunction
    simp [conjunction, Select.conditionTokens, Reader.expect, hconjunction]

theorem read?_compact (hcolumns : columns ≠ []) :
    read? (schema.queryOf entity columns filters).compact =
      some ⟨columns.map fun key => (key, key), schema.tableOf entity, filters⟩ := by
  unfold read?
  rw [Select.lex_compact (isFinite_queryOf schema entity columns filters), Option.bind_some,
    select?_tokens hcolumns]

/-- The text of the query of a fetch is read back as the fetch: its columns under their own names in
order, the table of the entity, and one condition for each filter in order, from which its field,
operator and value are recovered. So fetches with one query are of the same columns, with the same
filters, from the same table. -/
theorem compile?_reads_back (hcolumns : columns ≠ []) :
    ∃ q, schema.compile? entity columns filters = some q ∧
      read? q.compact = some ⟨columns.map fun key => (key, key), schema.tableOf entity, filters⟩ ∧
      ∀ (other : Schema) (entity' : String) (columns' : List String) (filters' : List Filter) (q' : Select),
        other.compile? entity' columns' filters' = some q' → q'.compact = q.compact →
          other.tableOf entity' = schema.tableOf entity ∧ columns' = columns ∧ filters' = filters := by
  have hread : read? (schema.queryOf entity columns filters).compact = _ := read?_compact hcolumns
  refine ⟨_, compile?_eq_some_iff.2 ⟨hcolumns, rfl⟩, hread, ?_⟩
  intro other entity' columns' filters' q' hcompile hcompact
  obtain ⟨hcolumns', rfl⟩ := compile?_eq_some_iff.1 hcompile
  rw [← hcompact, read?_compact hcolumns'] at hread
  obtain ⟨hkeys, htable, hfilters⟩ := Reading.mk.inj (Option.some.inj hread)
  refine ⟨htable, ?_, hfilters⟩
  exact List.map_injective_iff.2 (fun a b h => (Prod.mk.inj h).1) hkeys

/-- A fetch whose keys, table and values try to leave their places. -/
theorem hostile_compile?_reads_back :
    (⟨[("deals", "a\" WHERE \"1\" = \"1")], "extra"⟩ : Schema).tableOf "deals" =
        "a\" WHERE \"1\" = \"1" ∧
      ["na\"me", "custom:a.b\\'\"]"] ≠ [] ∧
      ∃ q, (⟨[("deals", "a\" WHERE \"1\" = \"1")], "extra"⟩ : Schema).compile? "deals"
          ["na\"me", "custom:a.b\\'\"]"]
          [⟨"na\"me", .equals, "x' OR '1' = '1"⟩, ⟨"custom:a.b\\'\"]", .greaterThan, "-1e5"⟩,
            ⟨"", .contains, "'); DROP TABLE deals; --\n"⟩] = some q ∧
        read? q.compact = some ⟨[("na\"me", "na\"me"), ("custom:a.b\\'\"]", "custom:a.b\\'\"]")],
          "a\" WHERE \"1\" = \"1",
          [⟨"na\"me", .equals, "x' OR '1' = '1"⟩, ⟨"custom:a.b\\'\"]", .greaterThan, "-1e5"⟩,
            ⟨"", .contains, "'); DROP TABLE deals; --\n"⟩]⟩ := by
  have htable : (⟨[("deals", "a\" WHERE \"1\" = \"1")], "extra"⟩ : Schema).tableOf "deals" =
      "a\" WHERE \"1\" = \"1" := by decide
  have hcolumns : ["na\"me", "custom:a.b\\'\"]"] ≠ [] := by decide
  obtain ⟨q, hq, hread, -⟩ := compile?_reads_back hcolumns
  exact ⟨htable, hcolumns, q, hq, by rw [hread, htable]; rfl⟩

end Schema

end Rollup.Sql
