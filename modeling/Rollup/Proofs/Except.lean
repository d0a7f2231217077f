import Mathlib.Data.List.Forall2

/-!
# Computations that can fail

What is known of the parts of a computation in `Except` when the whole is known to succeed, and how a
pass over a list succeeds or fails by its elements.
-/

namespace Rollup

theorem exists_of_bind_eq_ok {ε α β : Type} {x : Except ε α} {f : α → Except ε β} {b : β}
    (h : x >>= f = .ok b) : ∃ a, x = .ok a ∧ f a = .ok b := by
  cases x with
  | error e => cases h
  | ok a => exact ⟨a, rfl, h⟩

/-- Where a pass over a list succeeds, it does so element by element. -/
theorem forall₂_of_mapM_eq_ok {ε α β : Type} {f : α → Except ε β} {as : List α} {bs : List β}
    (h : as.mapM f = .ok bs) : List.Forall₂ (fun a b => f a = .ok b) as bs := by
  induction as generalizing bs with
  | nil =>
    obtain rfl := Except.ok.inj h
    exact .nil
  | cons a as ih =>
    rw [List.mapM_cons] at h
    obtain ⟨b, hb, h⟩ := exists_of_bind_eq_ok h
    obtain ⟨rest, hrest, h⟩ := exists_of_bind_eq_ok h
    obtain rfl := Except.ok.inj h
    exact .cons hb (ih hrest)

theorem exists_of_forall₂_right {α β : Type} {R : α → β → Prop} {as : List α} {bs : List β}
    (h : List.Forall₂ R as bs) {b : β} (hb : b ∈ bs) : ∃ a ∈ as, R a b := by
  induction h with
  | nil => cases hb
  | @cons a b' as bs hab _ ih =>
    rcases List.mem_cons.1 hb with rfl | hb
    · exact ⟨a, List.mem_cons_self, hab⟩
    · obtain ⟨a, ha, hab⟩ := ih hb
      exact ⟨a, List.mem_cons_of_mem _ ha, hab⟩

theorem map_eq_of_forall₂ {α β γ : Type} {f : α → γ} {g : β → γ} {as : List α} {bs : List β}
    (h : List.Forall₂ (fun a b => g b = f a) as bs) : bs.map g = as.map f := by
  have hflip : List.Forall₂ (fun b a => g b = f a) bs as := List.Forall₂.flip h
  rw [← List.forall₂_eq_eq_eq, List.forall₂_map_left_iff, List.forall₂_map_right_iff]
  exact hflip

theorem mapM_eq_ok_map {α β ε : Type} {f : α → Except ε β} {g : α → β} {as : List α}
    (h : ∀ a ∈ as, f a = .ok (g a)) : as.mapM f = .ok (as.map g) := by
  induction as with
  | nil => rfl
  | cons a as ih =>
    obtain ⟨ha, has⟩ := List.forall_mem_cons.1 h
    rw [List.mapM_cons, ha, ih has]
    rfl

/-- A pass over a list gives results of which something holds exactly if each element does. -/
theorem exists_mapM_iff {α β ε : Type} {f : α → Except ε β} {R : α → β → Prop} {as : List α} :
    (∃ bs, as.mapM f = .ok bs ∧ List.Forall₂ R as bs) ↔ ∀ a ∈ as, ∃ b, f a = .ok b ∧ R a b := by
  induction as with
  | nil => exact iff_of_true ⟨[], rfl, .nil⟩ nofun
  | cons a as ih =>
    rw [List.forall_mem_cons, ← ih, List.mapM_cons]
    constructor
    · rintro ⟨bs, h, hall⟩
      obtain ⟨b, hb, h⟩ := exists_of_bind_eq_ok h
      obtain ⟨rest, hrest, h⟩ := exists_of_bind_eq_ok h
      obtain rfl := Except.ok.inj h
      obtain ⟨hr, hall⟩ := List.forall₂_cons.1 hall
      exact ⟨⟨b, hb, hr⟩, rest, hrest, hall⟩
    · rintro ⟨⟨b, hb, hr⟩, rest, hrest, hall⟩
      refine ⟨b :: rest, ?_, .cons hr hall⟩
      rw [hb, hrest]
      rfl

/-- Where each element either gives what `write` makes of some result or fails in one way, so does a
list of them. -/
theorem mapM_cases {α β γ ε : Type} {f : α → Except ε γ} {write : β → γ} {Holds : α → β → Prop}
    {Fails : α → Prop} {e : ε}
    (h : ∀ a, (∃ b, f a = .ok (write b) ∧ Holds a b) ∨ f a = .error e ∧ Fails a) (as : List α) :
    (∃ bs : List β, as.mapM f = .ok (bs.map write) ∧ List.Forall₂ Holds as bs) ∨
      as.mapM f = .error e ∧ ∃ a ∈ as, Fails a := by
  induction as with
  | nil => exact .inl ⟨[], rfl, .nil⟩
  | cons a as ih =>
    rw [List.mapM_cons]
    rcases h a with ⟨b, hb, hholds⟩ | ⟨hfails, ha⟩
    · rw [hb]
      rcases ih with ⟨bs, hbs, hall⟩ | ⟨hfails, c, hc, hfail⟩
      · rw [hbs]
        exact .inl ⟨b :: bs, rfl, .cons hholds hall⟩
      · rw [hfails]
        exact .inr ⟨rfl, c, List.mem_cons_of_mem a hc, hfail⟩
    · rw [hfails]
      exact .inr ⟨rfl, a, List.mem_cons_self, ha⟩

/-- Where steps fail in one way only, a pass over a list fails when some step does. -/
theorem mapM_eq_error_iff {α β ε : Type} {f : α → Except ε β} {as : List α} {only e : ε}
    (h : ∀ a ∈ as, ∀ e', f a = .error e' → e' = only) :
    as.mapM f = .error e ↔ e = only ∧ ∃ a ∈ as, f a = .error only := by
  induction as with
  | nil => exact iff_of_false nofun (by simp)
  | cons a as ih =>
    have ih := ih fun b hb => h b (List.mem_cons_of_mem a hb)
    rw [List.mapM_cons, List.exists_mem_cons_iff]
    cases ha : f a with
    | error e' =>
      obtain rfl := h a List.mem_cons_self e' ha
      exact ⟨fun he => ⟨(Except.error.inj he).symm, .inl rfl⟩, fun he => congrArg Except.error he.1.symm⟩
    | ok b =>
      have hrest : (do return b :: (← as.mapM f) : Except ε (List β)) = .error e ↔
          as.mapM f = .error e := by
        cases as.mapM f <;> simp [bind, Except.bind, pure, Except.pure]
      rw [or_iff_right nofun, ← ih]
      exact hrest

end Rollup
