/-!
# Steps that may fail

* `bind_eq_ok_iff`, `pure_eq_ok_iff`, `ok_bind`, `bind_eq_error_iff`: the result of one step behind another;
* `mapError_eq_ok_iff`, `mapError_eq_error_iff`: a step whose faults are told in other words;
* `cases_of_map_eq_map`: two steps whose results are alike;
* `FailsOnly`: steps all of whose faults are of one kind, and chains of them.
-/

namespace MarketBrief

theorem bind_eq_ok_iff {ε α β : Type} {x : Except ε α} {f : α → Except ε β} {b : β} :
    (x >>= f) = .ok b ↔ ∃ a, x = .ok a ∧ f a = .ok b := by
  cases x with
  | ok a => exact ⟨fun h => ⟨a, rfl, h⟩, fun ⟨_, ha, hb⟩ => by cases ha; exact hb⟩
  | error e => exact ⟨fun h => (nomatch h), fun ⟨_, ha, _⟩ => (nomatch ha)⟩

theorem pure_eq_ok_iff {ε α : Type} {a b : α} : (pure a : Except ε α) = .ok b ↔ a = b :=
  iff_of_eq (Except.ok.injEq a b)

theorem ok_bind {ε α β : Type} (a : α) (f : α → Except ε β) : (Except.ok a >>= f) = f a := rfl

theorem bind_eq_error_iff {ε α β : Type} {x : Except ε α} {f : α → Except ε β} {fault : ε} :
    (x >>= f) = .error fault ↔ x = .error fault ∨ ∃ a, x = .ok a ∧ f a = .error fault := by
  cases x with
  | ok a => exact ⟨fun h => Or.inr ⟨a, rfl, h⟩, fun h => by
      obtain h | ⟨_, ha, hf⟩ := h
      · exact nomatch h
      · cases ha; exact hf⟩
  | error e => exact ⟨fun h => by cases h; exact Or.inl rfl, fun h => by
      obtain h | ⟨_, ha, -⟩ := h
      · cases h; rfl
      · exact nomatch ha⟩

theorem mapError_eq_ok_iff {ε ε' α : Type} {x : Except ε α} {f : ε → ε'} {a : α} :
    x.mapError f = .ok a ↔ x = .ok a := by
  cases x with
  | ok b => exact ⟨fun h => by cases h; rfl, fun h => by cases h; rfl⟩
  | error e => exact ⟨fun h => (nomatch h), fun h => (nomatch h)⟩

theorem mapError_eq_error_iff {ε ε' α : Type} {x : Except ε α} {f : ε → ε'} {fault : ε'} :
    x.mapError f = .error fault ↔ ∃ e, x = .error e ∧ f e = fault := by
  cases x with
  | ok a => exact ⟨fun h => (nomatch h), fun ⟨_, h, _⟩ => (nomatch h)⟩
  | error e => exact ⟨fun h => ⟨e, rfl, by cases h; rfl⟩, fun ⟨_, h, hf⟩ => by cases h; cases hf; rfl⟩

/-- Two steps with results that agree under a map fail for the same reason, or both succeed. -/
theorem cases_of_map_eq_map {ε α β : Type} {x y : Except ε α} {f : α → β} (h : x.map f = y.map f) :
    (∃ fault, x = .error fault ∧ y = .error fault) ∨ ∃ a b, x = .ok a ∧ y = .ok b ∧ f a = f b := by
  cases x with
  | error e =>
    cases y with
    | error e' => cases h; exact .inl ⟨e, rfl, rfl⟩
    | ok b => exact nomatch h
  | ok a =>
    cases y with
    | error e => exact nomatch h
    | ok b => exact .inr ⟨a, b, rfl, rfl, Except.ok.inj h⟩

/-- All faults of a step are of one kind. -/
def FailsOnly {ε α : Type} (P : ε → Prop) (x : Except ε α) : Prop := ∀ fault, x = .error fault → P fault

section FailsOnly

variable {ε ε' α β : Type} {P : ε → Prop}

theorem failsOnly_ok {a : α} : FailsOnly P (.ok a) := fun _ h => (nomatch h)

theorem failsOnly_error {fault : ε} (h : P fault) : FailsOnly P (.error fault : Except ε α) := by
  rintro _ ⟨⟩
  exact h

theorem FailsOnly.bind {x : Except ε α} {f : α → Except ε β} (hx : FailsOnly P x)
    (hf : ∀ a, x = .ok a → FailsOnly P (f a)) : FailsOnly P (x >>= f) := by
  intro fault h
  obtain h | ⟨a, ha, h⟩ := bind_eq_error_iff.1 h
  · exact hx fault h
  · exact hf a ha fault h

theorem failsOnly_mapError {x : Except ε' α} {f : ε' → ε} (h : ∀ e, P (f e)) : FailsOnly P (x.mapError f) := by
  intro fault hx
  obtain ⟨e, -, rfl⟩ := mapError_eq_error_iff.1 hx
  exact h e

end FailsOnly

end MarketBrief
