/-!
# Outcomes of steps

When a sequence of steps that may fail goes well, when it fails, and what is left of an outcome if the reason of a
failure does not matter.
-/

namespace ClusterRegister

variable {ε α β : Type}

theorem bind_eq_ok {x : Except ε α} {f : α → Except ε β} {b : β} (ok : (x >>= f) = .ok b) :
    ∃ a, x = .ok a ∧ f a = .ok b := by
  cases x with
  | error e => cases ok
  | ok a => exact ⟨a, rfl, ok⟩

theorem bind_eq_error {x : Except ε α} {f : α → Except ε β} {e : ε} (failed : (x >>= f) = .error e) :
    x = .error e ∨ ∃ a, x = .ok a ∧ f a = .error e := by
  cases x with
  | error e' =>
    cases failed
    exact .inl rfl
  | ok a => exact .inr ⟨a, rfl, failed⟩

/-- What goes well after a check has passed the check. -/
theorem ok_of_guard {fails : Prop} [Decidable fails] {e : ε} {rest : Except ε α} {a : α}
    (went : (if fails then .error e else rest) = .ok a) : ¬ fails ∧ rest = .ok a := by
  by_cases failed : fails
  · rw [if_pos failed] at went
    cases went
  · rw [if_neg failed] at went
    exact ⟨failed, went⟩

theorem toOption_bind (x : Except ε α) (f : α → Except ε β) :
    (x >>= f).toOption = x.toOption.bind fun a => (f a).toOption := by
  cases x <;> rfl

theorem toOption_ok (a : α) : (Except.ok a : Except ε α).toOption = some a := rfl

private theorem toOption_error (e : ε) : (Except.error e : Except ε α).toOption = none := rfl

theorem toOption_eq_some_iff {x : Except ε α} {a : α} : x.toOption = some a ↔ x = .ok a := by
  cases x with
  | error e => simp [toOption_error]
  | ok b => simp [toOption_ok]

theorem toOption_eq_none_iff {x : Except ε α} : x.toOption = none ↔ ∃ e, x = .error e := by
  cases x with
  | error e => simp [toOption_error]
  | ok b => simp [toOption_ok]

theorem toOption_map (x : Except ε α) (f : α → β) : (x.map f).toOption = x.toOption.map f := by
  cases x <;> rfl

end ClusterRegister
