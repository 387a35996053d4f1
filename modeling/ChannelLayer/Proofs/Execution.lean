import ChannelLayer.Chain

/-!
# What a successful step went through

A check, a query or a step that succeeds took every one of its parts to success. `bind_eq_ok` says so for
checks and `run_bind_eq_ok` for steps, and the lemmas after them say what each kind of part leaves: with
them `simp` turns a validation that succeeded into the list of facts it checked, and an execution that
succeeded into the store it ended in.
-/

set_option autoImplicit false

namespace ChannelLayer

attribute [simp] liftM MonadLiftT.monadLift

/-! ## Checks -/

section
variable {ε ε' α β : Type}

/-- Whether a check passes can be evaluated. -/
instance decidableEqOk [DecidableEq α] (x : Except ε α) (a : α) : Decidable (x = .ok a) :=
  match x with
  | .ok b => decidable_of_iff (b = a) (by simp)
  | .error _ => .isFalse (by simp)

@[simp] theorem bind_eq_ok {x : Except ε α} {f : α → Except ε β} {b : β} :
    (x >>= f) = .ok b ↔ ∃ a, x = .ok a ∧ f a = .ok b := by
  cases x <;> simp [bind, Except.bind]

@[simp] theorem pure_eq_ok {a b : α} : (pure a : Except ε α) = .ok b ↔ a = b := by
  simp [pure, Except.pure]

@[simp] theorem exists_unit_eq_ok {x : Except ε Unit} : (∃ u, x = .ok u) ↔ x = .ok () := by
  constructor
  · rintro ⟨⟨⟩, h⟩; exact h
  · intro h; exact ⟨(), h⟩

@[simp] theorem throw_bind (e : ε) (f : α → Except ε β) : (throw e >>= f) = throw e := rfl

@[simp] theorem throw_ne_ok (e : ε) (a : α) : (throw e : Except ε α) ≠ .ok a := by
  simp [throw, throwThe, MonadExceptOf.throw]

@[simp] theorem ite_throw_eq_ok {p : Prop} [Decidable p] {e : ε} {x : Except ε α} {a : α} :
    (if p then throw e else x) = .ok a ↔ ¬p ∧ x = .ok a := by
  split <;> simp [*]

@[simp] theorem ite_else_throw_eq_ok {p : Prop} [Decidable p] {e : ε} {x : Except ε α} {a : α} :
    (if p then x else throw e) = .ok a ↔ p ∧ x = .ok a := by
  split <;> simp [*]

@[simp] theorem ite_error_eq_ok {p : Prop} [Decidable p] {e : ε} {x : Except ε α} {a : α} :
    (if p then .error e else x) = .ok a ↔ ¬p ∧ x = .ok a := by
  split <;> simp [*]

@[simp] theorem ite_else_error_eq_ok {p : Prop} [Decidable p] {e : ε} {x : Except ε α} {a : α} :
    (if p then x else .error e) = .ok a ↔ p ∧ x = .ok a := by
  split <;> simp [*]

@[simp] theorem mapError_eq_ok {x : Except ε α} {f : ε → ε'} {a : α} :
    x.mapError f = .ok a ↔ x = .ok a := by
  cases x with
  | error e =>
    show Except.error (f e) = .ok a ↔ _
    simp
  | ok b =>
    show Except.ok b = .ok a ↔ _
    simp

/-- Raising the error of a part to one of the handler keeps its successes. -/
@[simp] theorem lift_eq_ok {f : ε → ε'} {x : Except ε α} {a : α} :
    @MonadLift.monadLift (Except ε) (Except ε') ⟨Except.mapError f⟩ α x = .ok a ↔ x = .ok a :=
  mapError_eq_ok

@[simp] theorem map_eq_ok {x : Except ε α} {f : α → β} {b : β} :
    (f <$> x) = .ok b ↔ ∃ a, x = .ok a ∧ f a = b := by
  cases x <;> simp [Functor.map, Except.map]

@[simp] theorem discard_eq_ok {x : Except ε α} {u : PUnit} :
    discard x = .ok u ↔ ∃ a, x = .ok a := by
  cases x <;> simp [discard, Functor.mapConst, Except.map]

end

/-! ## Steps -/

section
variable {ε σ α β : Type}

@[simp] theorem run_bind_eq_ok {x : EStateM ε σ α} {f : α → EStateM ε σ β} {s t : σ} {b : β} :
    (x >>= f) s = .ok b t ↔ ∃ a s', x s = .ok a s' ∧ f a s' = .ok b t := by
  show EStateM.bind x f s = .ok b t ↔ _
  unfold EStateM.bind
  split <;> simp [*, and_assoc]

@[simp] theorem run_map_eq_ok {x : EStateM ε σ α} {f : α → β} {s t : σ} {b : β} :
    (f <$> x) s = .ok b t ↔ ∃ a, x s = .ok a t ∧ f a = b := by
  show EStateM.map f x s = .ok b t ↔ _
  unfold EStateM.map
  split <;> simp [*, and_assoc, and_comm]

@[simp] theorem run_pure_eq_ok {s t : σ} {a b : α} :
    (pure a : EStateM ε σ α) s = .ok b t ↔ a = b ∧ s = t := by
  simp [pure, EStateM.pure]

@[simp] theorem run_get_eq_ok {s t : σ} {a : σ} :
    (get : EStateM ε σ σ) s = .ok a t ↔ s = a ∧ s = t := by
  show EStateM.Result.ok s s = .ok a t ↔ _
  simp

@[simp] theorem run_modify_eq_ok {f : σ → σ} {s t : σ} {u : PUnit} :
    (modify f : EStateM ε σ PUnit) s = .ok u t ↔ f s = t := by
  show EStateM.Result.ok PUnit.unit (f s) = .ok u t ↔ _
  simp

@[simp] theorem run_throw_ne_ok {e : ε} {s t : σ} {a : α} :
    (throw e : EStateM ε σ α) s ≠ .ok a t := by
  show EStateM.Result.error e s ≠ .ok a t
  simp

end

/-- A check within a step changes nothing. -/
@[simp] theorem run_lift_eq_ok {σ α : Type} {x : Except HandlerError α} {s t : σ} {a : α} :
    (MonadLift.monadLift x : EStateM HandlerError σ α) s = .ok a t ↔ x = .ok a ∧ s = t := by
  cases x <;> simp [MonadLift.monadLift]

namespace Exec

variable {l l' : Ledger}

@[simp] theorem store_eq_ok {s : Store} : Exec.store l = .ok s l' ↔ l.store = s ∧ l = l' := by
  simp [Exec.store, and_assoc, and_comm]

@[simp] theorem app_eq_ok {a : App} : Exec.app l = .ok a l' ↔ l.app = a ∧ l = l' := by
  simp [Exec.app, and_comm]

@[simp] theorem update_eq_ok {f : Store → Store} {u : Unit} :
    Exec.update f l = .ok u l' ↔ { l with store := f l.store } = l' := by
  simp [Exec.update]

@[simp] theorem setApp_eq_ok {a : App} {u : Unit} :
    Exec.setApp a l = .ok u l' ↔ { l with app := a } = l' := by
  simp [Exec.setApp]

@[simp] theorem setChannel_eq_ok {id : EndId} {c : ChannelEnd} {u : Unit} :
    Exec.setChannel id c l = .ok u l' ↔ { l with store := l.store.setChannel id c } = l' := by
  simp [Exec.setChannel]

@[simp] theorem log_eq_ok {line : String} {u : Unit} :
    Exec.log line l = .ok u l' ↔ { l with store := l.store.log line } = l' := by
  simp [Exec.log]

@[simp] theorem report_eq_ok {e : Event} {u : Unit} :
    Exec.report e l = .ok u l' ↔ { l with store := l.store.report e } = l' := by
  simp [Exec.report]

@[simp] theorem addExtras_eq_ok {extras : Extras} {u : Unit} :
    Exec.addExtras extras l = .ok u l' ↔ { l with store := l.store.addExtras extras } = l' := by
  simp [Exec.addExtras]

end Exec

end ChannelLayer
