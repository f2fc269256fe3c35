/-!
# Calls on an object

A call may change the object that it is made on, and it may fail.  It goes from step to step and stops where it fails;
what it has changed by then stays changed.  A call is atomic if a failure leaves the object as it was (`Call.Atomic`),
and then its result says everything: the changed object, or why there is none.
-/
namespace ShapeBinding

abbrev Call (σ ε : Type) := ExceptT ε (StateM σ)

namespace Call

variable {σ ε α : Type} {c : Call σ ε Unit} {s s' : σ} {err : ε}

/-- What is told of a call, and the object after it. -/
def runOn (c : Call σ ε Unit) (s : σ) : Except ε Unit × σ := StateT.run (ExceptT.run c) s

/-- The object after a call, be it accepted or refused. -/
def after (c : Call σ ε Unit) (s : σ) : σ := (c.runOn s).2

/-- The object after a call that is accepted. -/
def result (c : Call σ ε Unit) (s : σ) : Except ε σ :=
  match c.runOn s with
  | (.ok _, s') => .ok s'
  | (.error err, _) => .error err

/-- **A call that is refused leaves the object as it was.** -/
def Atomic (c : Call σ ε Unit) : Prop := ∀ s s' err, c.runOn s = (.error err, s') → s' = s

theorem result_eq_ok_iff : c.result s = .ok s' ↔ c.runOn s = (.ok (), s') := by
  unfold result
  rcases c.runOn s with ⟨_ | _, _⟩ <;> simp

theorem result_eq_error_iff : c.result s = .error err ↔ ∃ s', c.runOn s = (.error err, s') := by
  unfold result
  rcases c.runOn s with ⟨_ | _, _⟩ <;> simp

theorem after_of_result_eq_ok (h : c.result s = .ok s') : c.after s = s' := by
  rw [after, result_eq_ok_iff.1 h]

theorem Atomic.after_of_result_eq_error (hc : c.Atomic) (h : c.result s = .error err) : c.after s = s := by
  obtain ⟨s', hrun⟩ := result_eq_error_iff.1 h
  rw [after, hrun]
  exact hc s s' err hrun

/-! ## Checks before changes -/

/-- The call that reads the object and checks it, and changes it as the last step. -/
def checkThen (check : σ → Except ε α) (change : σ → σ) : Call σ ε Unit := do
  let s ← getThe σ
  let _ ← check s
  modify change

variable (check : σ → Except ε α) (change : σ → σ)

theorem runOn_checkThen (s : σ) : (checkThen check change).runOn s =
    match check s with
    | .ok _ => (.ok (), change s)
    | .error err => (.error err, s) := by
  -- the first step gives the object itself
  have hread : (checkThen check change).runOn s =
      runOn (liftM (check s) >>= fun _ => modify change : Call σ ε Unit) s := rfl
  rw [hread]
  cases check s with
  | ok _ => rfl
  | error err => rfl

theorem result_checkThen (s : σ) : (checkThen check change).result s = check s >>= fun _ => .ok (change s) := by
  rw [result, runOn_checkThen]
  cases check s with
  | ok _ => rfl
  | error err => rfl

theorem atomic_checkThen : (checkThen check change).Atomic := by
  intro s s' err h
  rw [runOn_checkThen] at h
  cases hcheck : check s with
  | ok _ =>
    rw [hcheck] at h
    cases h
  | error err' =>
    rw [hcheck] at h
    cases h
    rfl

end Call
end ShapeBinding
