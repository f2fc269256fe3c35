import ShapeBinding.Proofs.Accepted
/-!
# Refused runs

A run is refused at the first step that is.  A sequence is refused by its first step, or by the second on what the first
gave (`bind_eq_error_iff`), and a traversal by the first element that is refused, all those before it being accepted
(`mapM_eq_error_iff`); in an ordered list this is the least element that is refused (`firstFails_iff_of_pairwise`).
-/
namespace ShapeBinding

variable {ε α β : Type}

/-- **The first element that fails**: there is one, and all before it pass. -/
def FirstFails (passes fails : α → Prop) (as : List α) : Prop :=
  ∃ before a after, as = before ++ a :: after ∧ (∀ x ∈ before, passes x) ∧ fails a

theorem not_firstFails_nil {passes fails : α → Prop} : ¬ FirstFails passes fails [] := by
  simp [FirstFails]

theorem firstFails_cons {passes fails : α → Prop} {a : α} {as : List α} :
    FirstFails passes fails (a :: as) ↔ fails a ∨ passes a ∧ FirstFails passes fails as := by
  constructor
  · rintro ⟨before, x, after, heq, hbefore, hx⟩
    cases before with
    | nil => exact .inl (by simp_all)
    | cons b before =>
      obtain ⟨rfl, rfl⟩ := List.cons.inj heq
      rw [List.forall_mem_cons] at hbefore
      exact .inr ⟨hbefore.1, before, x, after, rfl, hbefore.2, hx⟩
  · rintro (ha | ⟨ha, before, x, after, rfl, hbefore, hx⟩)
    · exact ⟨[], a, as, rfl, nofun, ha⟩
    · exact ⟨a :: before, x, after, rfl, List.forall_mem_cons.2 ⟨ha, hbefore⟩, hx⟩

/-- **Where a list is in order, the first element that fails is the least one that does.** -/
theorem firstFails_iff_of_pairwise {R : α → α → Prop} {passes fails : α → Prop} {as : List α} (h : as.Pairwise R)
    (hasymm : ∀ a b, R a b → ¬ R b a) :
    FirstFails passes fails as ↔ ∃ a ∈ as, fails a ∧ ∀ x ∈ as, R x a → passes x := by
  constructor
  · rintro ⟨before, a, after, rfl, hbefore, ha⟩
    rw [List.pairwise_append, List.pairwise_cons] at h
    refine ⟨a, List.mem_append_right _ (List.mem_cons_self ..), ha, fun x hx hxa => ?_⟩
    rw [List.mem_append, List.mem_cons] at hx
    rcases hx with hx | rfl | hx
    · exact hbefore x hx
    · exact absurd hxa (hasymm x x hxa)
    · exact absurd hxa (hasymm a x (h.2.1.1 x hx))
  · rintro ⟨a, hmem, ha, hleast⟩
    obtain ⟨before, after, rfl⟩ := List.append_of_mem hmem
    rw [List.pairwise_append] at h
    refine ⟨before, a, after, rfl, fun x hx => ?_, ha⟩
    exact hleast x (List.mem_append_left _ hx) (h.2.2 x hx a (List.mem_cons_self ..))

theorem bind_eq_error_iff {x : Except ε α} {f : α → Except ε β} {e : ε} :
    (x >>= f) = .error e ↔ x = .error e ∨ ∃ a, x = .ok a ∧ f a = .error e := by
  cases x <;> simp [bind, Except.bind]

/-- **A refused traversal was refused by the first element that is**, with the error of that element. -/
theorem mapM_eq_error_iff {f : α → Except ε β} {e : ε} : ∀ {as : List α},
    as.mapM f = .error e ↔ FirstFails (fun a => ∃ b, f a = .ok b) (fun a => f a = .error e) as
  | [] => by simp [not_firstFails_nil, pure, Except.pure]
  | a :: as => by
    have ih := @mapM_eq_error_iff f e as
    rw [List.mapM_cons, bind_eq_error_iff, firstFails_cons]
    simp only [bind_eq_error_iff, ih, pure, Except.pure, reduceCtorEq, and_false, exists_false, or_false,
      exists_and_right]

/-- A row of checks is refused by the first one that is. -/
theorem forM_eq_error_iff {f : α → Except ε Unit} {e : ε} : ∀ {as : List α},
    as.forM f = .error e ↔ FirstFails (fun a => f a = .ok ()) (fun a => f a = .error e) as
  | [] => by simp [not_firstFails_nil, List.forM, pure, Except.pure]
  | a :: as => by
    have ih := @forM_eq_error_iff f e as
    rw [firstFails_cons, ← ih]
    change (f a >>= fun _ => as.forM f) = _ ↔ _
    rw [bind_eq_error_iff]
    refine or_congr_right ?_
    constructor
    · rintro ⟨_, h, hrest⟩
      exact ⟨h, hrest⟩
    · rintro ⟨h, hrest⟩
      exact ⟨_, h, hrest⟩

end ShapeBinding
