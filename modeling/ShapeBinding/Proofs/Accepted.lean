import Mathlib.Data.List.Forall2
/-!
# Accepted runs

A run that may be refused is taken apart here into what it did when it was accepted: a sequence accepted both of its
steps (`bind_eq_ok_iff`), a traversal accepted every element, in order (`mapM_eq_ok_iff`).  All later proofs about
accepted runs go through these equivalences and never through the definition of a run.
-/
namespace ShapeBinding

variable {ε α β : Type}

/-! ## Elements of related lists -/

theorem exists_left_of_forall₂ {R : α → β → Prop} {as : List α} {bs : List β} (h : List.Forall₂ R as bs) {b : β}
    (hb : b ∈ bs) : ∃ a ∈ as, R a b := by
  induction h with
  | nil => exact (List.not_mem_nil hb).elim
  | cons hab _ ih =>
    rcases List.mem_cons.1 hb with rfl | hb
    · exact ⟨_, List.mem_cons_self .., hab⟩
    · obtain ⟨a, ha, hr⟩ := ih hb
      exact ⟨a, List.mem_cons_of_mem _ ha, hr⟩

theorem exists_right_of_forall₂ {R : α → β → Prop} {as : List α} {bs : List β} (h : List.Forall₂ R as bs) {a : α}
    (ha : a ∈ as) : ∃ b ∈ bs, R a b :=
  exists_left_of_forall₂ h.flip ha

theorem forall₂_congr_of_mem {R S : α → β → Prop} : ∀ {as : List α} {bs : List β},
    (∀ a ∈ as, ∀ b, R a b ↔ S a b) → (List.Forall₂ R as bs ↔ List.Forall₂ S as bs)
  | [], _, _ => by rw [List.forall₂_nil_left_iff, List.forall₂_nil_left_iff]
  | a :: as, bs, h => by
    rw [List.forall_mem_cons] at h
    rw [List.forall₂_cons_left_iff, List.forall₂_cons_left_iff]
    simp only [h.1, forall₂_congr_of_mem h.2]

theorem forall₂_congr_of_mem_right {R S : α → β → Prop} {as : List α} {bs : List β}
    (h : ∀ b ∈ bs, ∀ a, R a b ↔ S a b) : List.Forall₂ R as bs ↔ List.Forall₂ S as bs := by
  have hflip : List.Forall₂ (flip R) bs as ↔ List.Forall₂ (flip S) bs as := forall₂_congr_of_mem h
  exact ⟨fun hr => (hflip.1 hr.flip).flip, fun hs => (hflip.2 hs.flip).flip⟩

theorem map_eq_map_of_forall₂ {γ : Type} {R : α → β → Prop} {f : α → γ} {g : β → γ} {as : List α} {bs : List β}
    (h : List.Forall₂ R as bs) (hfg : ∀ a b, R a b → g b = f a) : bs.map g = as.map f := by
  induction h with
  | nil => rfl
  | cons hab _ ih => rw [List.map_cons, List.map_cons, hfg _ _ hab, ih]

theorem pairwise_of_forall₂ {R : α → β → Prop} {P : α → α → Prop} {Q : β → β → Prop} {as : List α} {bs : List β}
    (h : List.Forall₂ R as bs) (hP : as.Pairwise P)
    (hPQ : ∀ a ∈ as, ∀ a' ∈ as, ∀ b b', R a b → R a' b' → P a a' → Q b b') : bs.Pairwise Q := by
  induction h with
  | nil => exact .nil
  | @cons a b as bs hab hrest ih =>
    rw [List.pairwise_cons] at hP
    refine .cons (fun b' hb' => ?_) (ih hP.2 fun a ha a' ha' => hPQ a (List.mem_cons_of_mem _ ha) a'
      (List.mem_cons_of_mem _ ha'))
    obtain ⟨a', ha', hab'⟩ := exists_left_of_forall₂ hrest hb'
    exact hPQ a (List.mem_cons_self ..) a' (List.mem_cons_of_mem _ ha') b b' hab hab' (hP.1 a' ha')

theorem getElem?_of_forall₂ {R : α → β → Prop} {as : List α} {bs : List β} (h : List.Forall₂ R as bs) (i : Nat) :
    (as[i]? = none ∧ bs[i]? = none) ∨ ∃ a b, as[i]? = some a ∧ bs[i]? = some b ∧ R a b := by
  induction h generalizing i with
  | nil => exact .inl ⟨rfl, rfl⟩
  | cons hab _ ih =>
    cases i with
    | zero => exact .inr ⟨_, _, rfl, rfl, hab⟩
    | succ i => simpa using ih i

theorem exists_forall₂_iff {R : α → β → Prop} : ∀ {as : List α},
    (∃ bs, List.Forall₂ R as bs) ↔ ∀ a ∈ as, ∃ b, R a b
  | [] => ⟨fun _ _ ha => (List.not_mem_nil ha).elim, fun _ => ⟨[], .nil⟩⟩
  | a :: as => by
    rw [List.forall_mem_cons, ← exists_forall₂_iff]
    constructor
    · rintro ⟨_, h⟩
      cases h with
      | cons hb hbs => exact ⟨⟨_, hb⟩, _, hbs⟩
    · rintro ⟨⟨b, hb⟩, bs, hbs⟩
      exact ⟨b :: bs, .cons hb hbs⟩

/-- What goes through a list in between goes element by element. -/
theorem exists_forall₂_and_iff {γ : Type} {R : α → β → Prop} {S : β → γ → Prop} : ∀ {as : List α} {cs : List γ},
    (∃ bs, List.Forall₂ R as bs ∧ List.Forall₂ S bs cs) ↔ List.Forall₂ (fun a c => ∃ b, R a b ∧ S b c) as cs
  | [], cs => by
    constructor
    · rintro ⟨_, ⟨⟩, ⟨⟩⟩
      exact .nil
    · rintro ⟨⟩
      exact ⟨[], .nil, .nil⟩
  | a :: as, cs => by
    constructor
    · rintro ⟨bs, h, h'⟩
      cases h with
      | cons hab has =>
        cases h' with
        | cons hbc hbs => exact .cons ⟨_, hab, hbc⟩ (exists_forall₂_and_iff.1 ⟨_, has, hbs⟩)
    · intro h
      cases h with
      | cons hac h =>
        obtain ⟨b, hab, hbc⟩ := hac
        obtain ⟨bs, has, hbs⟩ := exists_forall₂_and_iff.2 h
        exact ⟨b :: bs, .cons hab has, .cons hbc hbs⟩

theorem forall₂_and_right {R : α → β → Prop} {P : β → Prop} : ∀ {as : List α} {bs : List β},
    List.Forall₂ (fun a b => R a b ∧ P b) as bs ↔ List.Forall₂ R as bs ∧ ∀ b ∈ bs, P b
  | as, [] => by simp
  | as, b :: bs => by
    rw [List.forall₂_cons_right_iff, List.forall₂_cons_right_iff, List.forall_mem_cons]
    constructor
    · rintro ⟨a, as, ⟨hr, hp⟩, h, rfl⟩
      obtain ⟨hrs, hps⟩ := forall₂_and_right.1 h
      exact ⟨⟨a, as, hr, hrs, rfl⟩, hp, hps⟩
    · rintro ⟨⟨a, as, hr, hrs, rfl⟩, hp, hps⟩
      exact ⟨a, as, ⟨hr, hp⟩, forall₂_and_right.2 ⟨hrs, hps⟩, rfl⟩

theorem forall₂_flip_mem {R : α → β → Prop} {as : List α} {bs : List β} (h : List.Forall₂ R as bs) :
    List.Forall₂ (fun b a => R a b ∧ a ∈ as) bs as :=
  forall₂_and_right.2 ⟨h.flip, fun _ ha => ha⟩

/-- Two lists are equal if what relates an element to one of them and what relates it to the other have one element in
common at most. -/
theorem eq_of_forall₂ {R S : α → β → Prop} {as : List α} {bs cs : List β} (hR : List.Forall₂ R as bs)
    (hS : List.Forall₂ S as cs) (h : ∀ a ∈ as, ∀ b ∈ bs, ∀ c, R a b → S a c → b = c) : bs = cs := by
  induction hR generalizing cs with
  | nil =>
    cases hS
    rfl
  | cons hab _ ih =>
    cases hS with
    | cons hac has =>
      rw [h _ (List.mem_cons_self ..) _ (List.mem_cons_self ..) _ hab hac,
        ih has fun a ha b hb c => h a (List.mem_cons_of_mem _ ha) b (List.mem_cons_of_mem _ hb) c]

/-! ## Steps and traversals -/

theorem bind_eq_ok_iff {x : Except ε α} {f : α → Except ε β} {b : β} :
    (x >>= f) = .ok b ↔ ∃ a, x = .ok a ∧ f a = .ok b := by
  cases x with
  | error e => exact ⟨nofun, nofun⟩
  | ok a =>
    constructor
    · intro h
      exact ⟨a, rfl, h⟩
    · rintro ⟨_, ⟨⟩, h⟩
      exact h

/-- A guard lets a run pass just where it does not refuse. -/
theorem guard_eq_ok_iff {p : Prop} [Decidable p] {e : ε} {x : Except ε α} {a : α} :
    (if p then .error e else x) = .ok a ↔ ¬ p ∧ x = .ok a := by
  by_cases h : p
  · rw [if_pos h]
    exact ⟨nofun, fun hx => absurd h hx.1⟩
  · rw [if_neg h]
    exact ⟨fun hx => ⟨h, hx⟩, fun hx => hx.2⟩

/-- **An accepted traversal accepted every element**, and its answer lists what it got from them in order. -/
theorem mapM_eq_ok_iff {f : α → Except ε β} : ∀ {as : List α} {bs : List β},
    as.mapM f = .ok bs ↔ List.Forall₂ (fun a b => f a = .ok b) as bs
  | [], bs => by
    rw [List.mapM_nil, List.forall₂_nil_left_iff]
    exact ⟨fun h => by cases h; rfl, fun h => by rw [h]; rfl⟩
  | a :: as, bs => by
    rw [List.mapM_cons, bind_eq_ok_iff]
    constructor
    · rintro ⟨b, hb, h⟩
      obtain ⟨bs', hbs, h'⟩ := bind_eq_ok_iff.1 h
      cases h'
      exact .cons hb (mapM_eq_ok_iff.1 hbs)
    · intro h
      cases h with
      | cons hb hbs => exact ⟨_, hb, bind_eq_ok_iff.2 ⟨_, mapM_eq_ok_iff.2 hbs, rfl⟩⟩

theorem exists_mapM_eq_ok_iff {f : α → Except ε β} {as : List α} :
    (∃ bs, as.mapM f = .ok bs) ↔ ∀ a ∈ as, ∃ b, f a = .ok b := by
  simp only [mapM_eq_ok_iff, exists_forall₂_iff]

theorem forM_eq_ok_iff {f : α → Except ε Unit} : ∀ {as : List α},
    as.forM f = .ok ⟨⟩ ↔ ∀ a ∈ as, f a = .ok ⟨⟩
  | [] => by simp [List.forM, pure, Except.pure]
  | a :: as => by
    have ih := @forM_eq_ok_iff f as
    rw [List.forall_mem_cons, ← ih]
    change (f a >>= fun _ => as.forM f) = _ ↔ _
    rw [bind_eq_ok_iff]
    exact ⟨fun ⟨_, h, h'⟩ => ⟨h, h'⟩, fun ⟨h, h'⟩ => ⟨_, h, h'⟩⟩

/-- A traversal is accepted with the same answer by steps that accept whatever the given ones accept. -/
theorem mapM_mono {f g : α → Except ε β} (h : ∀ a b, f a = .ok b → g a = .ok b) {as : List α} {bs : List β}
    (hbs : as.mapM f = .ok bs) : as.mapM g = .ok bs :=
  mapM_eq_ok_iff.2 ((mapM_eq_ok_iff.1 hbs).imp h)

theorem foldlM_mono {f g : β → α → Except ε β} (h : ∀ b a b', f b a = .ok b' → g b a = .ok b') :
    ∀ {as : List α} {b b' : β}, as.foldlM f b = .ok b' → as.foldlM g b = .ok b'
  | [], _, _, hb => hb
  | a :: as, b, b', hb => by
    rw [List.foldlM_cons] at hb ⊢
    obtain ⟨c, hc, hb⟩ := bind_eq_ok_iff.1 hb
    exact bind_eq_ok_iff.2 ⟨c, h b a c hc, foldlM_mono h hb⟩

theorem mapM_congr_of_mem {f g : α → Except ε β} : ∀ {as : List α}, (∀ a ∈ as, f a = g a) → as.mapM f = as.mapM g
  | [], _ => rfl
  | a :: as, h => by
    rw [List.forall_mem_cons] at h
    rw [List.mapM_cons, List.mapM_cons, h.1, mapM_congr_of_mem h.2]

theorem foldlM_congr_of_mem {f g : β → α → Except ε β} : ∀ {as : List α} {b : β},
    (∀ b, ∀ a ∈ as, f b a = g b a) → as.foldlM f b = as.foldlM g b
  | [], _, _ => rfl
  | a :: as, b, h => by
    rw [List.foldlM_cons, List.foldlM_cons, h b a (List.mem_cons_self ..)]
    congr 1
    funext b'
    exact foldlM_congr_of_mem fun b a ha => h b a (List.mem_cons_of_mem _ ha)

end ShapeBinding
