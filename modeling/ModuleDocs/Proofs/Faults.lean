/-!
# Steps and their faults

Why a step fails, said apart from the order in which it comes upon its faults: it fails when there is a fault, and
then with one of those that are there. Steps done one after the other have the faults of all of them.
-/

namespace ModuleDocs

variable {ε δ α β : Type}

/-- A step fails if and only if there is one of its faults, and reports one of them. -/
structure FailsOn (x : Except ε α) (faults : ε → Prop) : Prop where
  reported : ∀ e, x = .error e → faults e
  stopped : ∀ e, faults e → ∃ e', x = .error e'

theorem bind_eq_ok {x : Except ε α} {f : α → Except ε β} {b : β} :
    x >>= f = .ok b ↔ ∃ a, x = .ok a ∧ f a = .ok b := by
  cases x with
  | error e => simp [bind, Except.bind]
  | ok a => simp [bind, Except.bind]

theorem ok_of_toOption {x : Except ε α} {a : α} (h : x.toOption = some a) : x = .ok a := by
  cases x with
  | error e => cases h
  | ok b =>
    cases h
    rfl

theorem mapM_eq_ok {f : α → Except ε β} {g : α → β} (hg : ∀ a b, f a = .ok b → b = g a) {xs : List α} {ys : List β}
    (h : xs.mapM f = .ok ys) : ys = xs.map g := by
  induction xs generalizing ys with
  | nil =>
    cases h
    rfl
  | cons x xs ih =>
    rw [List.mapM_cons] at h
    obtain ⟨y, hy, h⟩ := bind_eq_ok.mp h
    obtain ⟨rest, hrest, h⟩ := bind_eq_ok.mp h
    cases h
    rw [List.map_cons, hg x y hy, ih hrest]

theorem mapError_eq_ok {x : Except ε α} {g : ε → δ} {a : α} : x.mapError g = .ok a ↔ x = .ok a := by
  cases x with
  | error e => exact ⟨fun h => (nomatch h), fun h => (nomatch h)⟩
  | ok b => exact ⟨fun h => by cases h; rfl, fun h => by cases h; rfl⟩

namespace FailsOn

variable {x : Except ε α} {faults faults' : ε → Prop}

theorem none_of_ok {a : α} (h : FailsOn (.ok a) faults) (e : ε) : ¬ faults e := by
  intro he
  obtain ⟨e', he'⟩ := h.stopped e he
  cases he'

theorem ok_iff (h : FailsOn x faults) : (∃ a, x = .ok a) ↔ ∀ e, ¬ faults e := by
  constructor
  · rintro ⟨a, rfl⟩
    exact h.none_of_ok
  · intro hnone
    cases x with
    | ok a => exact ⟨a, rfl⟩
    | error e => exact absurd (h.reported e rfl) (hnone e)

theorem congr (h : FailsOn x faults) (heq : ∀ e, faults e ↔ faults' e) : FailsOn x faults' :=
  ⟨fun e he => (heq e).mp (h.reported e he), fun e he => h.stopped e ((heq e).mpr he)⟩

theorem ok (a : α) : FailsOn (.ok a : Except ε α) fun _ => False :=
  ⟨fun _ he => (by cases he), fun _ he => he.elim⟩

theorem error (e : ε) : FailsOn (.error e : Except ε α) (· = e) :=
  ⟨fun _ he => (by cases he; rfl), fun _ _ => ⟨e, rfl⟩⟩

/-- A second step that has its faults whatever the first one gives. -/
theorem bind {f : α → Except ε β} (hx : FailsOn x faults) (hf : ∀ a, x = .ok a → FailsOn (f a) faults') :
    FailsOn (x >>= f) fun e => faults e ∨ faults' e := by
  cases x with
  | error e₀ =>
    refine ⟨fun e he => ?_, fun _ _ => ⟨e₀, rfl⟩⟩
    cases he
    exact Or.inl (hx.reported e₀ rfl)
  | ok a =>
    refine ⟨fun e he => Or.inr ((hf a rfl).reported e he), fun e he => ?_⟩
    rcases he with he | he
    · exact absurd he (hx.none_of_ok e)
    · exact (hf a rfl).stopped e he

theorem map {g : α → β} (hx : FailsOn x faults) : FailsOn (x.map g) faults := by
  cases x with
  | error e₀ =>
    refine ⟨fun e he => ?_, fun _ _ => ⟨e₀, rfl⟩⟩
    cases he
    exact hx.reported e₀ rfl
  | ok a => exact ⟨fun e he => (by cases he), fun e he => absurd he (hx.none_of_ok e)⟩

theorem mapError {g : ε → δ} (hx : FailsOn x faults) :
    FailsOn (x.mapError g) fun e => ∃ e₀, faults e₀ ∧ e = g e₀ := by
  cases x with
  | error e₀ =>
    refine ⟨fun e he => ?_, fun _ _ => ⟨g e₀, rfl⟩⟩
    cases he
    exact ⟨e₀, hx.reported e₀ rfl, rfl⟩
  | ok a =>
    refine ⟨fun e he => (by cases he), ?_⟩
    rintro e ⟨e₀, he₀, _⟩
    exact absurd he₀ (hx.none_of_ok e₀)

theorem error_if {c : Prop} [Decidable c] {e₀ : ε} (hx : FailsOn x faults) :
    FailsOn (if c then .error e₀ else x) fun e => (c ∧ e = e₀) ∨ faults e := by
  by_cases hc : c
  · rw [if_pos hc]
    exact ⟨fun e he => by cases he; exact Or.inl ⟨hc, rfl⟩, fun _ _ => ⟨e₀, rfl⟩⟩
  · rw [if_neg hc]
    exact hx.congr fun e => by simp [hc]

theorem mapM {f : α → Except ε β} {faults : α → ε → Prop} {xs : List α}
    (h : ∀ a ∈ xs, FailsOn (f a) (faults a)) : FailsOn (xs.mapM f) fun e => ∃ a ∈ xs, faults a e := by
  induction xs with
  | nil => exact (ok []).congr fun e => by simp
  | cons a as ih =>
    rw [List.mapM_cons]
    have htail := ih fun b hb => h b (List.mem_cons_of_mem _ hb)
    refine ((h a (List.mem_cons_self ..)).bind fun b _ => htail.bind fun bs _ => ok (b :: bs)).congr fun e => ?_
    simp

/-- Steps that change a state have the faults of all of them, if the state does not matter to these. -/
theorem foldlM {f : β → α → Except ε β} {faults : α → ε → Prop} {xs : List α}
    (h : ∀ a ∈ xs, ∀ b, FailsOn (f b a) (faults a)) (b : β) :
    FailsOn (xs.foldlM f b) fun e => ∃ a ∈ xs, faults a e := by
  induction xs generalizing b with
  | nil => exact (ok b).congr fun e => by simp
  | cons a as ih =>
    rw [List.foldlM_cons]
    refine ((h a (List.mem_cons_self ..) b).bind fun b' _ =>
      ih (fun c hc => h c (List.mem_cons_of_mem _ hc)) b').congr fun e => ?_
    simp

end FailsOn

end ModuleDocs
