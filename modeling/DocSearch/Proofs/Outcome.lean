/-!
# Outcomes of computations that may fail

How a sequence of computations came to its outcome: a success passed through a success of each
part, and a failure is the one of the first part that failed.
-/

namespace DocSearch

section Inversion

variable {ε α β : Type}

theorem bind_eq_ok_iff {x : Except ε α} {f : α → Except ε β} {b : β} :
    x >>= f = .ok b ↔ ∃ a, x = .ok a ∧ f a = .ok b := by
  cases x with
  | error e => simp [bind, Except.bind]
  | ok a => simp [bind, Except.bind]

/-- A computation without a value of its own only has to succeed. -/
theorem check_bind_eq_ok_iff {x : Except ε Unit} {f : Unit → Except ε β} {b : β} :
    x >>= f = .ok b ↔ x = .ok () ∧ f () = .ok b := by
  rw [bind_eq_ok_iff]
  exact ⟨fun ⟨_, hx, hf⟩ => ⟨hx, hf⟩, fun ⟨hx, hf⟩ => ⟨(), hx, hf⟩⟩

theorem pure_eq_ok_iff {a b : α} : (pure a : Except ε α) = .ok b ↔ a = b := by
  simp [pure, Except.pure]

@[simp]
theorem ok_bind (a : α) (f : α → Except ε β) : (Except.ok a >>= f) = f a := rfl

@[simp]
theorem error_bind (e : ε) (f : α → Except ε β) :
    ((Except.error e : Except ε α) >>= f) = .error e := rfl

theorem map_eq_ok_iff {x : Except ε α} {f : α → β} {b : β} :
    x.map f = .ok b ↔ ∃ a, x = .ok a ∧ f a = b := by
  cases x with
  | error cause =>
    constructor
    · intro h
      cases h
    · rintro ⟨a, h, -⟩
      cases h
  | ok a =>
    constructor
    · intro h
      exact ⟨a, rfl, Except.ok.inj h⟩
    · rintro ⟨a', h, rfl⟩
      obtain rfl := Except.ok.inj h
      rfl

theorem map_eq_error_iff {x : Except ε α} {f : α → β} {e : ε} :
    x.map f = .error e ↔ x = .error e := by
  cases x with
  | error cause => exact ⟨fun h => congrArg _ (Except.error.inj h), fun h => h ▸ rfl⟩
  | ok a =>
    constructor
    · intro h
      cases h
    · intro h
      cases h

theorem mapError_eq_ok_iff {δ : Type} {x : Except ε α} {f : ε → δ} {a : α} :
    x.mapError f = .ok a ↔ x = .ok a := by
  cases x with
  | error cause =>
    constructor
    · intro h
      cases h
    · intro h
      cases h
  | ok b => exact ⟨fun h => congrArg _ (Except.ok.inj h), fun h => h ▸ rfl⟩

theorem mapError_eq_error_iff {δ : Type} {x : Except ε α} {f : ε → δ} {e : δ} :
    x.mapError f = .error e ↔ ∃ cause, x = .error cause ∧ f cause = e := by
  cases x with
  | error cause =>
    constructor
    · intro h
      exact ⟨cause, rfl, Except.error.inj h⟩
    · rintro ⟨cause', h, rfl⟩
      obtain rfl := Except.error.inj h
      rfl
  | ok a =>
    constructor
    · intro h
      cases h
    · rintro ⟨cause, h, -⟩
      cases h

theorem mapM_eq_ok_iff {f : α → Except ε β} {as : List α} {bs : List β} :
    as.mapM f = .ok bs ↔ as.map f = bs.map .ok := by
  induction as generalizing bs with
  | nil =>
    rw [List.mapM_nil, pure_eq_ok_iff, List.map_nil, eq_comm, eq_comm (a := []),
      List.map_eq_nil_iff]
  | cons a as ih =>
    rw [List.mapM_cons, bind_eq_ok_iff]
    constructor
    · rintro ⟨b, hb, h⟩
      obtain ⟨rest, hrest, h⟩ := bind_eq_ok_iff.mp h
      rw [← pure_eq_ok_iff.mp h, List.map_cons, List.map_cons, hb, ih.mp hrest]
    · intro h
      cases bs with
      | nil => simp at h
      | cons b rest =>
        obtain ⟨hb, hrest⟩ : f a = .ok b ∧ as.map f = rest.map .ok := by simpa using h
        exact ⟨b, hb, by rw [ih.mpr hrest, ok_bind]; rfl⟩

end Inversion

end DocSearch
