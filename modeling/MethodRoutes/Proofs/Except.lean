/-!
# When computations with errors succeed and fail

## Main results

* `exists_eq_ok_iff`, `exists_eq_error_iff` — a computation either succeeds or fails
* `bind_eq_ok_iff`, `bind_eq_error_iff` — the results of two steps in a row
* `map_eq_ok_iff`, `map_eq_error_iff`, `mapError_eq_ok_iff`, `mapError_eq_error_iff` — the results
  of a changed step
* `map_bind`, `bind_map`, `foldlM_map` — where a change of the value meets further steps
* `foldlM_eq_error_iff`, `forM_eq_error_iff` — steps over a list fail at the first one that does
* `mapM_id_eq_ok_iff`, `mapM_id_eq_error_iff` — collecting results succeeds when all of them are
  values, and fails with the first error otherwise
-/

namespace MethodRoutes

variable {ε ε' α β γ : Type}

theorem exists_eq_ok_iff {x : Except ε α} : (∃ a, x = .ok a) ↔ x.isOk = true := by
  cases x <;> simp [Except.isOk, Except.toBool]

theorem exists_eq_error_iff {x : Except ε α} : (∃ e, x = .error e) ↔ ¬ ∃ a, x = .ok a := by
  cases x <;> simp

theorem bind_eq_ok_iff {x : Except ε α} {f : α → Except ε β} {b : β} :
    x >>= f = .ok b ↔ ∃ a, x = .ok a ∧ f a = .ok b := by
  cases x <;> simp [bind, Except.bind]

theorem bind_eq_error_iff {x : Except ε α} {f : α → Except ε β} {e : ε} :
    x >>= f = .error e ↔ x = .error e ∨ ∃ a, x = .ok a ∧ f a = .error e := by
  cases x <;> simp [bind, Except.bind]

theorem map_eq_ok_iff {x : Except ε α} {f : α → β} {b : β} :
    x.map f = .ok b ↔ ∃ a, x = .ok a ∧ f a = b := by
  cases x <;> simp [Except.map]

theorem map_eq_error_iff {x : Except ε α} {f : α → β} {e : ε} :
    x.map f = .error e ↔ x = .error e := by
  cases x <;> simp [Except.map]

theorem mapError_eq_ok_iff {f : ε → ε'} {x : Except ε α} {a : α} :
    x.mapError f = .ok a ↔ x = .ok a := by
  cases x with
  | error e => exact ⟨fun h => (by cases h), fun h => (by cases h)⟩
  | ok a => exact ⟨fun h => congrArg Except.ok (Except.ok.inj h),
      fun h => congrArg Except.ok (Except.ok.inj h)⟩

theorem mapError_eq_error_iff {f : ε → ε'} {x : Except ε α} {e : ε'} :
    x.mapError f = .error e ↔ ∃ cause, x = .error cause ∧ f cause = e := by
  cases x with
  | error cause =>
    constructor
    · intro h
      exact ⟨cause, rfl, Except.error.inj h⟩
    · rintro ⟨_, h, rfl⟩
      cases h
      rfl
  | ok a => exact ⟨fun h => (by cases h), fun ⟨_, h, _⟩ => (by cases h)⟩

theorem map_bind (x : Except ε α) (k : α → Except ε β) (f : β → γ) :
    (x >>= k).map f = x >>= fun a => (k a).map f := by
  cases x <;> rfl

theorem bind_map (x : Except ε α) (f : α → β) (k : β → Except ε γ) :
    x.map f >>= k = x >>= fun a => k (f a) := by
  cases x <;> rfl

theorem foldlM_map {f : α → β} {step : α → γ → Except ε α} {step' : β → γ → Except ε β}
    (h : ∀ a c, step' (f a) c = (step a c).map f) (items : List γ) (a : α) :
    items.foldlM step' (f a) = (items.foldlM step a).map f := by
  induction items generalizing a with
  | nil => rfl
  | cons c items ih =>
    rw [List.foldlM_cons, List.foldlM_cons, h]
    cases step a c with
    | error e => rfl
    | ok a' => exact ih a'

theorem foldlM_eq_error_iff {step : α → γ → Except ε α} {items : List γ} {a : α} {e : ε} :
    items.foldlM step a = .error e ↔
      ∃ before c after a', items = before ++ c :: after ∧
        before.foldlM step a = .ok a' ∧ step a' c = .error e := by
  constructor
  · intro h
    induction items generalizing a with
    | nil => cases h
    | cons c items ih =>
      rw [List.foldlM_cons, bind_eq_error_iff] at h
      rcases h with hfirst | ⟨a', hfirst, hrest⟩
      · exact ⟨[], c, items, a, rfl, rfl, hfirst⟩
      · obtain ⟨before, c', after, a'', hitems, hbefore, hfails⟩ := ih hrest
        refine ⟨c :: before, c', after, a'', by rw [hitems, List.cons_append], ?_, hfails⟩
        rw [List.foldlM_cons, hfirst]
        exact hbefore
  · rintro ⟨before, c, after, a', rfl, hbefore, hfails⟩
    rw [List.foldlM_append, hbefore]
    refine bind_eq_error_iff.mpr (.inr ⟨a', rfl, ?_⟩)
    rw [List.foldlM_cons, hfails]
    rfl

theorem forM_eq_foldlM (check : γ → Except ε Unit) (items : List γ) :
    items.forM check = items.foldlM (fun _ c => check c) () := by
  induction items with
  | nil => rfl
  | cons c items ih =>
    have hstep : (c :: items).forM check = check c >>= fun _ => items.forM check := rfl
    rw [hstep, ih, List.foldlM_cons]

theorem forM_eq_error_iff {check : γ → Except ε Unit} {items : List γ} {e : ε} :
    items.forM check = .error e ↔
      ∃ before c after, items = before ++ c :: after ∧
        before.forM check = .ok () ∧ check c = .error e := by
  simp only [forM_eq_foldlM, foldlM_eq_error_iff]
  constructor
  · rintro ⟨before, c, after, _, hsplit⟩
    exact ⟨before, c, after, hsplit⟩
  · rintro ⟨before, c, after, hsplit⟩
    exact ⟨before, c, after, (), hsplit⟩

theorem mapM_id_eq_ok_iff {entries : List (Except ε α)} {values : List α} :
    entries.mapM id = .ok values ↔ entries = values.map .ok := by
  induction entries generalizing values with
  | nil => cases values <;> simp [pure, Except.pure]
  | cons entry entries ih =>
    rw [List.mapM_cons, bind_eq_ok_iff]
    constructor
    · rintro ⟨value, hentry, h⟩
      obtain ⟨rest, hrest, h⟩ := bind_eq_ok_iff.mp h
      cases h
      rw [id] at hentry
      rw [List.map_cons, ih.mp hrest, hentry]
    · intro h
      cases values with
      | nil => cases h
      | cons value values =>
        rw [List.map_cons, List.cons.injEq] at h
        exact ⟨value, h.1, bind_eq_ok_iff.mpr ⟨values, ih.mpr h.2, rfl⟩⟩

theorem mapM_id_eq_error_iff {entries : List (Except ε α)} {e : ε} :
    entries.mapM id = .error e ↔
      ∃ (values : List α) (after : _), entries = values.map .ok ++ .error e :: after := by
  induction entries with
  | nil => simp [pure, Except.pure]
  | cons entry entries ih =>
    rw [List.mapM_cons, bind_eq_error_iff]
    constructor
    · rintro (hentry | ⟨value, hentry, h⟩)
      · exact ⟨[], entries, by rw [← hentry, id, List.map_nil, List.nil_append]⟩
      · rcases bind_eq_error_iff.mp h with hrest | ⟨_, -, h⟩
        · obtain ⟨values, after, hentries⟩ := ih.mp hrest
          refine ⟨value :: values, after, ?_⟩
          rw [hentries, List.map_cons, List.cons_append, ← hentry, id]
        · cases h
    · rintro ⟨values, after, h⟩
      cases values with
      | nil => exact .inl (List.cons.inj h).1
      | cons value values =>
        rw [List.map_cons, List.cons_append, List.cons.injEq] at h
        exact .inr ⟨value, h.1, bind_eq_error_iff.mpr (.inl (ih.mpr ⟨values, after, h.2⟩))⟩

end MethodRoutes
