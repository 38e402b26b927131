import Mathlib.Data.List.Forall2

/-!
# Runs of steps that can fail

A run carries out one step per item and stops at the first failure.

* `exists_of_bind_eq_ok` — one step after another succeeds only if both do.
* `mapM_eq_ok_iff` — a run succeeds with the results of its steps.
* `mapM_eq_error_first_iff` — a run fails with the error of the first step that fails.
* `mapM_eq_error_iff` — a run fails exactly if some step does.
-/

namespace QueryArtifacts

section Steps

variable {α β ε : Type} {f : α → Except ε β}

/-- One step after another succeeds only if both do. -/
theorem exists_of_bind_eq_ok {γ : Type} {a : Except ε α} {g : α → Except ε γ} {result : γ}
    (hrun : a >>= g = .ok result) : ∃ x, a = .ok x ∧ g x = .ok result := by
  cases a with
  | error error => cases hrun
  | ok x => exact ⟨x, rfl, hrun⟩

/-- A run succeeds exactly if every step does, and gives the results in order. -/
theorem mapM_eq_ok_iff {items : List α} {results : List β} :
    items.mapM f = .ok results ↔
      List.Forall₂ (fun item result => f item = .ok result) items results := by
  induction items generalizing results with
  | nil => cases results <;> simp [pure, Except.pure]
  | cons item rest ih =>
      rw [List.mapM_cons, List.forall₂_cons_left_iff]
      simp only [← ih]
      cases hitem : f item with
      | error error => simp [bind, Except.bind]
      | ok first =>
          cases hrest : rest.mapM f with
          | error error => simp [bind, Except.bind]
          | ok more => simp [bind, Except.bind, pure, Except.pure, eq_comm]

/-- A run fails with an error exactly if that is the error of a step and all steps before it
succeed. -/
theorem mapM_eq_error_first_iff {items : List α} {error : ε} :
    items.mapM f = .error error ↔ ∃ before item after, items = before ++ item :: after ∧
      (∀ earlier ∈ before, ∃ result, f earlier = .ok result) ∧ f item = .error error := by
  induction items with
  | nil => simp [pure, Except.pure]
  | cons item rest ih =>
      rw [List.mapM_cons]
      constructor
      · intro hrun
        cases hitem : f item with
        | error failure =>
            rw [hitem] at hrun
            cases hrun
            exact ⟨[], item, rest, rfl, fun _ hmem => absurd hmem List.not_mem_nil, hitem⟩
        | ok first =>
            have hrest : rest.mapM f = .error error := by
              rw [hitem] at hrun
              cases hmore : rest.mapM f with
              | ok results =>
                  rw [hmore] at hrun
                  cases hrun
              | error failure =>
                  rw [hmore] at hrun
                  cases hrun
                  rfl
            obtain ⟨before, culprit, after, rfl, hbefore, hculprit⟩ := ih.mp hrest
            refine ⟨item :: before, culprit, after, rfl, ?_, hculprit⟩
            rw [List.forall_mem_cons]
            exact ⟨⟨first, hitem⟩, hbefore⟩
      · rintro ⟨before, culprit, after, hitems, hbefore, hculprit⟩
        cases before with
        | nil =>
            cases hitems
            rw [hculprit]
            rfl
        | cons first more =>
            cases hitems
            rw [List.forall_mem_cons] at hbefore
            obtain ⟨⟨result, hresult⟩, hmore⟩ := hbefore
            rw [hresult, ih.mpr ⟨more, culprit, after, rfl, hmore, hculprit⟩]
            rfl

/-- A run of steps fails exactly if one of them does. -/
theorem mapM_eq_error_iff {items : List α} :
    (∃ error, items.mapM f = .error error) ↔ ∃ item ∈ items, ∃ error, f item = .error error := by
  induction items with
  | nil => simp [pure, Except.pure]
  | cons item rest ih =>
      rw [List.mapM_cons, List.exists_mem_cons_iff, ← ih]
      cases hitem : f item with
      | error error => exact iff_of_true ⟨error, rfl⟩ (Or.inl ⟨error, rfl⟩)
      | ok result =>
          cases hrest : rest.mapM f with
          | error error => exact iff_of_true ⟨error, rfl⟩ (Or.inr ⟨error, rfl⟩)
          | ok results => simp [bind, Except.bind, pure, Except.pure]

/-- A run succeeds exactly if all of its steps do. -/
theorem exists_mapM_eq_ok_iff {items : List α} :
    (∃ results, items.mapM f = .ok results) ↔ ∀ item ∈ items, ∃ result, f item = .ok result := by
  cases hrun : items.mapM f with
  | error error =>
      obtain ⟨item, hmem, failure, hitem⟩ := mapM_eq_error_iff.mp ⟨error, hrun⟩
      refine iff_of_false (by simp) fun hall => ?_
      obtain ⟨result, hresult⟩ := hall item hmem
      rw [hitem] at hresult
      cases hresult
  | ok results =>
      refine iff_of_true ⟨results, rfl⟩ fun item hmem => ?_
      cases hitem : f item with
      | ok result => exact ⟨result, rfl⟩
      | error error =>
          obtain ⟨failure, hfailure⟩ := mapM_eq_error_iff.mpr ⟨item, hmem, error, hitem⟩
          rw [hrun] at hfailure
          cases hfailure

/-- What a run of steps gives comes from its steps. -/
theorem exists_of_mem_mapM {items : List α} {results : List β} (hrun : items.mapM f = .ok results) :
    ∀ result ∈ results, ∃ item ∈ items, f item = .ok result := by
  have hsteps := mapM_eq_ok_iff.mp hrun
  clear hrun
  induction hsteps with
  | nil => exact fun _ hmem => absurd hmem List.not_mem_nil
  | @cons item first rest more hfirst _ ih =>
      rw [List.forall_mem_cons]
      refine ⟨⟨item, List.mem_cons_self .., hfirst⟩, fun result hmem => ?_⟩
      obtain ⟨source, hsource, hresult⟩ := ih result hmem
      exact ⟨source, List.mem_cons_of_mem _ hsource, hresult⟩

end Steps
end QueryArtifacts
