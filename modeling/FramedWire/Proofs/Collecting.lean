import FramedWire.Descriptor

/-!
# Steps in a row

What a row of steps comes to, when a part of the state is looked at, when every step succeeds, and
when one of them fails: the row then ends, so that it is the same row without the steps behind.
-/
namespace FramedWire.Step

variable {σ τ ε α β : Type} {owned : α → List Descriptor}

/-- The same outcome for one who sees only a part of the state. -/
def mapState (view : τ → σ) (step : Step τ ε α) : Step σ ε α :=
  { result := step.result, state := view step.state, closed := step.closed }

/-- A row of steps is seen as the row of what is seen of each. -/
theorem mapState_collect {view : τ → σ} {f : β → τ → Step τ ε α} {g : β → σ → Step σ ε α}
    (h : ∀ b t, (f b t).mapState view = g b (view t)) (bs : List β) (t : τ) :
    (collect owned f bs t).mapState view = collect owned g bs (view t) := by
  induction bs generalizing t with
  | nil => rfl
  | cons b bs ih =>
    rw [collect, collect, ← h]
    rcases f b t with ⟨e | a, t₁, ds⟩
    · rfl
    · dsimp only [mapState]
      rw [← ih]
      rcases collect owned f bs t₁ with ⟨e | as, t₂, ds'⟩ <;> rfl

theorem collect_map_of_done {f : β → σ → Step σ ε α} {g : α → β} {as : List α}
    (h : ∀ a ∈ as, ∀ s, f (g a) s = done a s) (s : σ) :
    collect owned f (as.map g) s = done as s := by
  induction as with
  | nil => rfl
  | cons a as ih =>
    have hrest := ih fun other hother => h other (List.mem_cons_of_mem a hother)
    simp only [List.map_cons, collect, h a List.mem_cons_self, hrest, done, List.append_nil]

/-- A row that fails is the row up to the first step that fails. -/
theorem exists_take_of_collect_error {f : β → σ → Step σ ε α} {bs : List β} {s : σ} {e : ε}
    (h : (collect owned f bs s).result = .error e) :
    ∃ k < bs.length, (∃ as, (collect owned f (bs.take k) s).result = .ok as) ∧
      collect owned f (bs.take (k + 1)) s = collect owned f bs s := by
  induction bs generalizing s with
  | nil => cases h
  | cons b bs ih =>
    rcases hfirst : f b s with ⟨e' | a, s₁, ds⟩
    · refine ⟨0, Nat.succ_pos _, ⟨[], rfl⟩, ?_⟩
      simp only [List.take_succ_cons, List.take_zero, collect, hfirst]
    · have hrest : (collect owned f bs s₁).result = .error e := by
        rw [collect, hfirst] at h
        rcases hcollect : collect owned f bs s₁ with ⟨e' | as, s₂, ds'⟩
        · simpa only [hcollect] using h
        · simp only [hcollect] at h
          cases h
      obtain ⟨k, hk, ⟨as, hok⟩, htake⟩ := ih hrest
      refine ⟨k + 1, Nat.succ_lt_succ hk, ⟨a :: as, ?_⟩, ?_⟩
      · rcases hfront : collect owned f (bs.take k) s₁ with ⟨result, s₂, ds'⟩
        rw [hfront] at hok
        subst hok
        simp only [List.take_succ_cons, collect, hfirst, hfront]
      · simp only [List.take_succ_cons, collect, hfirst, htake]

end FramedWire.Step
