import FramedWire.Descriptor

/-!
# Series of steps

The same operation time after time, whatever comes of it each time.
-/
namespace FramedWire

structure Series (σ ε α : Type) where
  results : List (Except ε α)
  state : σ
  closed : List Descriptor

namespace Step

variable {σ ε α : Type}

/-- Take `n` steps in turn. -/
def series (step : σ → Step σ ε α) : (n : Nat) → σ → Series σ ε α
  | 0, s => ⟨[], s, []⟩
  | n + 1, s =>
    let first := step s
    let rest := series step n first.state
    ⟨first.result :: rest.results, rest.state, first.closed ++ rest.closed⟩

@[simp] theorem series_zero (step : σ → Step σ ε α) (s : σ) : series step 0 s = ⟨[], s, []⟩ := rfl

theorem series_succ_of_eq {step : σ → Step σ ε α} {s s' : σ} {result : Except ε α}
    {closed : List Descriptor} (h : step s = ⟨result, s', closed⟩) (n : Nat) :
    series step (n + 1) s = ⟨result :: (series step n s').results, (series step n s').state,
      closed ++ (series step n s').closed⟩ := by
  rw [series, h]

theorem series_succ_of_series {step : σ → Step σ ε α} {n : Nat} {s s' s'' : σ}
    {results : List (Except ε α)} {result : Except ε α} {closed closed' : List Descriptor}
    (h : series step n s = ⟨results, s', closed⟩) (hlast : step s' = ⟨result, s'', closed'⟩) :
    series step (n + 1) s = ⟨results ++ [result], s'', closed ++ closed'⟩ := by
  induction n generalizing s results closed with
  | zero =>
    cases h
    rw [series_succ_of_eq hlast, series_zero]
    simp
  | succ n ih =>
    rw [series] at h
    cases h
    rw [series, ih rfl]
    simp

end Step

end FramedWire
