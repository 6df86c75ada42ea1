import FramedWire.Proofs.Puts
import FramedWire.Proofs.Series

/-!
# Rejected operations leave no trace

A builder can be put to use after an operation was rejected, as if the operation had never been
asked for: whatever the history of a builder, it holds what the accepted operations alone would
have made of it. This rests on writers that only ever append, so that cutting back undoes them,
also if they are made of operations by somebody else.

`Builder.atomic_history` says so, and when a list of arguments is accepted.
-/
namespace FramedWire

namespace Builder

namespace Op

/-- Operations in turn, whatever comes of each. -/
def runAll (b : Builder) : List Op → Series Builder CodecError Unit
  | [] => ⟨[], b, []⟩
  | op :: ops =>
    let step := op.run b
    let rest := runAll step.state ops
    ⟨step.result :: rest.results, rest.state, step.closed ++ rest.closed⟩

/-- Those operations that are accepted when all are run in turn. -/
def accepted (b : Builder) : List Op → List Op
  | [] => []
  | op :: ops =>
    match op.run b with
    | { result := .ok (), state := b', closed := _ } => op :: accepted b' ops
    | { result := .error _, state := b', closed := _ } => accepted b' ops

/-- A rejected operation shows in its own result and in what it closes, and nowhere else. -/
theorem runAll_cons_of_error {b : Builder} {op : Op} {e : CodecError}
    (h : (op.run b).result = .error e) (ops : List Op) :
    runAll b (op :: ops) =
      ⟨.error e :: (runAll b ops).results, (runAll b ops).state,
        op.given ++ (runAll b ops).closed⟩ := by
  have hatomic := atomic_run b op
  rw [runAll]
  generalize op.run b = step at hatomic h ⊢
  cases hatomic with
  | accepted bytes => cases h
  | rejected e' =>
    cases h
    rfl

theorem runAll_accepted (b : Builder) (ops : List Op) :
    runAll b (accepted b ops) =
      ⟨List.replicate (accepted b ops).length (.ok ()), (runAll b ops).state, []⟩ := by
  induction ops generalizing b with
  | nil => rfl
  | cons op ops ih =>
    have hatomic := atomic_run b op
    generalize hrun : op.run b = step at hatomic
    cases hatomic with
    | accepted bytes =>
      simp only [accepted, runAll, hrun, ih, List.length_cons, List.replicate_succ, List.append_nil]
    | rejected e =>
      simp only [accepted, runAll, hrun, ih]

/-- A history of operations only appends, and queues what the accepted ones were given. -/
theorem exists_runAll_eq_extend (b : Builder) (ops : List Op) :
    ∃ bytes, (runAll b ops).state = b.extend bytes ((accepted b ops).flatMap given) := by
  induction ops generalizing b with
  | nil => exact ⟨[], (extend_nil b).symm⟩
  | cons op ops ih =>
    have hatomic := atomic_run b op
    generalize hrun : op.run b = step at hatomic
    cases hatomic with
    | accepted bytes =>
      obtain ⟨bytes', hrest⟩ := ih (b.extend bytes op.given)
      refine ⟨bytes ++ bytes', ?_⟩
      simp only [accepted, runAll, hrun, hrest, extend_extend, List.flatMap_cons]
    | rejected e =>
      obtain ⟨bytes, hrest⟩ := ih b
      refine ⟨bytes, ?_⟩
      simp only [accepted, runAll, hrun, hrest]

end Op

/-- A write that is made of operations, whatever it makes of their results. -/
def Composed (write : Builder → Writing) : Prop :=
  ∀ b, ∃ ops, (write b).state = (Op.runAll b ops).state

/-- Cutting back undoes any write that is made of operations. -/
theorem append_of_composed {write : Builder → Writing} (h : Composed write) (b : Builder) :
    ((b.append write).result = .ok () ∧ ∃ bytes ds, (b.append write).state = b.extend bytes ds) ∨
      ((∃ e, (b.append write).result = .error e) ∧ (b.append write).state = b) := by
  obtain ⟨ops, hops⟩ := h b
  obtain ⟨bytes, hextend⟩ := Op.exists_runAll_eq_extend b ops
  rcases hwrite : write b with ⟨e | _, b', ds⟩
  · rw [hwrite, hextend] at hops
    subst hops
    right
    simp [append, hwrite, extend]
  · rw [hwrite, hextend] at hops
    subst hops
    left
    simp only [append, hwrite, true_and]
    exact ⟨bytes, _, rfl⟩

/-- Every operation on a builder is accepted, and then only appends, or it is rejected, and then
all that comes later is as if it had not been asked for; so a builder holds at any time what the
accepted operations alone make of it. Values of any type are put in this way, as long as their
encoder is made of operations. A list of arguments is accepted exactly if there is one for each
entry, each conforms to its entry, and all lengths and counts in them fit into words. -/
theorem atomic_history (b : Builder) :
    (∀ op : Op, b.Atomic op.given (op.run b)) ∧
      (∀ (op : Op) (e : CodecError) (later : List Op), (op.run b).result = .error e →
        Op.runAll b (op :: later) =
          ⟨.error e :: (Op.runAll b later).results, (Op.runAll b later).state,
            op.given ++ (Op.runAll b later).closed⟩) ∧
      (∀ ops : List Op,
        Op.runAll b (Op.accepted b ops) =
          ⟨List.replicate (Op.accepted b ops).length (.ok ()), (Op.runAll b ops).state, []⟩ ∧
        ∃ bytes, (Op.runAll b ops).state =
          b.extend bytes ((Op.accepted b ops).flatMap Op.given)) ∧
      (∀ (α : Type) [WireValue α] (value : α), Composed (WireValue.encode value) →
        ((b.put value).result = .ok () ∧ ∃ bytes ds, (b.put value).state = b.extend bytes ds) ∨
          ((∃ e, (b.put value).result = .error e) ∧ (b.put value).state = b)) ∧
      ∀ (sig : Signature) (args : List Arg),
        ((b.putArgs sig args).result = .ok () ↔ sig.Accepts args ∧ Arg.AllFit args) ∧
          (¬ sig.Accepts args →
            ∃ e, (b.putArgs sig args).result = .error e ∧ e.isTypeContract = true) ∧
          (sig.Accepts args → ¬ Arg.AllFit args →
            ∃ n, 2 ^ 32 ≤ n ∧ (b.putArgs sig args).result = .error (.lengthOverflow n)) := by
  refine ⟨Op.atomic_run b, fun op e later h => Op.runAll_cons_of_error h later, ?_, ?_, ?_⟩
  · intro ops
    exact ⟨Op.runAll_accepted b ops, Op.exists_runAll_eq_extend b ops⟩
  · intro α _ value h
    exact append_of_composed h b
  · intro sig args
    exact ⟨result_putArgs_eq_ok_iff b, fun h => result_putArgs_of_not_accepts h b,
      fun h hfit => result_putArgs_of_not_fits h hfit b⟩

/-- A list that is rejected when its descriptor is already queued, and a word that is put later. -/
theorem atomic_history_overlong :
    let b := (Builder.start 1 2 .little).pushFd ⟨3⟩
    let sig : Signature := [.fd, .array]
    let args : List Arg := [.fd ⟨4⟩, .array (Bytes.zeros (2 ^ 32))]
    ∃ n, 2 ^ 32 ≤ n ∧ Op.runAll b [.putArgs sig args, .putUint 7] =
      ⟨[.error (.lengthOverflow n), .ok ()], b.extend [7, 0, 0, 0] [], [⟨4⟩]⟩ := by
  intro b sig args
  have hacc : sig.Accepts args := .cons rfl (.cons rfl .nil)
  have hfit : ¬ Arg.AllFit args := by
    intro h
    have hlen : (Bytes.zeros (2 ^ 32)).length < 2 ^ 32 := h.2.1
    rw [Bytes.zeros, List.length_replicate] at hlen
    exact Nat.lt_irrefl _ hlen
  obtain ⟨-, hlater, -, -, hputs⟩ := atomic_history b
  obtain ⟨n, hn, herror⟩ := (hputs sig args).2.2 hacc hfit
  refine ⟨n, hn, ?_⟩
  rw [hlater (.putArgs sig args) _ [.putUint 7] herror]
  rfl

end Builder

end FramedWire
