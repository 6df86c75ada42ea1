import FramedWire.Proofs.Bounds
import FramedWire.Proofs.Collecting
import FramedWire.Proofs.Decoding

/-!
# What a declared count can cost

A sequence begins with a count that its sender chose, and its items are decoded one by one up to
this count. The count alone brings nothing about: a value costs at least a word of the payload or
a descriptor, and what a message has left pays for the calls of the decoder, whether they succeed
or not.

The watched decoder notes its calls and is otherwise the decoder, as `unwatch_watchArg` says. What
it notes is charged against the part of the message that is consumed; the rest keeps its worth.
-/
namespace FramedWire

namespace Arg

mutual

/-- How many values an argument consists of: itself and all values in it. -/
def nodes : Arg → Nat
  | .sequence items => 1 + nodesAll items
  | _ => 1

def nodesAll : List Arg → Nat
  | [] => 0
  | item :: items => item.nodes + nodesAll items

end

theorem nodes_pos (arg : Arg) : 0 < arg.nodes := by
  cases arg <;> simp only [nodes] <;> omega

theorem length_le_nodesAll (items : List Arg) : items.length ≤ nodesAll items := by
  induction items with
  | nil => exact Nat.le_refl 0
  | cons item items ih =>
    have hitem := item.nodes_pos
    simp only [List.length_cons, nodesAll]
    omega

theorem nodes_of_conformsTo {arg : Arg} {ty : ArgType} (hty : ∀ element, ty ≠ .sequence element)
    (h : arg.conformsTo ty = true) : arg.nodes = 1 := by
  cases arg <;> try rfl
  cases ty <;> try cases h
  exact absurd rfl (hty _)

theorem four_le_extent (order : ByteOrder) (arg : Arg) :
    4 ≤ (arg.template order).length + 4 * arg.descriptors.length := by
  cases arg <;> simp [template, Template.fixed, Template.field, descriptors]; omega

end Arg

namespace Message

/-- What is left of a message, where a descriptor is worth as much as a word of the payload. -/
def stock (m : Message) : Nat := m.payload.length + 4 * m.queue.length

theorem Begins.stock_eq {m m' : Message} {t : Template} {ds : List Descriptor}
    (h : m.Begins t ds m') : m.stock = t.length + 4 * ds.length + m'.stock := by
  cases h with
  | intro bs rest queue hadmits hpayload hqueue =>
    simp only [stock, hpayload, hqueue, List.length_append, hadmits.length_eq]
    omega

theorem stock_of_readUint {m m' : Message} {word : UInt32} {ds : List Descriptor}
    (h : m.readUint = ⟨.ok word, m', ds⟩) : m.stock = 4 + m'.stock := by
  have hstock := (readUint_eq_iff.mp h).1.stock_eq
  rw [Template.fixed, List.length_map, ByteOrder.length_encode] at hstock
  exact hstock

structure Attempt where
  ty : ArgType
  message : Message

def Attempt.run (attempt : Attempt) : Reading Arg := attempt.message.decodeArg attempt.ty

structure Watched where
  message : Message
  attempts : List Attempt

namespace Watched

variable {α : Type}

def note (w : Watched) (ty : ArgType) : Watched :=
  { w with attempts := w.attempts ++ [⟨ty, w.message⟩] }

/-- A read that calls no decoder. -/
def read (w : Watched) (read : Message → Reading α) : Step Watched CodecError α :=
  let step := read w.message
  { result := step.result, state := { w with message := step.state }, closed := step.closed }

end Watched

/-- `decodeArg`, which notes every call of itself. -/
def watchArg : ArgType → Watched → Step Watched CodecError Arg
  | .sequence element, w =>
    match (w.note (.sequence element)).read readUint with
    | { result := .error e, state := w, closed := _ } => .fail e w
    | { result := .ok count, state := w, closed := _ } =>
      (Step.collect Arg.descriptors (fun _ => watchArg element)
        (List.replicate count.toNat ()) w).map .sequence
  | ty, w => (w.note ty).read (decodeArg ty)

section

variable {α β : Type}

/-- Forget what was noted. -/
def unwatch (step : Step Watched CodecError α) : Reading α :=
  { result := step.result, state := step.state.message, closed := step.closed }

theorem unwatch_collect {owned : α → List Descriptor}
    {watch : β → Watched → Step Watched CodecError α} {read : β → Message → Reading α}
    (h : ∀ b w, unwatch (watch b w) = read b w.message) (bs : List β) (w : Watched) :
    unwatch (Step.collect owned watch bs w) = Step.collect owned read bs w.message :=
  Step.mapState_collect h bs w

/-- The notes never control the decoder. -/
theorem unwatch_watchArg (ty : ArgType) (w : Watched) :
    unwatch (watchArg ty w) = w.message.decodeArg ty := by
  induction ty generalizing w with
  | sequence element ih =>
    rw [decodeArg_sequence_eq, watchArg, Watched.read]
    dsimp only [Watched.note]
    rcases w.message.readUint with ⟨e | count, m, ds⟩
    · rfl
    · dsimp only [chain]
      rw [← unwatch_collect (fun _ => ih) _ ⟨m, _⟩]
      rfl
  | int | uint | fixed | string | array | newId | fd => rfl

/-- The calls that were made are paid for. A value took one call for each of `weight` values, all
of them successful, and a word or a descriptor for each call; a failure may have made one more
call than the message could pay. -/
inductive Pays (weight : α → Nat) (w : Watched) : Step Watched CodecError α → Prop
  | done (a : α) (m : Message) (made : List Attempt) (closed : List Descriptor) :
      made.length = weight a → 4 * weight a + m.stock ≤ w.message.stock →
      (∀ attempt ∈ made, ∃ arg, attempt.run.result = .ok arg) →
      Pays weight w ⟨.ok a, ⟨m, w.attempts ++ made⟩, closed⟩
  | failed (e : CodecError) (m : Message) (made : List Attempt) (closed : List Descriptor) :
      4 * made.length ≤ w.message.stock + 4 →
      Pays weight w ⟨.error e, ⟨m, w.attempts ++ made⟩, closed⟩

end

theorem pays_scalar {ty : ArgType} (hty : ∀ element, ty ≠ .sequence element) (w : Watched) :
    Pays Arg.nodes w ((w.note ty).read (decodeArg ty)) := by
  rw [Watched.read]
  dsimp only [Watched.note]
  rcases hread : w.message.decodeArg ty with ⟨e | arg, m, ds⟩
  · apply Pays.failed e m [⟨ty, w.message⟩] ds
    rw [List.length_singleton]
    omega
  · obtain ⟨hconf, -, hbegins, -⟩ := decodeArg_eq_iff.mp hread
    have hnodes := Arg.nodes_of_conformsTo hty hconf
    have hextent := arg.four_le_extent w.message.order
    apply Pays.done arg m [⟨ty, w.message⟩] ds
    · rw [hnodes, List.length_singleton]
    · rw [hnodes, hbegins.stock_eq]
      omega
    · intro attempt hattempt
      obtain rfl := List.mem_singleton.mp hattempt
      exact ⟨arg, congrArg Step.result hread⟩

/-- Items in a row: what the items before a failure have paid is theirs. -/
theorem pays_collect {β : Type} {watch : β → Watched → Step Watched CodecError Arg}
    (h : ∀ b w, Pays Arg.nodes w (watch b w)) (bs : List β) (w : Watched) :
    Pays Arg.nodesAll w (Step.collect Arg.descriptors watch bs w) := by
  induction bs generalizing w with
  | nil =>
    have hdone : Step.collect Arg.descriptors watch [] w =
        ⟨.ok [], ⟨w.message, w.attempts ++ []⟩, []⟩ := by
      rw [List.append_nil]
      rfl
    rw [hdone]
    apply Pays.done
    · rfl
    · rw [Arg.nodesAll]
      omega
    · nofun
  | cons b bs ih =>
    have hfirst := h b w
    rw [Step.collect]
    generalize watch b w = first at hfirst ⊢
    cases hfirst with
    | failed e m made closed hcost => exact .failed e m made closed hcost
    | done arg m made closed hmade hcost hanswered =>
      have hrest := ih ⟨m, w.attempts ++ made⟩
      dsimp only
      generalize Step.collect Arg.descriptors watch bs _ = rest at hrest ⊢
      cases hrest with
      | failed e m' made' closed' hcost' =>
        dsimp only
        rw [List.append_assoc]
        apply Pays.failed
        rw [List.length_append]
        dsimp only at hcost'
        omega
      | done args m' made' closed' hmade' hcost' hanswered' =>
        dsimp only
        rw [List.append_assoc]
        apply Pays.done
        · rw [List.length_append, hmade, hmade', Arg.nodesAll]
        · rw [Arg.nodesAll]
          dsimp only at hcost'
          omega
        · exact List.forall_mem_append.mpr ⟨hanswered, hanswered'⟩

theorem pays_watchArg (ty : ArgType) (w : Watched) : Pays Arg.nodes w (watchArg ty w) := by
  induction ty generalizing w with
  | int | uint | fixed | string | array | newId | fd => exact pays_scalar (by nofun) w
  | sequence element ih =>
    have hself := unwatch_watchArg (.sequence element) w
    rw [watchArg, Watched.read] at hself ⊢
    dsimp only [Watched.note] at hself ⊢
    rcases hcount : w.message.readUint with ⟨e | count, m, ds⟩
    · apply Pays.failed e m [⟨.sequence element, w.message⟩] []
      rw [List.length_singleton]
      omega
    · have hitems := pays_collect (fun _ => ih) (List.replicate count.toNat ())
        ⟨m, w.attempts ++ [⟨.sequence element, w.message⟩]⟩
      have hstock := stock_of_readUint hcount
      simp only [hcount] at hself
      dsimp only
      generalize Step.collect Arg.descriptors _ _ _ = step at hitems hself ⊢
      cases hitems with
      | failed e m' made closed hcost =>
        rw [List.append_assoc]
        apply Pays.failed
        rw [List.length_append, List.length_singleton]
        dsimp only at hcost
        omega
      | done items m' made closed hmade hcost hanswered =>
        rw [List.append_assoc]
        apply Pays.done
        · rw [List.length_append, List.length_singleton, hmade, Arg.nodes]
        · rw [Arg.nodes]
          dsimp only at hcost
          omega
        · -- the call itself has succeeded, since its items have
          refine List.forall_mem_append.mpr ⟨?_, hanswered⟩
          intro attempt hattempt
          obtain rfl := List.mem_singleton.mp hattempt
          exact ⟨.sequence items, congrArg Step.result hself.symm⟩

theorem length_attempts_le (ty : ArgType) (m : Message) :
    4 * (watchArg ty ⟨m, []⟩).state.attempts.length ≤ m.stock + 4 := by
  have hpays := pays_watchArg ty ⟨m, []⟩
  generalize watchArg ty ⟨m, []⟩ = step at hpays ⊢
  cases hpays with
  | failed e m' made closed hcost => exact hcost
  | done arg m' made closed hmade hcost hanswered =>
    dsimp only [List.nil_append] at hcost ⊢
    omega

section

variable {m m' after : Message} {ty element : ArgType} {count : UInt32} {arg : Arg}
  {ds : List Descriptor}

/-- A value that was decoded took one call for each of its nodes. -/
theorem pays_of_decodeArg (h : m.decodeArg ty = ⟨.ok arg, m', ds⟩) :
    (watchArg ty ⟨m, []⟩).state.attempts.length = arg.nodes ∧
      4 * arg.nodes + m'.stock ≤ m.stock ∧
      ∀ attempt ∈ (watchArg ty ⟨m, []⟩).state.attempts,
        ∃ arg, attempt.run.result = .ok arg := by
  have hpays := pays_watchArg ty ⟨m, []⟩
  have hself := unwatch_watchArg ty ⟨m, []⟩
  rw [h] at hself
  generalize watchArg ty ⟨m, []⟩ = step at hpays hself ⊢
  cases hpays with
  | failed e m₁ made closed hcost => cases hself
  | done arg₁ m₁ made closed hmade hcost hanswered =>
    cases hself
    exact ⟨hmade, hcost, hanswered⟩

theorem length_of_decodeArg_sequence (hcount : m.readUint = .done count after)
    (h : m.decodeArg (.sequence element) = ⟨.ok arg, m', ds⟩) :
    ∃ items, arg = .sequence items ∧ items.length = count.toNat := by
  simp only [decodeArg, hcount, Step.done] at h
  obtain ⟨items, hitems, rfl⟩ := Step.map_eq_ok_iff.mp h
  exact ⟨items, rfl, ((readItems_eq_iff decodeArg_eq_iff rfl).mp hitems).1⟩

theorem not_ok_of_excessive (hcount : m.readUint = .done count after)
    (hexcess : after.payload.length / 4 + after.queue.length < count.toNat) :
    m.decodeArg (.sequence element) ≠ ⟨.ok arg, m', ds⟩ := by
  intro h
  obtain ⟨items, rfl, hlength⟩ := length_of_decodeArg_sequence hcount h
  have hcost := (pays_of_decodeArg h).2.1
  have hitems := Arg.length_le_nodesAll items
  rw [stock_of_readUint hcount, Arg.nodes] at hcost
  unfold stock at hcost
  omega

end

/-- Whatever the counts in a message say, a value that is decoded has no more nodes than the words
and descriptors it takes off the message, and the decoder is called no more than once for each of
those that are there, and once for what is missing. Wherever it meets a count that is more than
what follows can pay, it refuses the sequence, after no more calls than that, and so the whole. -/
theorem decodeArg_frugal (ty : ArgType) (m : Message) :
    let watched := watchArg ty ⟨m, []⟩
    unwatch watched = m.decodeArg ty ∧
    watched.state.attempts.length ≤ m.payload.length / 4 + m.queue.length + 1 ∧
    (∀ arg m' closed, m.decodeArg ty = ⟨.ok arg, m', closed⟩ →
      watched.state.attempts.length = arg.nodes ∧
      ∃ bytes fds, m.payload = bytes ++ m'.payload ∧ m.queue = fds ++ m'.queue ∧
        arg.nodes ≤ bytes.length / 4 + fds.length) ∧
    ∀ element inner count after, ⟨.sequence element, inner⟩ ∈ watched.state.attempts →
      inner.readUint = .done count after →
      after.payload.length / 4 + after.queue.length < count.toNat →
      (∃ e, (inner.decodeArg (.sequence element)).result = .error e) ∧
      (watchArg (.sequence element) ⟨inner, []⟩).state.attempts.length ≤
        1 + (after.payload.length / 4 + after.queue.length + 1) ∧
      ∃ e, (m.decodeArg ty).result = .error e := by
  intro watched
  refine ⟨unwatch_watchArg ty ⟨m, []⟩, ?_, ?_, ?_⟩
  · have hlength : 4 * watched.state.attempts.length ≤ m.stock + 4 := length_attempts_le ty m
    unfold stock at hlength
    omega
  · intro arg m' closed h
    obtain ⟨hmade, hcost, -⟩ := pays_of_decodeArg h
    refine ⟨hmade, ?_⟩
    cases (decodeArg_eq_iff.mp h).2.2.1 with
    | intro bytes rest queue hadmits hpayload hqueue =>
      refine ⟨bytes, arg.descriptors, hpayload, hqueue, ?_⟩
      simp only [stock, hpayload, hqueue, List.length_append] at hcost
      omega
  · intro element inner count after hmem hcount hexcess
    refine ⟨?_, ?_, ?_⟩
    · rcases h : inner.decodeArg (.sequence element) with ⟨e | arg, m', ds⟩
      · exact ⟨e, rfl⟩
      · exact absurd h (not_ok_of_excessive hcount hexcess)
    · have hlength := length_attempts_le (.sequence element) inner
      rw [stock_of_readUint hcount, stock] at hlength
      omega
    · rcases h : m.decodeArg ty with ⟨e | arg, m', ds⟩
      · exact ⟨e, rfl⟩
      · -- of a decoder that succeeds all calls have succeeded
        obtain ⟨arg', harg'⟩ := (pays_of_decodeArg h).2.2 _ hmem
        obtain ⟨m₁, ds₁, hrun⟩ := Step.exists_of_result harg'
        exact absurd hrun (not_ok_of_excessive hcount hexcess)

/-- Two descriptors for a count of nine, in a sequence of sequences: the decoder is called once
for each of the sequences, for the two descriptors and for the first that is missing. -/
example :
    let m := framed ⟨1, 2, 16⟩ [1, 0, 0, 0, 9, 0, 0, 0] [⟨3⟩, ⟨4⟩] .little
    ((m.decodeArg (.sequence (.sequence .fd))).result,
      (watchArg (.sequence (.sequence .fd)) ⟨m, []⟩).state.attempts.length) =
        (.error (.descriptorUnderflow 2), 5) := by
  cbv

end Message

end FramedWire
