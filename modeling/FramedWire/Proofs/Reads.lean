import FramedWire.Proofs.TypedCodec

/-!
# Operations on a message

What an operation takes of the queue of descriptors comes off its front, in order. If the
operation succeeds, its value owns just these descriptors and nothing is closed; if it fails,
just these are closed, also when it fails in the middle of a sequence or of a list of arguments.
-/
namespace FramedWire

namespace Message

structure Gives (m : Message) (ds : List Descriptor) (m' : Message) : Prop where
  queue_eq : m.queue = ds ++ m'.queue
  handedOut_eq : m'.handedOut = m.handedOut + ds.length

theorem Gives.trans {m m₁ m₂ : Message} {ds es : List Descriptor} (h : m.Gives ds m₁)
    (h' : m₁.Gives es m₂) : m.Gives (ds ++ es) m₂ := by
  refine ⟨?_, ?_⟩
  · rw [h.queue_eq, h'.queue_eq, List.append_assoc]
  · rw [h'.handedOut_eq, h.handedOut_eq, List.length_append, Nat.add_assoc]

section

variable {α β : Type}

inductive Dry (m : Message) : Reading α → Prop
  | intro (result : Except CodecError α) (m' : Message) : m.Gives [] m' → Dry m ⟨result, m', []⟩

/-- A read that accounts for the descriptors it takes: its value owns them, or they are closed. -/
inductive Spends (owned : α → List Descriptor) (m : Message) : Reading α → Prop
  | done (a : α) (m' : Message) : m.Gives (owned a) m' → Spends owned m ⟨.ok a, m', []⟩
  | failed (e : CodecError) (m' : Message) (ds : List Descriptor) :
      m.Gives ds m' → Spends owned m ⟨.error e, m', ds⟩

variable {m : Message} {step : Reading α}

theorem Dry.of_fail (e : CodecError) : Dry m (.fail e m : Reading α) :=
  .intro _ _ ⟨rfl, rfl⟩

theorem Dry.after {m₁ : Message} (h : m.Gives [] m₁) (hstep : Dry m₁ step) : Dry m step := by
  obtain ⟨result, m₂, hgives⟩ := hstep
  exact .intro result m₂ (h.trans hgives)

theorem Dry.map (f : α → β) (h : Dry m step) : Dry m (step.map f) := by
  obtain ⟨result, m', hgives⟩ := h
  exact .intro _ m' hgives

theorem Dry.spends (h : Dry m step) : Spends (fun _ => []) m step := by
  obtain ⟨result, m', hgives⟩ := h
  cases result with
  | error e => exact .failed e m' [] hgives
  | ok a => exact .done a m' hgives

theorem Spends.after {owned : α → List Descriptor} {m₁ : Message} (h : m.Gives [] m₁)
    (hstep : Spends owned m₁ step) : Spends owned m step := by
  cases hstep with
  | done a m₂ hgives => exact .done a m₂ (h.trans hgives)
  | failed e m₂ ds hgives => exact .failed e m₂ ds (h.trans hgives)

theorem Spends.map {owned : α → List Descriptor} {owned' : β → List Descriptor} {f : α → β}
    (h : Spends owned m step) (howned : ∀ a, owned' (f a) = owned a) :
    Spends owned' m (step.map f) := by
  cases h with
  | done a m' hgives =>
    rw [← howned a] at hgives
    exact .done (f a) m' hgives
  | failed e m' ds hgives => exact .failed e m' ds hgives

end

theorem dry_readUint (m : Message) : Dry m m.readUint := by
  unfold readUint
  split
  · exact .intro _ _ ⟨rfl, rfl⟩
  · exact .of_fail _

theorem dry_readInt (m : Message) : Dry m m.readInt := (dry_readUint m).map _

theorem dry_readFixed (m : Message) : Dry m m.readFixed := (dry_readInt m).map _

theorem dry_splitPadded (m : Message) (len : Nat) : Dry m (m.splitPadded len) := by
  unfold splitPadded
  dsimp only
  split
  · exact .of_fail _
  · exact .intro _ _ ⟨rfl, rfl⟩

theorem dry_readString (m : Message) : Dry m m.readString := by
  have hword := dry_readUint m
  unfold readString
  generalize m.readUint = step at hword ⊢
  obtain ⟨result, m₁, hgives⟩ := hword
  apply Dry.after hgives
  cases result with
  | error e => exact .of_fail e
  | ok word =>
    dsimp only
    split
    · exact .of_fail _
    split
    · exact .of_fail _
    split
    · exact .of_fail _
    have hfield := dry_splitPadded m₁ word.toNat
    generalize m₁.splitPadded word.toNat = step at hfield ⊢
    obtain ⟨result, m₂, hgives⟩ := hfield
    apply Dry.after hgives
    cases result with
    | error e => exact .of_fail e
    | ok field =>
      dsimp only
      split
      · exact .intro _ m₂ ⟨rfl, rfl⟩
      · exact .of_fail _

theorem dry_readArray (m : Message) : Dry m m.readArray := by
  have hword := dry_readUint m
  unfold readArray
  generalize m.readUint = step at hword ⊢
  obtain ⟨result, m₁, hgives⟩ := hword
  apply Dry.after hgives
  cases result with
  | error e => exact .of_fail e
  | ok word => exact dry_splitPadded m₁ word.toNat

theorem dry_readNewId (m : Message) : Dry m m.readNewId := by
  have hname := dry_readString m
  unfold readNewId
  generalize m.readString = step at hname ⊢
  obtain ⟨result, m₁, hgives⟩ := hname
  apply Dry.after hgives
  cases result with
  | error e => exact .of_fail e
  | ok interface => exact (dry_readUint m₁).map _

theorem spends_takeFd (m : Message) : Spends (fun d => [d]) m m.takeFd := by
  unfold takeFd
  split
  · exact .failed _ m [] ⟨rfl, rfl⟩
  · rename_i d queue hqueue
    exact .done d _ ⟨hqueue, rfl⟩

section

variable {α β : Type} {owned : α → List Descriptor}

/-- Values that are made one after the other own the descriptors in order. When one fails, it
is closed what was taken for it and what those before it own. -/
theorem spends_collect {read : β → Message → Reading α} (h : ∀ b m, Spends owned m (read b m))
    (bs : List β) (m : Message) :
    Spends (List.flatMap owned) m (Step.collect owned read bs m) := by
  induction bs generalizing m with
  | nil => exact .done [] m ⟨rfl, rfl⟩
  | cons b bs ih =>
    have hfirst := h b m
    rcases hread : read b m with ⟨result, m₁, ds₁⟩
    rw [hread] at hfirst
    cases hfirst with
    | failed e m₁ ds₁ hgives =>
      simp only [Step.collect, hread]
      exact .failed e m₁ ds₁ hgives
    | done a m₁ hgives =>
      have hrest := ih m₁
      rcases hreads : Step.collect owned read bs m₁ with ⟨result, m₂, ds₂⟩
      rw [hreads] at hrest
      cases hrest with
      | failed e m₂ ds₂ hgives' =>
        simp only [Step.collect, hread, hreads, List.nil_append]
        exact .failed e m₂ _ (hgives.trans hgives')
      | done as m₂ hgives' =>
        simp only [Step.collect, hread, hreads, List.nil_append]
        exact .done (a :: as) m₂ (hgives.trans hgives')

theorem readMany_eq_collect (item : Message → Reading α) (count : Nat) (m : Message) :
    readMany item owned count m =
      Step.collect owned (fun _ => item) (List.replicate count ()) m := by
  induction count generalizing m with
  | zero => rfl
  | succ count ih =>
    rw [List.replicate_succ]
    rcases hread : item m with ⟨e | a, m₁, ds₁⟩
    · simp only [readMany, Step.collect, hread]
    · rcases hreads : Step.collect owned (fun _ => item) (List.replicate count ()) m₁
        with ⟨e | as, m₂, ds₂⟩
      · simp only [readMany, Step.collect, hread, ih, hreads]
      · simp only [readMany, Step.collect, hread, ih, hreads]

end

theorem spends_decodeArg (ty : ArgType) (m : Message) :
    Spends Arg.descriptors m (m.decodeArg ty) := by
  induction ty generalizing m with
  | int => exact (dry_readInt m).spends.map fun _ => rfl
  | uint => exact (dry_readUint m).spends.map fun _ => rfl
  | fixed => exact (dry_readFixed m).spends.map fun _ => rfl
  | string => exact (dry_readString m).spends.map fun _ => rfl
  | array => exact (dry_readArray m).spends.map fun _ => rfl
  | newId => exact (dry_readNewId m).spends.map fun _ => rfl
  | fd => exact (spends_takeFd m).map fun _ => rfl
  | sequence element ih =>
    have hcount := dry_readUint m
    unfold decodeArg
    generalize m.readUint = step at hcount ⊢
    obtain ⟨result, m₁, hgives⟩ := hcount
    apply Spends.after hgives
    cases result with
    | error e => exact .failed e m₁ [] ⟨rfl, rfl⟩
    | ok count =>
      have hitems : Spends (List.flatMap Arg.descriptors) m₁
          (readMany (decodeArg element) Arg.descriptors count.toNat m₁) := by
        rw [readMany_eq_collect]
        exact spends_collect (fun _ => ih) _ m₁
      have hsequence : Spends Arg.descriptors m₁
          ((readMany (decodeArg element) Arg.descriptors count.toNat m₁).map .sequence) :=
        hitems.map fun items => Arg.descriptorsAll_eq_flatMap items
      exact hsequence

theorem spends_decodeArgs (sig : Signature) (m : Message) :
    Spends Arg.descriptorsAll m (m.decodeArgs sig) := by
  have hall : Spends (List.flatMap Arg.descriptors) m (m.decodeArgs sig) :=
    spends_collect spends_decodeArg sig m
  rw [← funext Arg.descriptorsAll_eq_flatMap] at hall
  exact hall

inductive Op where
  | readInt | readUint | readFixed | readString | readArray | takeFd
  | takeRemainingFds
  /-- A value by its type, which is one of the types of the wire. -/
  | decode (ty : ArgType)
  | decodeArg (ty : ArgType)
  | decodeArgs (sig : Signature)
  deriving DecidableEq, Repr

namespace Op

/-- What the caller gets, as arguments. -/
def run (m : Message) : Op → Reading (List Arg)
  | .readInt => m.readInt.map fun v => [.int v]
  | .readUint => m.readUint.map fun v => [.uint v]
  | .readFixed => m.readFixed.map fun v => [.fixed v]
  | .readString => m.readString.map fun v => [.string v]
  | .readArray => m.readArray.map fun v => [.array v]
  | .takeFd => m.takeFd.map fun d => [.fd d]
  | .takeRemainingFds => .done (m.takeRemainingFds.1.map .fd) m.takeRemainingFds.2
  | .decode ty => (m.decode ty.Carrier).map fun v => [WireValue.toArg v]
  | .decodeArg ty => (m.decodeArg ty).map fun arg => [arg]
  | .decodeArgs sig => m.decodeArgs sig

/-- An operation takes descriptors off the front of the queue for its value, or closes them. -/
theorem spends_run (m : Message) (op : Op) : Spends Arg.descriptorsAll m (op.run m) := by
  cases op with
  | readInt => exact (dry_readInt m).spends.map fun _ => rfl
  | readUint => exact (dry_readUint m).spends.map fun _ => rfl
  | readFixed => exact (dry_readFixed m).spends.map fun _ => rfl
  | readString => exact (dry_readString m).spends.map fun _ => rfl
  | readArray => exact (dry_readArray m).spends.map fun _ => rfl
  | takeFd => exact (spends_takeFd m).map fun _ => rfl
  | takeRemainingFds =>
    have howned : Arg.descriptorsAll (m.queue.map .fd) = m.queue := by
      rw [Arg.descriptorsAll_eq_flatMap, List.flatMap_map]
      exact List.flatMap_singleton' m.queue
    refine .done _ _ ⟨?_, ?_⟩
    · change m.queue = Arg.descriptorsAll (m.queue.map .fd) ++ []
      rw [howned, List.append_nil]
    · change m.handedOut + m.queue.length =
        m.handedOut + (Arg.descriptorsAll (m.queue.map .fd)).length
      rw [howned]
  | decode ty =>
    have harg : Spends Arg.descriptorsAll m ((m.decodeArg ty).map fun arg => [arg]) :=
      (spends_decodeArg ty m).map fun arg => List.append_nil _
    rw [← WireValue.map_decode, Step.map_map] at harg
    exact harg
  | decodeArg ty => exact (spends_decodeArg ty m).map fun arg => List.append_nil _
  | decodeArgs sig => exact spends_decodeArgs sig m

end Op

end Message

end FramedWire
