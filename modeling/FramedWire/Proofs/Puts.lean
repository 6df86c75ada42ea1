import FramedWire.Proofs.TypedCodec

/-!
# Operations on a builder

Every operation is atomic: it is accepted, and then bytes and all descriptors it was given are
appended, or it is rejected, and then the builder is as before and exactly these descriptors are
closed. A write alone is not atomic, since it may fail in the middle of a sequence; it keeps the
order of the descriptors, so what it had queued and what it released make up what it was given.
-/
namespace FramedWire

namespace Builder

inductive Grows (b : Builder) (given : List Descriptor) : Writing → Prop
  | done (bytes : Bytes) : Grows b given ⟨.ok (), b.extend bytes given, []⟩
  | failed (e : CodecError) (bytes : Bytes) (queued released : List Descriptor) :
      given = queued ++ released → Grows b given ⟨.error e, b.extend bytes queued, released⟩

/-- All that was given is queued behind the bytes that were written, or nothing is changed and
all of it is closed. -/
inductive Atomic (b : Builder) (given : List Descriptor) : Writing → Prop
  | accepted (bytes : Bytes) : Atomic b given ⟨.ok (), b.extend bytes given, []⟩
  | rejected (e : CodecError) : Atomic b given ⟨.error e, b, given⟩

section

variable {b : Builder} {given : List Descriptor}

theorem Grows.of_ok (b : Builder) : Grows b [] ⟨.ok (), b, []⟩ := by
  have hdone : Grows b [] ⟨.ok (), b.extend [] [], []⟩ := .done []
  rw [extend_nil] at hdone
  exact hdone

theorem Grows.of_error (b : Builder) (given : List Descriptor) (e : CodecError) :
    Grows b given ⟨.error e, b, given⟩ := by
  have hfailed : Grows b given ⟨.error e, b.extend [] [], given⟩ := .failed e [] [] given rfl
  rw [extend_nil] at hfailed
  exact hfailed

theorem Grows.after {bytes : Bytes} {first later : List Descriptor} {step : Writing}
    (h : Grows (b.extend bytes first) later step) : Grows b (first ++ later) step := by
  cases h with
  | done bytes' =>
    rw [extend_extend]
    exact .done (bytes ++ bytes')
  | failed e bytes' queued released hlater =>
    rw [extend_extend, hlater, ← List.append_assoc]
    exact .failed e (bytes ++ bytes') (first ++ queued) released rfl

theorem Atomic.grows {step : Writing} (h : Atomic b given step) : Grows b given step := by
  cases h with
  | accepted bytes => exact .done bytes
  | rejected e => exact .of_error b given e

theorem atomic_putUint (b : Builder) (v : UInt32) : Atomic b [] (.done () (b.putUint v)) := by
  rw [putUint_eq_extend]
  exact .accepted _

theorem atomic_putLen (b : Builder) (len : Nat) : Atomic b [] (b.putLen len) := by
  rcases Nat.lt_or_ge len (2 ^ 32) with hlt | hle
  · rw [putLen_of_lt b hlt]
    exact .accepted _
  · rw [putLen_of_le b hle]
    exact .rejected _

/-- A field behind its length is written as a whole or not at all. -/
theorem atomic_putField (b : Builder) (field : Bytes) : Atomic b [] (b.putField field) := by
  rcases Nat.lt_or_ge field.length (2 ^ 32) with hlt | hle
  · rw [putField_of_lt b hlt]
    exact .accepted _
  · rw [putField_of_le b hle]
    exact .rejected _

theorem grows_putNewId (b : Builder) (id : NewId) : Grows b [] (b.putNewId id) := by
  have hname : Grows b [] (b.putString id.interface) := (atomic_putField b _).grows
  rcases hput : b.putString id.interface with ⟨result, b₁, ds⟩
  rw [hput] at hname
  cases hname with
  | done bytes =>
    have hversion := (atomic_putUint (b.extend bytes []) id.version).grows
    simp only [putNewId, hput]
    exact hversion.after
  | failed e bytes queued released hgiven =>
    obtain ⟨rfl, rfl⟩ := List.append_eq_nil_iff.mp hgiven.symm
    simp only [putNewId, hput]
    exact .failed e bytes [] [] rfl

theorem grows_writeAll {items : List Arg}
    (h : ∀ item ∈ items, ∀ b : Builder, Grows b item.descriptors (write item b)) (b : Builder) :
    Grows b (Arg.descriptorsAll items) (writeAll items b) := by
  induction items generalizing b with
  | nil => exact .of_ok b
  | cons item items ih =>
    have hitem := h item List.mem_cons_self b
    have hitems := ih fun other hother => h other (List.mem_cons_of_mem item hother)
    rcases hwrite : write item b with ⟨result, b₁, ds⟩
    rw [hwrite] at hitem
    cases hitem with
    | done bytes =>
      simp only [writeAll, hwrite]
      exact (hitems (b.extend bytes item.descriptors)).after
    | failed e bytes queued released hgiven =>
      simp only [writeAll, hwrite, Arg.descriptorsAll, hgiven, List.append_assoc]
      exact .failed e bytes queued _ rfl

theorem grows_write (arg : Arg) (b : Builder) : Grows b arg.descriptors (write arg b) := by
  induction arg using Arg.inductionOn generalizing b with
  | int v => exact (atomic_putUint b _).grows
  | uint v => exact (atomic_putUint b v).grows
  | fixed v => exact (atomic_putUint b _).grows
  | string v => exact (atomic_putField b _).grows
  | array v => exact (atomic_putField b v).grows
  | newId v => exact grows_putNewId b v
  | fd d =>
    rw [write, pushFd_eq_extend]
    exact .done []
  | sequence items ih =>
    have hcount := (atomic_putLen b items.length).grows
    rcases hput : b.putLen items.length with ⟨result, b₁, ds⟩
    rw [hput] at hcount
    cases hcount with
    | done bytes =>
      simp only [write, putCount, hput]
      exact (grows_writeAll ih (b.extend bytes [])).after
    | failed e bytes queued released hgiven =>
      obtain ⟨rfl, rfl⟩ := List.append_eq_nil_iff.mp hgiven.symm
      simp only [write, putCount, hput]
      exact .failed e bytes [] _ rfl

theorem grows_encodeArg (arg : Arg) (b : Builder) : Grows b arg.descriptors (encodeArg arg b) := by
  cases arg with
  | sequence items =>
    rcases hshape : (Arg.sequence items).shape with e | s
    · simp only [encodeArg, hshape]
      exact .of_error b _ e
    · simp only [encodeArg, hshape]
      exact grows_write _ b
  | _ => exact grows_write _ b

theorem grows_encodeAllAs {sig : Signature} {args : List Arg} (hlen : sig.length = args.length)
    (b : Builder) : Grows b (Arg.descriptorsAll args) (encodeAllAs sig args b) := by
  induction sig generalizing args b with
  | nil =>
    cases args with
    | nil => exact .of_ok b
    | cons arg args => cases hlen
  | cons ty sig ih =>
    cases args with
    | nil => cases hlen
    | cons arg args =>
      have hfirst : Grows b arg.descriptors (encodeAs ty arg b) := by
        unfold encodeAs
        split
        · exact grows_write arg b
        · exact .of_error b _ _
      rcases hencode : encodeAs ty arg b with ⟨result, b₁, ds⟩
      rw [hencode] at hfirst
      cases hfirst with
      | done bytes =>
        simp only [encodeAllAs, hencode]
        exact (ih (Nat.succ.inj hlen) (b.extend bytes arg.descriptors)).after
      | failed e bytes queued released hgiven =>
        simp only [encodeAllAs, hencode, Arg.descriptorsAll, hgiven, List.append_assoc]
        exact .failed e bytes queued _ rfl

/-- Cutting the payload and the queue back undoes a write that failed. -/
theorem atomic_append {write : Builder → Writing} (h : Grows b given (write b)) :
    Atomic b given (b.append write) := by
  rcases hwrite : write b with ⟨result, b₁, ds⟩
  rw [hwrite] at h
  cases h with
  | done bytes =>
    simp only [append, hwrite]
    exact .accepted bytes
  | failed e bytes queued _ hgiven =>
    simp only [append, hwrite, payload_extend, queue_extend, List.take_left, List.drop_left,
      ← hgiven]
    exact .rejected e

theorem atomic_putArgs (sig : Signature) (args : List Arg) (b : Builder) :
    Atomic b (Arg.descriptorsAll args) (b.putArgs sig args) := by
  by_cases hlen : sig.length = args.length
  · rcases hmis : firstMismatch? sig args with _ | ⟨ty, arg⟩
    · simp only [putArgs, hlen, ne_eq, not_true_eq_false, if_false, hmis]
      exact atomic_append (grows_encodeAllAs hlen b)
    · simp only [putArgs, hlen, ne_eq, not_true_eq_false, if_false, hmis]
      exact .rejected _
  · simp only [putArgs, ne_eq, hlen, not_false_eq_true, if_true]
    exact .rejected _

end

inductive Op where
  | putInt (value : Int32)
  | putUint (value : UInt32)
  | putFixed (value : Fixed)
  | putString (text : String)
  | putArray (bytes : Bytes)
  | putCount (count : Nat)
  | pushFd (d : Descriptor)
  /-- A value by its type, which is one of the types of the wire. -/
  | put (ty : ArgType) (value : ty.Carrier)
  | putArg (arg : Arg)
  | putArgs (sig : Signature) (args : List Arg)

namespace Op

/-- The descriptors that are handed over with an operation. -/
def given : Op → List Descriptor
  | .pushFd d => [d]
  | .put _ value => WireValue.owned value
  | .putArg arg => arg.descriptors
  | .putArgs _ args => Arg.descriptorsAll args
  | _ => []

def run (b : Builder) : Op → Writing
  | .putInt value => .done () (b.putInt value)
  | .putUint value => .done () (b.putUint value)
  | .putFixed value => .done () (b.putFixed value)
  | .putString text => b.putString text
  | .putArray bytes => b.putArray bytes
  | .putCount count => b.putCount count
  | .pushFd d => .done () (b.pushFd d)
  | .put _ value => b.put value
  | .putArg arg => b.putArg arg
  | .putArgs sig args => b.putArgs sig args

theorem atomic_run (b : Builder) (op : Op) : b.Atomic op.given (op.run b) := by
  cases op with
  | putInt value => exact atomic_putUint b _
  | putUint value => exact atomic_putUint b value
  | putFixed value => exact atomic_putUint b _
  | putString text => exact atomic_putField b _
  | putArray bytes => exact atomic_putField b bytes
  | putCount count => exact atomic_putLen b count
  | pushFd d =>
    rw [run, pushFd_eq_extend]
    exact .accepted []
  | put ty value =>
    have harg : b.Atomic (WireValue.toArg value).descriptors (b.putArg (WireValue.toArg value)) :=
      atomic_append (grows_encodeArg _ b)
    rw [WireValue.descriptors_toArg, ← WireValue.put_eq_putArg] at harg
    exact harg
  | putArg arg => exact atomic_append (grows_encodeArg arg b)
  | putArgs sig args => exact atomic_putArgs sig args b

end Op

end Builder

end FramedWire
