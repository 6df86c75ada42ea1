import FramedWire.Proofs.Template
import Mathlib.Algebra.Group.Nat.Defs

/-!
# What writing an argument appends

The template of an argument, and the condition under which it can be written: every length and
every count in it fits into a word. `Builder.write_of_fits` and
`Builder.result_write_of_not_fits` say what a write does in either case, and
`Builder.putArgs_of_fits` and `Builder.result_putArgs_eq_ok_iff` say the same of whole argument
lists.
-/
namespace FramedWire

theorem Step.exists_of_result {σ ε α : Type} {step : Step σ ε α} {result : Except ε α}
    (h : step.result = result) : ∃ s closed, step = ⟨result, s, closed⟩ := by
  subst h
  exact ⟨step.state, step.closed, rfl⟩

namespace Arg

/-- Induction over an argument and all items in it. -/
@[elab_as_elim]
theorem inductionOn {motive : Arg → Prop} (int : ∀ v, motive (.int v))
    (uint : ∀ v, motive (.uint v)) (fixed : ∀ v, motive (.fixed v))
    (string : ∀ v, motive (.string v)) (array : ∀ v, motive (.array v))
    (newId : ∀ v, motive (.newId v)) (fd : ∀ d, motive (.fd d))
    (sequence : ∀ items, (∀ item ∈ items, motive item) → motive (.sequence items))
    (arg : Arg) : motive arg := by
  refine @Arg.rec motive (fun items => ∀ item ∈ items, motive item)
    int uint fixed string array newId fd sequence ?_ ?_ arg
  · intro item hitem
    cases hitem
  · intro item items hitem hitems other hother
    rcases List.mem_cons.mp hother with rfl | hother
    · exact hitem
    · exact hitems other hother

mutual

/-- What an argument looks like on the wire. Descriptors do not travel in the payload. -/
def template (order : ByteOrder) : Arg → Template
  | .int v => .fixed (order.encode v.toUInt32)
  | .uint v => .fixed (order.encode v)
  | .fixed v => .fixed (order.encode v.bits.toUInt32)
  | .string v => .field order (Text.utf8 v ++ [0])
  | .array v => .field order v
  | .newId v => .field order (Text.utf8 v.interface ++ [0]) ++ .fixed (order.encode v.version)
  | .fd _ => []
  | .sequence items =>
    .fixed (order.encode (UInt32.ofNat items.length)) ++ templateAll order items

def templateAll (order : ByteOrder) : List Arg → Template
  | [] => []
  | item :: items => item.template order ++ templateAll order items

end

mutual

/-- Every length and count in an argument fits into a word. -/
def Fits : Arg → Prop
  | .string v => (Text.utf8 v).length + 1 < 2 ^ 32
  | .array v => v.length < 2 ^ 32
  | .newId v => (Text.utf8 v.interface).length + 1 < 2 ^ 32
  | .sequence items => items.length < 2 ^ 32 ∧ AllFit items
  | _ => True

def AllFit : List Arg → Prop
  | [] => True
  | item :: items => item.Fits ∧ AllFit items

end

theorem templateAll_eq_flatMap (order : ByteOrder) (items : List Arg) :
    templateAll order items = items.flatMap (template order) := by
  induction items with
  | nil => rfl
  | cons item items ih => rw [templateAll, ih, List.flatMap_cons]

theorem allFit_iff (items : List Arg) : AllFit items ↔ ∀ item ∈ items, item.Fits := by
  induction items with
  | nil => simp [AllFit]
  | cons item items ih => rw [AllFit, ih, List.forall_mem_cons]

end Arg

/-- One argument per entry, and each conforms to its entry. -/
def Signature.Accepts (sig : Signature) (args : List Arg) : Prop :=
  List.Forall₂ (fun ty arg => arg.conformsTo ty = true) sig args

namespace Builder

/-- The builder after `bs` and `ds` were appended. -/
def extend (b : Builder) (bs : Bytes) (ds : List Descriptor) : Builder :=
  { b with payload := b.payload ++ bs, queue := b.queue ++ ds }

@[simp] theorem order_extend (b : Builder) (bs : Bytes) (ds : List Descriptor) :
    (b.extend bs ds).order = b.order := rfl

@[simp] theorem payload_extend (b : Builder) (bs : Bytes) (ds : List Descriptor) :
    (b.extend bs ds).payload = b.payload ++ bs := rfl

@[simp] theorem queue_extend (b : Builder) (bs : Bytes) (ds : List Descriptor) :
    (b.extend bs ds).queue = b.queue ++ ds := rfl

@[simp] theorem extend_nil (b : Builder) : b.extend [] [] = b := by simp [extend]

@[simp] theorem extend_extend (b : Builder) (bs cs : Bytes) (ds es : List Descriptor) :
    (b.extend bs ds).extend cs es = b.extend (bs ++ cs) (ds ++ es) := by
  simp [extend]

theorem putBytes_eq_extend (b : Builder) (bs : Bytes) : b.putBytes bs = b.extend bs [] := by
  simp [putBytes, extend]

theorem pushFd_eq_extend (b : Builder) (d : Descriptor) : b.pushFd d = b.extend [] [d] := by
  simp [pushFd, extend]

theorem putUint_eq_extend (b : Builder) (v : UInt32) :
    b.putUint v = b.extend (b.order.encode v) [] := putBytes_eq_extend b _

theorem putLen_of_lt (b : Builder) {len : Nat} (h : len < 2 ^ 32) :
    b.putLen len = .done () (b.extend (b.order.encode (UInt32.ofNat len)) []) := by
  have hfits : len < UInt32.size := h
  rw [putLen, if_pos hfits, putUint_eq_extend]

theorem putLen_of_le (b : Builder) {len : Nat} (h : 2 ^ 32 ≤ len) :
    b.putLen len = .fail (.lengthOverflow len) b := by
  have hlarge : ¬ len < UInt32.size := Nat.not_lt.mpr h
  rw [putLen, if_neg hlarge]

theorem putField_of_lt (b : Builder) {field : Bytes} (h : field.length < 2 ^ 32) :
    b.putField field = .done () (b.extend (Template.field b.order field).zeroed []) := by
  simp [putField, putLen_of_lt b h, Step.done, putBytes_eq_extend, Template.field]

theorem putField_of_le (b : Builder) {field : Bytes} (h : 2 ^ 32 ≤ field.length) :
    b.putField field = .fail (.lengthOverflow field.length) b := by
  simp [putField, putLen_of_le b h, Step.fail]

theorem writeAll_of_forall {items : List Arg}
    (h : ∀ item ∈ items, ∀ b : Builder,
      write item b = .done () (b.extend (item.template b.order).zeroed item.descriptors))
    (b : Builder) :
    writeAll items b =
      .done () (b.extend (Arg.templateAll b.order items).zeroed (Arg.descriptorsAll items)) := by
  induction items generalizing b with
  | nil => simp [writeAll, Arg.templateAll, Arg.descriptorsAll]
  | cons item items ih =>
    have hitem := h item List.mem_cons_self b
    have hitems := ih fun other hother => h other (List.mem_cons_of_mem item hother)
    simp [writeAll, hitem, Step.done, hitems, Step.closing, Arg.templateAll, Arg.descriptorsAll]

/-- An argument that fits is written: its template with zeros, and its descriptors. -/
theorem write_of_fits {arg : Arg} (h : arg.Fits) (b : Builder) :
    write arg b = .done () (b.extend (arg.template b.order).zeroed arg.descriptors) := by
  induction arg using Arg.inductionOn generalizing b with
  | int v => simp [write, putInt, putUint_eq_extend, Arg.template, Arg.descriptors]
  | uint v => simp [write, putUint_eq_extend, Arg.template, Arg.descriptors]
  | fixed v => simp [write, putFixed, putInt, putUint_eq_extend, Arg.template, Arg.descriptors]
  | string v =>
    have hlen : (Text.utf8 v ++ [0]).length < 2 ^ 32 := by simpa [Arg.Fits] using h
    simp only [write, putString, putField_of_lt b hlen, Arg.template, Arg.descriptors]
  | array v => simp only [write, putArray, putField_of_lt b h, Arg.template, Arg.descriptors]
  | newId v =>
    have hlen : (Text.utf8 v.interface ++ [0]).length < 2 ^ 32 := by simpa [Arg.Fits] using h
    simp [write, putNewId, putString, putField_of_lt b hlen, Step.done, putUint_eq_extend,
      Arg.template, Arg.descriptors]
  | fd d => simp [write, pushFd_eq_extend, Arg.template, Arg.descriptors]
  | sequence items ih =>
    obtain ⟨hcount, hitems⟩ := h
    have hall := writeAll_of_forall fun item hitem =>
      ih item hitem ((Arg.allFit_iff items).mp hitems item hitem)
    simp [write, putCount, putLen_of_lt b hcount, Step.done, hall, Arg.template, Arg.descriptors]

/-- The first item that cannot be written makes the others fail with it. -/
theorem result_writeAll_of_exists {items : List Arg}
    (h : ∀ item ∈ items, ¬ item.Fits → ∀ b : Builder,
      ∃ n, 2 ^ 32 ≤ n ∧ (write item b).result = .error (.lengthOverflow n))
    (hitems : ¬ Arg.AllFit items) (b : Builder) :
    ∃ n, 2 ^ 32 ≤ n ∧ (writeAll items b).result = .error (.lengthOverflow n) := by
  induction items generalizing b with
  | nil => exact absurd trivial hitems
  | cons item items ih =>
    by_cases hitem : item.Fits
    · have hrest : ¬ Arg.AllFit items := fun hfit => hitems ⟨hitem, hfit⟩
      have hwrite := write_of_fits hitem b
      obtain ⟨n, hn, hresult⟩ := ih (fun other hother => h other (List.mem_cons_of_mem item hother))
        hrest (b.extend (item.template b.order).zeroed item.descriptors)
      refine ⟨n, hn, ?_⟩
      simp only [writeAll, hwrite, Step.done, Step.closing]
      exact hresult
    · obtain ⟨n, hn, hresult⟩ := h item List.mem_cons_self hitem b
      obtain ⟨s, closed, hstep⟩ := Step.exists_of_result hresult
      refine ⟨n, hn, ?_⟩
      simp only [writeAll, hstep]

theorem result_write_of_not_fits {arg : Arg} (h : ¬ arg.Fits) (b : Builder) :
    ∃ n, 2 ^ 32 ≤ n ∧ (write arg b).result = .error (.lengthOverflow n) := by
  induction arg using Arg.inductionOn generalizing b with
  | int v => exact absurd trivial h
  | uint v => exact absurd trivial h
  | fixed v => exact absurd trivial h
  | fd d => exact absurd trivial h
  | string v =>
    have hlen : 2 ^ 32 ≤ (Text.utf8 v ++ [0]).length := by simpa [Arg.Fits] using h
    refine ⟨_, hlen, ?_⟩
    rw [write, putString, putField_of_le b hlen, Step.result_fail]
  | array v =>
    have hlen : 2 ^ 32 ≤ v.length := by simpa [Arg.Fits] using h
    refine ⟨_, hlen, ?_⟩
    rw [write, putArray, putField_of_le b hlen, Step.result_fail]
  | newId v =>
    have hlen : 2 ^ 32 ≤ (Text.utf8 v.interface ++ [0]).length := by simpa [Arg.Fits] using h
    refine ⟨_, hlen, ?_⟩
    simp only [write, putNewId, putString, putField_of_le b hlen, Step.fail]
  | sequence items ih =>
    by_cases hcount : items.length < 2 ^ 32
    · have hitems : ¬ Arg.AllFit items := fun hfit => h ⟨hcount, hfit⟩
      obtain ⟨n, hn, hresult⟩ := result_writeAll_of_exists ih hitems
        (b.extend (b.order.encode (UInt32.ofNat items.length)) [])
      refine ⟨n, hn, ?_⟩
      simp only [write, putCount, putLen_of_lt b hcount, Step.done]
      exact hresult
    · refine ⟨_, Nat.not_lt.mp hcount, ?_⟩
      simp only [write, putCount, putLen_of_le b (Nat.not_lt.mp hcount), Step.fail]

theorem result_write_eq_ok_iff {arg : Arg} (b : Builder) :
    (write arg b).result = .ok () ↔ arg.Fits := by
  constructor
  · intro hok
    by_contra hfit
    obtain ⟨n, _, herror⟩ := result_write_of_not_fits hfit b
    rw [herror] at hok
    cases hok
  · intro hfit
    rw [write_of_fits hfit, Step.result_done]

theorem append_of_done {b b' : Builder} {write : Builder → Writing}
    (h : write b = .done () b') : b.append write = .done () b' := by
  simp [append, h, Step.done]

theorem result_append_of_error {b : Builder} {write : Builder → Writing} {e : CodecError}
    (h : (write b).result = .error e) : (b.append write).result = .error e := by
  obtain ⟨s, closed, hstep⟩ := Step.exists_of_result h
  simp only [append, hstep]

theorem firstMismatch?_eq_none_iff {sig : Signature} {args : List Arg}
    (hlen : sig.length = args.length) : firstMismatch? sig args = none ↔ sig.Accepts args := by
  induction sig generalizing args with
  | nil =>
    have hargs : args = [] := List.eq_nil_of_length_eq_zero hlen.symm
    subst hargs
    exact ⟨fun _ => .nil, fun _ => rfl⟩
  | cons ty sig ih =>
    cases args with
    | nil => cases hlen
    | cons arg args =>
      rw [firstMismatch?, Signature.Accepts, List.forall₂_cons]
      by_cases hconf : arg.conformsTo ty = true
      · rw [if_pos hconf, ih (Nat.succ.inj hlen)]
        exact ⟨fun h => ⟨hconf, h⟩, fun h => h.2⟩
      · rw [if_neg hconf]
        exact ⟨fun h => (nomatch h), fun h => absurd h.1 hconf⟩

theorem encodeAllAs_of_fits {sig : Signature} {args : List Arg} (h : sig.Accepts args)
    (hfit : Arg.AllFit args) (b : Builder) :
    encodeAllAs sig args b =
      .done () (b.extend (Arg.templateAll b.order args).zeroed (Arg.descriptorsAll args)) := by
  induction h generalizing b with
  | nil => simp [encodeAllAs, Arg.templateAll, Arg.descriptorsAll, Step.done]
  | @cons ty arg sig args hconf _ ih =>
    have hwrite := write_of_fits hfit.1 b
    have hrest := ih hfit.2 (b.extend (arg.template b.order).zeroed arg.descriptors)
    simp [encodeAllAs, encodeAs, hconf, hwrite, Step.done, hrest, Step.closing, Arg.templateAll,
      Arg.descriptorsAll]

theorem result_encodeAllAs_of_not_fits {sig : Signature} {args : List Arg} (h : sig.Accepts args)
    (hfit : ¬ Arg.AllFit args) (b : Builder) :
    ∃ n, 2 ^ 32 ≤ n ∧ (encodeAllAs sig args b).result = .error (.lengthOverflow n) := by
  induction h generalizing b with
  | nil => exact absurd trivial hfit
  | @cons ty arg sig args hconf _ ih =>
    by_cases harg : arg.Fits
    · have hrest : ¬ Arg.AllFit args := fun hargs => hfit ⟨harg, hargs⟩
      obtain ⟨n, hn, hresult⟩ := ih hrest (b.extend (arg.template b.order).zeroed arg.descriptors)
      refine ⟨n, hn, ?_⟩
      simp only [encodeAllAs, encodeAs, hconf, if_true, write_of_fits harg, Step.done, Step.closing]
      exact hresult
    · obtain ⟨n, hn, hresult⟩ := result_write_of_not_fits harg b
      obtain ⟨s, closed, hstep⟩ := Step.exists_of_result hresult
      refine ⟨n, hn, ?_⟩
      simp only [encodeAllAs, encodeAs, hconf, if_true, hstep]

theorem putArgs_of_fits {sig : Signature} {args : List Arg} (h : sig.Accepts args)
    (hfit : Arg.AllFit args) (b : Builder) :
    b.putArgs sig args =
      .done () (b.extend (Arg.templateAll b.order args).zeroed (Arg.descriptorsAll args)) := by
  have hlen : sig.length = args.length := List.Forall₂.length_eq h
  have hnone := (firstMismatch?_eq_none_iff hlen).mpr h
  simp only [putArgs, hlen, ne_eq, not_true_eq_false, if_false, hnone]
  exact append_of_done (encodeAllAs_of_fits h hfit b)

theorem result_putArgs_of_not_accepts {sig : Signature} {args : List Arg}
    (h : ¬ sig.Accepts args) (b : Builder) :
    ∃ e, (b.putArgs sig args).result = .error e ∧ e.isTypeContract = true := by
  by_cases hlen : sig.length = args.length
  · rcases hmis : firstMismatch? sig args with _ | ⟨ty, arg⟩
    · exact absurd ((firstMismatch?_eq_none_iff hlen).mp hmis) h
    · simp only [putArgs, hlen, ne_eq, not_true_eq_false, if_false, hmis]
      exact ⟨_, rfl, rfl⟩
  · simp only [putArgs, ne_eq, hlen, not_false_eq_true, if_true]
    exact ⟨_, rfl, rfl⟩

/-- Arguments that suit the signature can only be too long. -/
theorem result_putArgs_of_not_fits {sig : Signature} {args : List Arg} (h : sig.Accepts args)
    (hfit : ¬ Arg.AllFit args) (b : Builder) :
    ∃ n, 2 ^ 32 ≤ n ∧ (b.putArgs sig args).result = .error (.lengthOverflow n) := by
  have hlen : sig.length = args.length := List.Forall₂.length_eq h
  have hnone := (firstMismatch?_eq_none_iff hlen).mpr h
  obtain ⟨n, hn, herror⟩ := result_encodeAllAs_of_not_fits h hfit b
  refine ⟨n, hn, ?_⟩
  simp only [putArgs, hlen, ne_eq, not_true_eq_false, if_false, hnone]
  exact result_append_of_error herror

/-- Arguments are written exactly if they suit the signature and fit. -/
theorem result_putArgs_eq_ok_iff {sig : Signature} {args : List Arg} (b : Builder) :
    (b.putArgs sig args).result = .ok () ↔ sig.Accepts args ∧ Arg.AllFit args := by
  constructor
  · intro hok
    have hacc : sig.Accepts args := by
      by_contra hacc
      obtain ⟨e, herror, -⟩ := result_putArgs_of_not_accepts hacc b
      cases herror.symm.trans hok
    refine ⟨hacc, ?_⟩
    by_contra hfit
    obtain ⟨n, -, herror⟩ := result_putArgs_of_not_fits hacc hfit b
    cases herror.symm.trans hok
  · intro h
    obtain ⟨hacc, hfit⟩ := h
    rw [putArgs_of_fits hacc hfit, Step.result_done]

end Builder

end FramedWire
