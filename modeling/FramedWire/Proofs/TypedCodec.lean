import FramedWire.Proofs.Shapes
import FramedWire.Typed

/-!
# Typed and tagged arguments

An argument can be read and written by its type, which is fixed in advance, or by a tag that is
known only at run time. `WireValue.typed_eq_tagged` says that this makes no difference: the two
ways give the same values and the same errors, and leave the same message and the same builder.
-/
namespace FramedWire

namespace Step

variable {σ ε α β γ : Type}

theorem map_map (f : α → β) (g : β → γ) (step : Step σ ε α) :
    (step.map f).map g = step.map (g ∘ f) := by
  rcases step with ⟨_ | a, s, ds⟩ <;> rfl

end Step

namespace Message

variable {α β : Type} {item : Message → Reading α} {item' : Message → Reading β}
  {owned : α → List Descriptor} {owned' : β → List Descriptor} {f : α → β}

theorem map_readMany (hitem : ∀ m, (item m).map f = item' m) (howned : ∀ a, owned' (f a) = owned a)
    (count : Nat) (m : Message) :
    (readMany item owned count m).map (List.map f) = readMany item' owned' count m := by
  induction count generalizing m with
  | zero => rfl
  | succ count ih =>
    have hfirst := hitem m
    rcases hread : item m with ⟨e | a, m₁, ds₁⟩
    · rw [hread] at hfirst
      simp only [readMany, hread, ← hfirst]
      rfl
    · have hrest := ih m₁
      rw [hread] at hfirst
      rcases hreads : readMany item owned count m₁ with ⟨e | as, m₂, ds₂⟩
      · rw [hreads] at hrest
        simp only [readMany, hread, hreads, ← hfirst, ← hrest, Step.map, Except.map, howned]
      · rw [hreads] at hrest
        simp only [readMany, hread, hreads, ← hfirst, ← hrest, Step.map, Except.map, List.map_cons]

end Message

namespace WireValue

variable {ty : ArgType}

theorem wireType_carrier (ty : ArgType) : wireType ty.Carrier = ty := by
  induction ty with
  | sequence element ih => exact congrArg ArgType.sequence ih
  | _ => rfl

theorem conformsTo_toArg (v : ty.Carrier) : (toArg v).conformsTo ty = true := by
  induction ty with
  | sequence element ih =>
    change (Arg.sequence (v.map toArg)).conformsTo (.sequence element) = true
    rw [Arg.conformsTo, Arg.allConformTo_eq_all, List.all_map, List.all_eq_true]
    intro item _
    exact ih item
  | _ => rfl

theorem descriptors_toArg (v : ty.Carrier) : (toArg v).descriptors = owned v := by
  induction ty with
  | sequence element ih =>
    change Arg.descriptorsAll (v.map toArg) = v.flatMap owned
    rw [Arg.descriptorsAll_eq_flatMap, List.flatMap_map]
    exact List.flatMap_congr fun item _ => ih item
  | _ => rfl

/-- The embedding loses nothing. -/
theorem ofArg?_toArg (v : ty.Carrier) : ofArg? ty (toArg v) = some v := by
  induction ty with
  | sequence element ih =>
    change (v.map toArg).mapM (ofArg? element) = some v
    have hitem : ofArg? element ∘ toArg = fun item : element.Carrier => pure (id item) :=
      funext ih
    rw [List.mapM_map, hitem, List.mapM_pure, List.map_id]
    rfl
  | _ => rfl

/-- Reading a value by its type is reading an argument by the tag. -/
theorem map_decode (ty : ArgType) (m : Message) :
    (m.decode ty.Carrier).map toArg = m.decodeArg ty := by
  induction ty generalizing m with
  | sequence element ih =>
    change (decodeList m : Reading (List element.Carrier)).map
        (fun vs => Arg.sequence (vs.map toArg)) =
      Message.decodeArg (.sequence element) m
    rcases hcount : m.readUint with ⟨e | count, m₁, ds₁⟩
    · simp only [decodeList, Message.decodeArg, hcount]
      rfl
    · have hitems := Message.map_readMany ih descriptors_toArg count.toNat m₁
      simp only [decodeList, Message.decodeArg, hcount, ← hitems, Step.map_map]
      rfl
  | _ => rfl

theorem encodeItems_eq_writeAll {α : Type} [WireValue α]
    (hencode : ∀ (v : α) (b : Builder), encode v b = Builder.write (toArg v) b)
    (howned : ∀ v : α, (toArg v).descriptors = owned v) (vs : List α) (b : Builder) :
    encodeItems vs b = Builder.writeAll (vs.map toArg) b := by
  induction vs generalizing b with
  | nil => rfl
  | cons v vs ih =>
    have hreleased : Arg.descriptorsAll (vs.map toArg) = vs.flatMap owned := by
      rw [Arg.descriptorsAll_eq_flatMap, List.flatMap_map]
      exact List.flatMap_congr fun item _ => howned item
    rw [List.map_cons]
    rcases hwrite : Builder.write (toArg v) b with ⟨e | _, b₁, ds₁⟩
    · simp only [encodeItems, Builder.writeAll, hencode, hwrite, hreleased]
    · simp only [encodeItems, Builder.writeAll, hencode, hwrite, ih]

theorem encode_eq_write (v : ty.Carrier) (b : Builder) :
    encode v b = Builder.write (toArg v) b := by
  induction ty generalizing b with
  | sequence element ih =>
    change encodeList v b = Builder.write (.sequence (v.map toArg)) b
    have hitems := encodeItems_eq_writeAll ih descriptors_toArg v
    have hreleased : Arg.descriptorsAll (v.map toArg) = v.flatMap owned :=
      @descriptors_toArg (.sequence element) v
    rcases hcount : b.putCount v.length with ⟨e | _, b₁, ds₁⟩
    · simp only [encodeList, Builder.write, List.length_map, hcount, hreleased]
    · simp only [encodeList, Builder.write, List.length_map, hcount, hitems]
  | _ => rfl

theorem put_eq_putArg (b : Builder) (v : ty.Carrier) : b.put v = b.putArg (toArg v) := by
  have hwrite : encode v = Builder.encodeArg (toArg v) := by
    funext b'
    rw [encode_eq_write, Builder.encodeArg_of_conformsTo (conformsTo_toArg v)]
  rw [Builder.put, Builder.putArg, hwrite]

/-- The only fault an embedded value can have is a length that no word can hold. -/
theorem exists_lengthOverflow_of_putArg {b : Builder} {v : ty.Carrier} {e : CodecError}
    (h : (b.putArg (toArg v)).result = .error e) : ∃ n, 2 ^ 32 ≤ n ∧ e = .lengthOverflow n := by
  have hencode := Builder.encodeArg_of_conformsTo (conformsTo_toArg v) b
  by_cases hfit : (toArg v).Fits
  · have hdone := Builder.append_of_done (hencode.trans (Builder.write_of_fits hfit b))
    rw [Builder.putArg, hdone, Step.result_done] at h
    cases h
  · obtain ⟨n, hn, hwrite⟩ := Builder.result_write_of_not_fits hfit b
    rw [← hencode] at hwrite
    rw [Builder.putArg, Builder.result_append_of_error hwrite] at h
    cases h
    exact ⟨n, hn, rfl⟩

/-- For each type of the wire, however deep its lists are nested, the typed and the tagged way
are the same. Reading gives the same value, embedded in an argument, or the same error, and
leaves the same message with the same descriptors closed. Writing gives the same result and
leaves the same builder, so an embedded value never violates the type contract. The embedding
can be undone. -/
theorem typed_eq_tagged (ty : ArgType) :
    (∀ m : Message, (m.decode ty.Carrier).map toArg = m.decodeArg (wireType ty.Carrier)) ∧
      (∀ (b : Builder) (v : ty.Carrier), b.put v = b.putArg (toArg v)) ∧
      (∀ (b : Builder) (v : ty.Carrier) (expected found : String),
        (b.putArg (toArg v)).result ≠ .error (.typeContract expected found)) ∧
      ∀ v : ty.Carrier, ofArg? ty (toArg v) = some v := by
  refine ⟨?_, put_eq_putArg, ?_, ofArg?_toArg⟩
  · intro m
    rw [wireType_carrier]
    exact map_decode ty m
  · intro b v expected found hcontract
    obtain ⟨n, -, hlength⟩ := exists_lengthOverflow_of_putArg hcontract
    cases hlength

end WireValue

end FramedWire
