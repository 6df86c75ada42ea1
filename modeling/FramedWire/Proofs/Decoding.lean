import FramedWire.Proofs.Encoding

/-!
# What reading an argument accepts

A read succeeds exactly if the payload begins with what the template of the value admits and
the queue begins with its descriptors, and it leaves what follows them. There is one such
equivalence for every read, up to `Message.decodeArgs_eq_iff` for whole argument lists.

A step that succeeds has closed nothing. That is part of the equivalences, because the reads
inside a sequence pass on what was closed before them.
-/
namespace FramedWire

namespace Step

variable {σ ε α β : Type}

theorem map_eq_ok_iff {f : α → β} {step : Step σ ε α} {b : β} {s : σ} {ds : List Descriptor} :
    step.map f = ⟨.ok b, s, ds⟩ ↔ ∃ a, step = ⟨.ok a, s, ds⟩ ∧ f a = b := by
  rcases step with ⟨_ | a, s', ds'⟩
  · simp [map, Except.map]
  · simp only [map, Except.map, mk.injEq, Except.ok.injEq]
    constructor
    · intro h
      obtain ⟨rfl, rfl, rfl⟩ := h
      exact ⟨a, ⟨rfl, rfl, rfl⟩, rfl⟩
    · intro h
      obtain ⟨_, ⟨rfl, rfl, rfl⟩, rfl⟩ := h
      exact ⟨rfl, rfl, rfl⟩

theorem done_eq_ok_iff {a b : α} {s s' : σ} {ds : List Descriptor} :
    (done a s : Step σ ε α) = ⟨.ok b, s', ds⟩ ↔ a = b ∧ s = s' ∧ ds = [] := by
  simp only [done, mk.injEq, Except.ok.injEq, eq_comm (a := ([] : List Descriptor))]

end Step

namespace Message

/-- `m` begins with what `t` admits and with the descriptors `ds`, and the result is `m` with
both taken off. -/
inductive Begins (m : Message) (t : Template) (ds : List Descriptor) : Message → Prop
  | intro (bs rest : Bytes) (queue : List Descriptor) (admits : t.Admits bs)
      (payload_eq : m.payload = bs ++ rest) (queue_eq : m.queue = ds ++ queue) :
      Begins m t ds
        { m with payload := rest, queue := queue, handedOut := m.handedOut + ds.length }

variable {m m' : Message} {t u : Template} {ds es : List Descriptor}

theorem Begins.order_eq (h : m.Begins t ds m') : m'.order = m.order := by
  cases h
  rfl

theorem begins_nil_iff : m.Begins [] [] m' ↔ m' = m := by
  constructor
  · intro h
    obtain ⟨bs, rest, queue, hbs, hpayload, hqueue⟩ := h
    rw [Template.admits_nil_iff.mp hbs, List.nil_append] at hpayload
    rw [List.nil_append] at hqueue
    rw [← hpayload, ← hqueue, List.length_nil, Nat.add_zero]
  · intro h
    obtain rfl := h
    exact .intro [] m'.payload m'.queue .nil rfl rfl

theorem begins_append_iff :
    m.Begins (t ++ u) (ds ++ es) m' ↔ ∃ m₁, m.Begins t ds m₁ ∧ m₁.Begins u es m' := by
  constructor
  · intro h
    obtain ⟨bs, rest, queue, hbs, hpayload, hqueue⟩ := h
    obtain ⟨cs, cs', rfl, hcs, hcs'⟩ := Template.admits_append_iff.mp hbs
    rw [List.append_assoc] at hpayload hqueue
    refine ⟨_, .intro cs (cs' ++ rest) (es ++ queue) hcs hpayload hqueue, ?_⟩
    rw [List.length_append, ← Nat.add_assoc]
    exact .intro cs' rest queue hcs' rfl rfl
  · intro h
    obtain ⟨m₁, ⟨bs, rest, queue, hbs, hpayload, hqueue⟩,
      ⟨cs, rest', queue', hcs, hpayload', hqueue'⟩⟩ := h
    simp only at hpayload' hqueue'
    subst hpayload' hqueue'
    rw [← List.append_assoc] at hpayload hqueue
    rw [Nat.add_assoc, ← List.length_append]
    exact .intro (bs ++ cs) rest' queue' (hbs.append hcs) hpayload hqueue

theorem begins_append_nil_iff :
    m.Begins (t ++ u) [] m' ↔ ∃ m₁, m.Begins t [] m₁ ∧ m₁.Begins u [] m' :=
  @begins_append_iff m m' t u [] []

theorem readUint_eq_iff {w : UInt32} :
    m.readUint = ⟨.ok w, m', ds⟩ ↔ m.Begins (.fixed (m.order.encode w)) [] m' ∧ ds = [] := by
  constructor
  · intro h
    unfold readUint at h
    split at h
    · rename_i a b c d rest hpayload
      obtain ⟨rfl, rfl, rfl⟩ := Step.done_eq_ok_iff.mp h
      refine ⟨.intro [a, b, c, d] rest m.queue ?_ hpayload rfl, rfl⟩
      rw [ByteOrder.encode_decode m.order rfl]
      exact Template.admits_fixed_iff.mpr rfl
    · cases h
  · intro h
    obtain ⟨⟨bs, rest, queue, hbs, hpayload, hqueue⟩, rfl⟩ := h
    have hword := Template.admits_fixed_iff.mp hbs
    have hlen : bs.length = 4 := by rw [hword, ByteOrder.length_encode]
    obtain ⟨a, b, c, d, rfl⟩ : ∃ a b c d, bs = [a, b, c, d] := by
      match bs, hlen with
      | [a, b, c, d], _ => exact ⟨a, b, c, d, rfl⟩
    have hdecode : m.order.decode [a, b, c, d] = w := by rw [hword, ByteOrder.decode_encode]
    rw [List.nil_append] at hqueue
    simp only [readUint, hpayload, List.cons_append, List.nil_append, hdecode,
      Step.done_eq_ok_iff, List.length_nil, Nat.add_zero, ← hqueue, and_self]

theorem readInt_eq_iff {v : Int32} :
    m.readInt = ⟨.ok v, m', ds⟩ ↔
      m.Begins (.fixed (m.order.encode v.toUInt32)) [] m' ∧ ds = [] := by
  rw [readInt, Step.map_eq_ok_iff]
  constructor
  · intro h
    obtain ⟨w, h, rfl⟩ := h
    rw [UInt32.toUInt32_toInt32]
    exact readUint_eq_iff.mp h
  · intro h
    exact ⟨v.toUInt32, readUint_eq_iff.mpr h, Int32.toInt32_toUInt32 v⟩

theorem readFixed_eq_iff {v : Fixed} :
    m.readFixed = ⟨.ok v, m', ds⟩ ↔
      m.Begins (.fixed (m.order.encode v.bits.toUInt32)) [] m' ∧ ds = [] := by
  rw [readFixed, Step.map_eq_ok_iff]
  constructor
  · intro h
    obtain ⟨bits, h, rfl⟩ := h
    exact readInt_eq_iff.mp h
  · intro h
    exact ⟨v.bits, readInt_eq_iff.mpr h, rfl⟩

theorem takeFd_eq_iff {d : Descriptor} :
    m.takeFd = ⟨.ok d, m', ds⟩ ↔ m.Begins [] [d] m' ∧ ds = [] := by
  constructor
  · intro h
    unfold takeFd at h
    split at h
    · cases h
    · rename_i e queue hqueue
      obtain ⟨rfl, rfl, rfl⟩ := Step.done_eq_ok_iff.mp h
      exact ⟨.intro [] m.payload queue .nil rfl hqueue, rfl⟩
  · intro h
    obtain ⟨⟨bs, rest, queue, hbs, hpayload, hqueue⟩, rfl⟩ := h
    rw [Template.admits_nil_iff.mp hbs, List.nil_append] at hpayload
    simp only [takeFd, hqueue, List.cons_append, List.nil_append, Step.done_eq_ok_iff, ← hpayload,
      List.length_singleton, and_self]

theorem splitPadded_eq_iff {len : Nat} {bs : Bytes} :
    m.splitPadded len = ⟨.ok bs, m', ds⟩ ↔
      bs.length = len ∧
        m.Begins (.fixed bs ++ .padding (Bytes.padding len)) [] m' ∧ ds = [] := by
  constructor
  · intro h
    simp only [splitPadded] at h
    split at h
    · cases h
    · rename_i hlen
      obtain ⟨rfl, rfl, rfl⟩ := Step.done_eq_ok_iff.mp h
      have htake : (m.payload.take len).length = len := by
        rw [List.length_take]
        omega
      refine ⟨htake, .intro (m.payload.take (len + Bytes.padding len)) _ m.queue ?_
        (List.take_append_drop _ _).symm rfl, rfl⟩
      rw [List.take_add]
      refine Template.Admits.append (Template.admits_fixed_iff.mpr rfl)
        (Template.admits_padding_iff.mpr ?_)
      rw [List.length_take, List.length_drop]
      omega
  · intro h
    obtain ⟨rfl, ⟨all, rest, queue, hall, hpayload, hqueue⟩, rfl⟩ := h
    obtain ⟨cs, pad, rfl, hcs, hpad⟩ := Template.admits_append_iff.mp hall
    obtain rfl := Template.admits_fixed_iff.mp hcs
    rw [Template.admits_padding_iff] at hpad
    rw [List.nil_append] at hqueue
    have hlen : ¬ m.payload.length < cs.length + Bytes.padding cs.length := by
      rw [hpayload, List.length_append, List.length_append, hpad]
      omega
    have hdrop : m.payload.drop (cs.length + Bytes.padding cs.length) = rest := by
      rw [hpayload, ← hpad, ← List.length_append, List.drop_left]
    have htake : m.payload.take cs.length = cs := by
      rw [hpayload, List.append_assoc, List.take_left]
    simp only [splitPadded, hlen, if_false, Step.done_eq_ok_iff, htake, hdrop, ← hqueue,
      List.length_nil, Nat.add_zero, and_self]

theorem toNat_ofNat_length {bs : Bytes} (h : bs.length < 2 ^ 32) :
    (UInt32.ofNat bs.length).toNat = bs.length := UInt32.toNat_ofNat_of_lt' h

/-- A field: the word of its length, so many bytes, and padding. -/
theorem begins_field_iff {bs : Bytes} (hlen : bs.length < 2 ^ 32) :
    m.Begins (.field m.order bs) [] m' ↔
      ∃ w m₁, m.readUint = ⟨.ok w, m₁, []⟩ ∧ m₁.splitPadded w.toNat = ⟨.ok bs, m', []⟩ := by
  rw [Template.field, begins_append_nil_iff]
  constructor
  · intro h
    obtain ⟨m₁, hword, hfield⟩ := h
    refine ⟨_, m₁, readUint_eq_iff.mpr ⟨hword, rfl⟩, splitPadded_eq_iff.mpr ?_⟩
    rw [toNat_ofNat_length hlen]
    exact ⟨rfl, hfield, rfl⟩
  · intro h
    obtain ⟨w, m₁, hword, hfield⟩ := h
    obtain ⟨hlength, hrest, _⟩ := splitPadded_eq_iff.mp hfield
    refine ⟨m₁, ?_, hlength ▸ hrest⟩
    rw [hlength, UInt32.ofNat_toNat]
    exact (readUint_eq_iff.mp hword).1

theorem readArray_eq_iff {bs : Bytes} :
    m.readArray = ⟨.ok bs, m', ds⟩ ↔
      bs.length < 2 ^ 32 ∧ m.Begins (.field m.order bs) [] m' ∧ ds = [] := by
  constructor
  · intro h
    rcases hword : m.readUint with ⟨e | w, m₁, ds₁⟩
    · simp only [readArray, hword] at h
      cases h
    · simp only [readArray, hword] at h
      obtain ⟨hlength, _, rfl⟩ := splitPadded_eq_iff.mp h
      obtain ⟨_, rfl⟩ := readUint_eq_iff.mp hword
      have hlt : bs.length < 2 ^ 32 := hlength ▸ w.toNat_lt
      exact ⟨hlt, (begins_field_iff hlt).mpr ⟨w, m₁, hword, h⟩, rfl⟩
  · intro h
    obtain ⟨hlt, hbegins, rfl⟩ := h
    obtain ⟨w, m₁, hword, hfield⟩ := (begins_field_iff hlt).mp hbegins
    simp only [readArray, hword, hfield]

/-- The last byte of a field is looked at in front of the padding. -/
theorem getElem?_of_splitPadded {len : Nat} {bs : Bytes} {i : Nat}
    (h : m.splitPadded len = ⟨.ok bs, m', ds⟩) (hi : i < len) :
    len ≤ m.payload.length ∧ m.payload[i]? = bs[i]? := by
  obtain ⟨rfl, ⟨all, rest, queue, hall, hpayload, -⟩, rfl⟩ := splitPadded_eq_iff.mp h
  obtain ⟨cs, pad, rfl, hcs, -⟩ := Template.admits_append_iff.mp hall
  obtain rfl := Template.admits_fixed_iff.mp hcs
  rw [hpayload, List.append_assoc]
  refine ⟨?_, List.getElem?_append_left hi⟩
  rw [List.length_append]
  omega

theorem readString_inv {text : String} (h : m.readString = ⟨.ok text, m', ds⟩) :
    ds = [] ∧ ∃ w m₁ field, m.readUint = ⟨.ok w, m₁, []⟩ ∧ w.toNat ≠ 0 ∧
      m₁.payload[w.toNat - 1]? = some 0 ∧ m₁.splitPadded w.toNat = ⟨.ok field, m', []⟩ ∧
      Text.ofUtf8? (field.take (w.toNat - 1)) = some text := by
  rcases hword : m.readUint with ⟨e | w, m₁, ds₁⟩
  · simp only [readString, hword] at h
    cases h
  · obtain ⟨_, rfl⟩ := readUint_eq_iff.mp hword
    simp only [readString, hword] at h
    split at h
    · cases h
    rename_i hzero
    split at h
    · cases h
    split at h
    · cases h
    rename_i hlast
    rcases hfield : m₁.splitPadded w.toNat with ⟨e | field, m₂, ds₂⟩
    · simp only [hfield] at h
      cases h
    · simp only [hfield] at h
      split at h
      · rename_i t htext
        obtain ⟨rfl, rfl, rfl⟩ := Step.done_eq_ok_iff.mp h
        obtain ⟨_, _, rfl⟩ := splitPadded_eq_iff.mp hfield
        exact ⟨rfl, w, m₁, field, rfl, hzero, not_not.mp hlast, hfield, htext⟩
      · cases h

theorem eq_take_append_zero {field : Bytes} {n : Nat} (hlen : field.length = n + 1)
    (hlast : field[n]? = some 0) : field = field.take n ++ [0] := by
  have hn : n < field.length := by omega
  have hget : field[n] = 0 := Option.some.inj ((List.getElem?_eq_getElem hn).symm.trans hlast)
  have hsucc := List.take_succ_eq_append_getElem hn
  rw [hget, ← hlen, List.take_length] at hsucc
  exact hsucc

theorem readString_eq_iff {text : String} :
    m.readString = ⟨.ok text, m', ds⟩ ↔
      (Text.utf8 text).length + 1 < 2 ^ 32 ∧
        m.Begins (.field m.order (Text.utf8 text ++ [0])) [] m' ∧ ds = [] := by
  constructor
  · intro h
    obtain ⟨rfl, w, m₁, field, hword, hzero, hlast, hfield, htext⟩ := readString_inv h
    have hlength := (splitPadded_eq_iff.mp hfield).1
    rw [(getElem?_of_splitPadded hfield (by omega)).2] at hlast
    have hutf8 := eq_take_append_zero (n := w.toNat - 1) (by omega) hlast
    rw [← Text.utf8_of_ofUtf8? htext] at hutf8
    have hlt : field.length < 2 ^ 32 := hlength ▸ w.toNat_lt
    refine ⟨?_, ?_, rfl⟩
    · rw [hutf8, List.length_append, List.length_singleton] at hlt
      exact hlt
    · rw [← hutf8]
      exact (begins_field_iff hlt).mpr ⟨w, m₁, hword, hfield⟩
  · intro h
    obtain ⟨hlt, hbegins, rfl⟩ := h
    have hlen : (Text.utf8 text ++ [0]).length < 2 ^ 32 := by
      rw [List.length_append, List.length_singleton]
      exact hlt
    obtain ⟨w, m₁, hword, hfield⟩ := (begins_field_iff hlen).mp hbegins
    have hw : w.toNat = (Text.utf8 text).length + 1 := by
      rw [← (splitPadded_eq_iff.mp hfield).1, List.length_append, List.length_singleton]
    have hpred : w.toNat - 1 = (Text.utf8 text).length := by omega
    have hnonzero : w.toNat ≠ 0 := by omega
    obtain ⟨hroom, hlast⟩ := getElem?_of_splitPadded (i := w.toNat - 1) hfield (by omega)
    rw [hpred, List.getElem?_concat_length] at hlast
    simp only [readString, hword, hnonzero, if_false, Nat.not_lt.mpr hroom, hpred, hlast, ne_eq,
      not_true_eq_false, hfield, List.take_left, Text.ofUtf8?_utf8, Step.done]

theorem readNewId_eq_iff {id : NewId} :
    m.readNewId = ⟨.ok id, m', ds⟩ ↔
      (Text.utf8 id.interface).length + 1 < 2 ^ 32 ∧
        m.Begins (.field m.order (Text.utf8 id.interface ++ [0]) ++
          .fixed (m.order.encode id.version)) [] m' ∧ ds = [] := by
  constructor
  · intro h
    rcases hname : m.readString with ⟨e | interface, m₁, ds₁⟩
    · simp only [readNewId, hname] at h
      cases h
    · simp only [readNewId, hname] at h
      obtain ⟨version, hversion, rfl⟩ := Step.map_eq_ok_iff.mp h
      obtain ⟨hlt, hbegins, -⟩ := readString_eq_iff.mp hname
      obtain ⟨hword, rfl⟩ := readUint_eq_iff.mp hversion
      rw [hbegins.order_eq] at hword
      exact ⟨hlt, begins_append_nil_iff.mpr ⟨m₁, hbegins, hword⟩, rfl⟩
  · intro h
    obtain ⟨hlt, hbegins, rfl⟩ := h
    obtain ⟨m₁, hname, hversion⟩ := begins_append_nil_iff.mp hbegins
    have hread := readString_eq_iff.mpr ⟨hlt, hname, rfl⟩
    rw [← hname.order_eq] at hversion
    simp only [readNewId, hread]
    exact Step.map_eq_ok_iff.mpr ⟨id.version, readUint_eq_iff.mpr ⟨hversion, rfl⟩, rfl⟩

/-- Items in a row, each of which is read as its template and descriptors say. -/
theorem readMany_eq_iff {α : Type} {item : Message → Reading α} {owned : α → List Descriptor}
    (valid : α → Prop) (shape : α → Template) (order : ByteOrder)
    (hitem : ∀ {m m' : Message} {a : α} {ds : List Descriptor}, m.order = order →
      (item m = ⟨.ok a, m', ds⟩ ↔ valid a ∧ m.Begins (shape a) (owned a) m' ∧ ds = []))
    {count : Nat} {as : List α} (horder : m.order = order) :
    readMany item owned count m = ⟨.ok as, m', ds⟩ ↔
      as.length = count ∧ (∀ a ∈ as, valid a) ∧
        m.Begins (as.flatMap shape) (as.flatMap owned) m' ∧ ds = [] := by
  induction count generalizing m as ds with
  | zero =>
    rw [readMany, Step.done_eq_ok_iff]
    constructor
    · intro h
      obtain ⟨rfl, rfl, rfl⟩ := h
      exact ⟨rfl, by simp, begins_nil_iff.mpr rfl, rfl⟩
    · intro h
      obtain ⟨hlen, -, hbegins, rfl⟩ := h
      obtain rfl := List.eq_nil_of_length_eq_zero hlen
      exact ⟨rfl, (begins_nil_iff.mp hbegins).symm, rfl⟩
  | succ count ih =>
    constructor
    · intro h
      rcases hfirst : item m with ⟨e | a, m₁, ds₁⟩
      · simp only [readMany, hfirst] at h
        cases h
      · obtain ⟨hvalid, hbegins, rfl⟩ := (hitem horder).mp hfirst
        rcases hrest : readMany item owned count m₁ with ⟨e | others, m₂, ds₂⟩
        · simp only [readMany, hfirst, hrest] at h
          cases h
        · simp only [readMany, hfirst, hrest] at h
          cases h
          obtain ⟨hlen, hothers, hbegins', rfl⟩ := (ih (hbegins.order_eq.trans horder)).mp hrest
          refine ⟨by rw [List.length_cons, hlen], ?_, ?_, rfl⟩
          · exact List.forall_mem_cons.mpr ⟨hvalid, hothers⟩
          · exact begins_append_iff.mpr ⟨m₁, hbegins, hbegins'⟩
    · intro h
      obtain ⟨hlen, hvalid, hbegins, rfl⟩ := h
      cases as with
      | nil => cases hlen
      | cons a others =>
        obtain ⟨m₁, hfirst, hrest⟩ := begins_append_iff.mp hbegins
        obtain ⟨ha, hothers⟩ := List.forall_mem_cons.mp hvalid
        have hread := (hitem horder).mpr ⟨ha, hfirst, rfl⟩
        have hreads := (ih (hfirst.order_eq.trans horder)).mpr
          ⟨Nat.succ.inj hlen, hothers, hrest, rfl⟩
        simp only [readMany, hread, hreads, List.append_nil]

theorem map_tag_eq_iff {α : Type} {read : Reading α} {tag : α → Arg} {ty : ArgType} {arg : Arg}
    (hread : ∀ {v}, read = ⟨.ok v, m', ds⟩ ↔ (tag v).Fits ∧
      m.Begins ((tag v).template m.order) (tag v).descriptors m' ∧ ds = [])
    (htag : arg.conformsTo ty = true ↔ ∃ v, tag v = arg) :
    read.map tag = ⟨.ok arg, m', ds⟩ ↔
      arg.conformsTo ty = true ∧ arg.Fits ∧
        m.Begins (arg.template m.order) arg.descriptors m' ∧ ds = [] := by
  rw [Step.map_eq_ok_iff, htag]
  constructor
  · intro h
    obtain ⟨v, h, rfl⟩ := h
    exact ⟨⟨v, rfl⟩, hread.mp h⟩
  · intro h
    obtain ⟨⟨v, rfl⟩, h⟩ := h
    exact ⟨v, hread.mpr h, rfl⟩

theorem readItems_eq_iff {element : ArgType} {order : ByteOrder}
    (hitem : ∀ {m m' : Message} {arg : Arg} {ds : List Descriptor},
      decodeArg element m = ⟨.ok arg, m', ds⟩ ↔ arg.conformsTo element = true ∧ arg.Fits ∧
        m.Begins (arg.template m.order) arg.descriptors m' ∧ ds = [])
    {count : Nat} {items : List Arg} (horder : m.order = order) :
    readMany (decodeArg element) Arg.descriptors count m = ⟨.ok items, m', ds⟩ ↔
      items.length = count ∧ Arg.allConformTo items element = true ∧ Arg.AllFit items ∧
        m.Begins (Arg.templateAll order items) (Arg.descriptorsAll items) m' ∧ ds = [] := by
  rw [readMany_eq_iff (fun arg => arg.conformsTo element = true ∧ arg.Fits) (Arg.template order)
    order (fun hm => by rw [hitem, hm, and_assoc]) horder, Arg.templateAll_eq_flatMap,
    Arg.descriptorsAll_eq_flatMap, Arg.allConformTo_eq_all,
    List.all_eq_true, Arg.allFit_iff, forall₂_and, and_assoc]

theorem begins_sequence_iff {items : List Arg} :
    m.Begins ((Arg.sequence items).template m.order) (Arg.sequence items).descriptors m' ↔
      ∃ m₁, m.Begins (.fixed (m.order.encode (UInt32.ofNat items.length))) [] m₁ ∧
        m₁.Begins (Arg.templateAll m.order items) (Arg.descriptorsAll items) m' :=
  @begins_append_iff m m' _ _ [] _

/-- Reading an argument of a type: it conforms to the type, it fits, and its template and its
descriptors are what is read. -/
theorem decodeArg_eq_iff {ty : ArgType} {arg : Arg} :
    decodeArg ty m = ⟨.ok arg, m', ds⟩ ↔
      arg.conformsTo ty = true ∧ arg.Fits ∧
        m.Begins (arg.template m.order) arg.descriptors m' ∧ ds = [] := by
  induction ty generalizing m m' arg ds with
  | int =>
    refine map_tag_eq_iff (readInt_eq_iff.trans (and_iff_right trivial).symm) ?_
    cases arg <;> simp [Arg.conformsTo]
  | uint =>
    refine map_tag_eq_iff (readUint_eq_iff.trans (and_iff_right trivial).symm) ?_
    cases arg <;> simp [Arg.conformsTo]
  | fixed =>
    refine map_tag_eq_iff (readFixed_eq_iff.trans (and_iff_right trivial).symm) ?_
    cases arg <;> simp [Arg.conformsTo]
  | string =>
    refine map_tag_eq_iff readString_eq_iff ?_
    cases arg <;> simp [Arg.conformsTo]
  | array =>
    refine map_tag_eq_iff readArray_eq_iff ?_
    cases arg <;> simp [Arg.conformsTo]
  | newId =>
    refine map_tag_eq_iff readNewId_eq_iff ?_
    cases arg <;> simp [Arg.conformsTo]
  | fd =>
    refine map_tag_eq_iff (takeFd_eq_iff.trans (and_iff_right trivial).symm) ?_
    cases arg <;> simp [Arg.conformsTo]
  | sequence element ih =>
    constructor
    · intro h
      rcases hcount : m.readUint with ⟨e | count, m₁, ds₁⟩
      · simp only [decodeArg, hcount] at h
        cases h
      · obtain ⟨hword, rfl⟩ := readUint_eq_iff.mp hcount
        simp only [decodeArg, hcount] at h
        obtain ⟨items, hitems, rfl⟩ := Step.map_eq_ok_iff.mp h
        obtain ⟨hlen, hconf, hfit, hbegins, rfl⟩ := (readItems_eq_iff ih hword.order_eq).mp hitems
        have hlt : items.length < 2 ^ 32 := hlen ▸ count.toNat_lt
        refine ⟨hconf, ⟨hlt, hfit⟩, begins_sequence_iff.mpr ⟨m₁, ?_, hbegins⟩, rfl⟩
        rw [hlen, UInt32.ofNat_toNat]
        exact hword
    · intro h
      obtain ⟨hconf, hfit, hbegins, rfl⟩ := h
      cases arg <;> try cases hconf
      rename_i items
      obtain ⟨m₁, hword, hitems⟩ := begins_sequence_iff.mp hbegins
      have hcount := readUint_eq_iff.mpr ⟨hword, rfl⟩
      have hread := (readItems_eq_iff ih hword.order_eq).mpr ⟨rfl, hconf, hfit.2, hitems, rfl⟩
      rw [← UInt32.toNat_ofNat_of_lt' hfit.1] at hread
      simp only [decodeArg, hcount, Step.map_eq_ok_iff]
      exact ⟨items, hread, rfl⟩

theorem decodeArgs_eq_iff {sig : Signature} {args : List Arg} :
    m.decodeArgs sig = ⟨.ok args, m', ds⟩ ↔
      sig.Accepts args ∧ Arg.AllFit args ∧
        m.Begins (Arg.templateAll m.order args) (Arg.descriptorsAll args) m' ∧ ds = [] := by
  induction sig generalizing m m' args ds with
  | nil =>
    rw [decodeArgs, Step.collect, Step.done_eq_ok_iff, Signature.Accepts,
      List.forall₂_nil_left_iff]
    constructor
    · intro h
      obtain ⟨rfl, rfl, rfl⟩ := h
      exact ⟨rfl, trivial, begins_nil_iff.mpr rfl, rfl⟩
    · intro h
      obtain ⟨rfl, -, hbegins, rfl⟩ := h
      exact ⟨rfl, (begins_nil_iff.mp hbegins).symm, rfl⟩
  | cons ty sig ih =>
    constructor
    · intro h
      rcases hfirst : decodeArg ty m with ⟨e | arg, m₁, ds₁⟩
      · simp only [decodeArgs, Step.collect, hfirst] at h
        cases h
      · obtain ⟨hconf, hfit, hbegins, rfl⟩ := decodeArg_eq_iff.mp hfirst
        rcases hrest : m₁.decodeArgs sig with ⟨e | others, m₂, ds₂⟩
        · rw [decodeArgs] at hrest
          simp only [decodeArgs, Step.collect, hfirst, hrest] at h
          cases h
        · obtain ⟨hacc, hfits, hbegins', rfl⟩ := ih.mp hrest
          rw [decodeArgs] at hrest
          simp only [decodeArgs, Step.collect, hfirst, hrest] at h
          cases h
          rw [hbegins.order_eq] at hbegins'
          exact ⟨.cons hconf hacc, ⟨hfit, hfits⟩, begins_append_iff.mpr ⟨m₁, hbegins, hbegins'⟩, rfl⟩
    · intro h
      obtain ⟨hacc, hfits, hbegins, rfl⟩ := h
      cases hacc with
      | @cons _ arg _ others hconf hothers =>
        obtain ⟨m₁, hfirst, hrest⟩ := begins_append_iff.mp hbegins
        have hread := decodeArg_eq_iff.mpr ⟨hconf, hfits.1, hfirst, rfl⟩
        rw [← hfirst.order_eq] at hrest
        have hreads := ih.mpr ⟨hothers, hfits.2, hrest, rfl⟩
        rw [decodeArgs] at hreads
        simp only [decodeArgs, Step.collect, hread, hreads, List.append_nil]

theorem finish_eq_ok_iff : m.finish.result = .ok () ↔ m.payload = [] ∧ m.queue = [] := by
  unfold finish
  split
  · rename_i hpayload
    exact ⟨fun h => (nomatch h), fun h => absurd h.1 hpayload⟩
  · rename_i hpayload
    split
    · rename_i hqueue
      exact ⟨fun h => (nomatch h), fun h => absurd h.2 hqueue⟩
    · rename_i hqueue
      exact ⟨fun _ => ⟨not_not.mp hpayload, not_not.mp hqueue⟩, fun _ => rfl⟩

/-- A message is read completely: its payload is admitted by the template of the arguments, and
its descriptors are theirs. -/
theorem decodeArgs_and_finish_iff {header : Header} {order : ByteOrder} {payload : Bytes}
    {fds : List Descriptor} {sig : Signature} {args : List Arg} :
    ((framed header payload fds order).decodeArgs sig).result = .ok args ∧
        ((framed header payload fds order).decodeArgs sig).state.finish.result = .ok () ↔
      sig.Accepts args ∧ Arg.AllFit args ∧ (Arg.templateAll order args).Admits payload ∧
        Arg.descriptorsAll args = fds := by
  constructor
  · intro h
    obtain ⟨hresult, hfinish⟩ := h
    obtain ⟨m', ds, hread⟩ := Step.exists_of_result hresult
    rw [hread] at hfinish
    obtain ⟨hacc, hfit, hbegins, -⟩ := decodeArgs_eq_iff.mp hread
    obtain ⟨hpayload', hqueue'⟩ := finish_eq_ok_iff.mp hfinish
    cases hbegins with
    | intro bs rest queue hbs hpayload hqueue =>
      simp only [framed] at hpayload hqueue hpayload' hqueue'
      rw [hpayload', List.append_nil] at hpayload
      rw [hqueue', List.append_nil] at hqueue
      exact ⟨hacc, hfit, hpayload ▸ hbs, hqueue.symm⟩
  · intro h
    obtain ⟨hacc, hfit, hadmits, rfl⟩ := h
    have hbegins : (framed header payload (Arg.descriptorsAll args) order).Begins
        (Arg.templateAll order args) (Arg.descriptorsAll args) _ :=
      .intro payload [] [] hadmits (List.append_nil _).symm (List.append_nil _).symm
    rw [decodeArgs_eq_iff.mpr ⟨hacc, hfit, hbegins, rfl⟩]
    exact ⟨rfl, finish_eq_ok_iff.mpr ⟨rfl, rfl⟩⟩

end Message

end FramedWire
