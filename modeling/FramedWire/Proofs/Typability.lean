import FramedWire.Proofs.Shapes

/-!
# Typability

The shape of an argument decides whether it has a type. A shape stands for all types that it
describes: what two shapes say together describes just the types that both of them describe, and
never none at all. So an argument has a shape exactly if it conforms to some type, its shape
describes exactly the types that it conforms to, and an argument that is rejected for its shape
could not have been encoded as any type.
-/
namespace FramedWire

namespace Shape

variable {s t merged : Shape} {ty : ArgType}

theorem describes_openSequence_iff :
    openSequence.Describes ty ↔ ∃ element, ty = .sequence element := by
  cases ty <;> simp [Describes]

theorem describes_sequence_iff :
    (sequence s).Describes ty ↔ ∃ element, ty = .sequence element ∧ s.Describes element := by
  cases ty <;> simp [Describes]

inductive Joins : Shape → Shape → Shape → Prop
  | same (s : Shape) : Joins s s s
  | filled (s : Shape) : Joins openSequence (sequence s) (sequence s)
  | kept (s : Shape) : Joins (sequence s) openSequence (sequence s)
  | nested {a b m : Shape} : Joins a b m → Joins (sequence a) (sequence b) (sequence m)

theorem joins_of_merge? (h : s.merge? t = some merged) : Joins s t merged := by
  induction s generalizing t merged with
  | scalar a =>
    cases t with
    | scalar b =>
      obtain ⟨rfl, hsame⟩ := Option.ite_none_right_eq_some.mp h
      cases hsame
      exact .same _
    | _ => cases h
  | openSequence =>
    cases t with
    | scalar b => cases h
    | openSequence =>
      cases h
      exact .same _
    | sequence b =>
      cases h
      exact .filled b
  | sequence a ih =>
    cases t with
    | scalar b => cases h
    | openSequence =>
      cases h
      exact .kept a
    | sequence b =>
      obtain ⟨m, hm, rfl⟩ := Option.map_eq_some_iff.mp h
      exact .nested (ih hm)

theorem Joins.describes (h : Joins s t merged) (hmerged : merged.Describes ty) :
    s.Describes ty ∧ t.Describes ty := by
  induction h generalizing ty with
  | same s => exact ⟨hmerged, hmerged⟩
  | filled s =>
    obtain ⟨element, rfl, -⟩ := describes_sequence_iff.mp hmerged
    exact ⟨trivial, hmerged⟩
  | kept s =>
    obtain ⟨element, rfl, -⟩ := describes_sequence_iff.mp hmerged
    exact ⟨hmerged, trivial⟩
  | nested _ ih =>
    obtain ⟨element, rfl, helement⟩ := describes_sequence_iff.mp hmerged
    exact ih helement

/-- Two shapes that each describe some type, and do not clash, describe one together. -/
theorem Joins.exists_describes (h : Joins s t merged) (hs : ∃ ty, s.Describes ty)
    (ht : ∃ ty, t.Describes ty) : ∃ ty, merged.Describes ty := by
  induction h with
  | same s => exact hs
  | filled s => exact ht
  | kept s => exact hs
  | nested _ ih =>
    obtain ⟨_, hty⟩ := hs
    obtain ⟨_, hty'⟩ := ht
    obtain ⟨ea, -, ha⟩ := describes_sequence_iff.mp hty
    obtain ⟨eb, -, hb⟩ := describes_sequence_iff.mp hty'
    obtain ⟨element, helement⟩ := ih ⟨ea, ha⟩ ⟨eb, hb⟩
    exact ⟨.sequence element, helement⟩

/-- What an item of shape `s` says together with the items before it, which say `known`. -/
def join? : Option Shape → Shape → Option Shape
  | none, s => some s
  | some k, s => k.merge? s

variable {known : Option Shape}

theorem exists_element_of_describes (h : (ofElement known).Describes ty) :
    ∃ element, ty = .sequence element := by
  cases known with
  | none => exact describes_openSequence_iff.mp h
  | some k =>
    obtain ⟨element, hty, -⟩ := describes_sequence_iff.mp h
    exact ⟨element, hty⟩

theorem describes_of_join? (h : join? known s = some merged) (hmerged : merged.Describes ty) :
    (ofElement known).Describes (.sequence ty) ∧ s.Describes ty := by
  cases known with
  | none =>
    cases h
    exact ⟨trivial, hmerged⟩
  | some k => exact (joins_of_merge? h).describes hmerged

theorem exists_describes_of_join? (h : join? known s = some merged)
    (hknown : ∃ ty, (ofElement known).Describes ty) (hs : ∃ ty, s.Describes ty) :
    ∃ ty, merged.Describes ty := by
  cases known with
  | none =>
    cases h
    exact hs
  | some k =>
    obtain ⟨_, hsequence⟩ := hknown
    obtain ⟨element, -, hk⟩ := describes_sequence_iff.mp hsequence
    exact (joins_of_merge? h).exists_describes ⟨element, hk⟩ hs

end Shape

namespace Arg

variable {arg item : Arg} {items : List Arg} {s : Shape} {known merged : Option Shape}
  {ty : ArgType} {e : CodecError}

theorem mergeShapes_cons_eq_ok (h : mergeShapes known (item :: items) = .ok merged) :
    ∃ s next, item.shape = .ok s ∧ Shape.join? known s = some next ∧
      mergeShapes (some next) items = .ok merged := by
  unfold mergeShapes at h
  rcases hshape : item.shape with e | s
  · simp only [hshape] at h
    cases h
  cases known with
  | none =>
    simp only [hshape] at h
    exact ⟨s, s, rfl, rfl, h⟩
  | some k =>
    rcases hmerge : k.merge? s with _ | next
    · simp only [hshape, hmerge] at h
      cases h
    · simp only [hshape, hmerge] at h
      exact ⟨s, next, rfl, hmerge, h⟩

/-- The type of the items of a sequence is a type of each item, and suits what was known before. -/
theorem describes_of_mergeShapes
    (hitems : ∀ item ∈ items, ∀ s, item.shape = .ok s → s.Describes ty → item.conformsTo ty = true)
    (h : mergeShapes known items = .ok merged)
    (hmerged : (Shape.ofElement merged).Describes (.sequence ty)) :
    (Shape.ofElement known).Describes (.sequence ty) ∧
      ∀ item ∈ items, item.conformsTo ty = true := by
  induction items generalizing known with
  | nil =>
    cases h
    exact ⟨hmerged, nofun⟩
  | cons item items ih =>
    obtain ⟨s, next, hshape, hjoin, hrest⟩ := mergeShapes_cons_eq_ok h
    obtain ⟨hnext, hall⟩ :=
      ih (fun other hother => hitems other (List.mem_cons_of_mem item hother)) hrest
    obtain ⟨hknown, hs⟩ := Shape.describes_of_join? hjoin hnext
    have hitem : item.conformsTo ty = true := hitems item List.mem_cons_self s hshape hs
    exact ⟨hknown, List.forall_mem_cons.mpr ⟨hitem, hall⟩⟩

theorem exists_describes_of_mergeShapes
    (hitems : ∀ item ∈ items, ∀ s, item.shape = .ok s → ∃ ty, s.Describes ty)
    (h : mergeShapes known items = .ok merged) (hknown : ∃ ty, (Shape.ofElement known).Describes ty) :
    ∃ ty, (Shape.ofElement merged).Describes ty := by
  induction items generalizing known with
  | nil =>
    cases h
    exact hknown
  | cons item items ih =>
    obtain ⟨s, next, hshape, hjoin, hrest⟩ := mergeShapes_cons_eq_ok h
    have hs := hitems item List.mem_cons_self s hshape
    obtain ⟨ty, hnext⟩ := Shape.exists_describes_of_join? hjoin hknown hs
    exact ih (fun other hother => hitems other (List.mem_cons_of_mem item hother)) hrest
      ⟨.sequence ty, hnext⟩

theorem shape_sequence_eq_ok (h : (sequence items).shape = .ok s) :
    ∃ merged, mergeShapes none items = .ok merged ∧ Shape.ofElement merged = s := by
  rw [shape] at h
  rcases hmerge : mergeShapes none items with e | merged
  · rw [hmerge] at h
    cases h
  · rw [hmerge] at h
    exact ⟨merged, rfl, Except.ok.inj h⟩

theorem exists_describes_of_shape (h : arg.shape = .ok s) : ∃ ty, s.Describes ty := by
  induction arg using Arg.inductionOn generalizing s with
  | sequence items ih =>
    obtain ⟨merged, hmerged, rfl⟩ := shape_sequence_eq_ok h
    exact exists_describes_of_mergeShapes (fun item hitem s hs => ih item hitem hs) hmerged
      ⟨.sequence .int, trivial⟩
  | int v => cases h; exact ⟨.int, rfl⟩
  | uint v => cases h; exact ⟨.uint, rfl⟩
  | fixed v => cases h; exact ⟨.fixed, rfl⟩
  | string v => cases h; exact ⟨.string, rfl⟩
  | array v => cases h; exact ⟨.array, rfl⟩
  | newId v => cases h; exact ⟨.newId, rfl⟩
  | fd d => cases h; exact ⟨.fd, rfl⟩

theorem conformsTo_of_kind? (h : ty.kind? = some arg.kindName) : arg.conformsTo ty = true := by
  cases arg <;> cases ty <;> simp [ArgType.kind?, kindName, conformsTo] at h ⊢

/-- The shape of an argument describes the types that the argument has, and no others. -/
theorem describes_iff_conformsTo (h : arg.shape = .ok s) :
    s.Describes ty ↔ arg.conformsTo ty = true := by
  constructor
  · intro hs
    induction arg using Arg.inductionOn generalizing s ty with
    | sequence items ih =>
      obtain ⟨merged, hmerged, rfl⟩ := shape_sequence_eq_ok h
      obtain ⟨element, rfl⟩ := Shape.exists_element_of_describes hs
      obtain ⟨-, hall⟩ :=
        describes_of_mergeShapes (fun item hitem s hs => ih item hitem hs) hmerged hs
      rw [conformsTo, allConformTo_eq_all]
      exact List.all_eq_true.mpr hall
    | _ =>
      cases h
      exact conformsTo_of_kind? hs
  · intro hconf
    obtain ⟨s', hs', hdescribes⟩ := exists_shape_of_conformsTo hconf
    cases h.symm.trans hs'
    exact hdescribes

/-- An argument has a shape exactly if it has a type. -/
theorem exists_shape_iff : (∃ s, arg.shape = .ok s) ↔ ∃ ty, arg.conformsTo ty = true := by
  constructor
  · intro h
    obtain ⟨s, hs⟩ := h
    obtain ⟨ty, hty⟩ := exists_describes_of_shape hs
    exact ⟨ty, (describes_iff_conformsTo hs).mp hty⟩
  · intro h
    obtain ⟨ty, hty⟩ := h
    obtain ⟨s, hs, -⟩ := exists_shape_of_conformsTo hty
    exact ⟨s, hs⟩

theorem isTypeContract_of_mergeShapes
    (hitems : ∀ item ∈ items, ∀ e, item.shape = .error e → e.isTypeContract = true)
    (h : mergeShapes known items = .error e) : e.isTypeContract = true := by
  induction items generalizing known with
  | nil => cases h
  | cons item items ih =>
    have hrest := fun known => @ih known fun other hother =>
      hitems other (List.mem_cons_of_mem item hother)
    unfold mergeShapes at h
    split at h
    · rename_i e' hshape
      cases h
      exact hitems item List.mem_cons_self e hshape
    split at h
    · exact hrest _ h
    split at h
    · exact hrest _ h
    · cases h
      rfl

/-- The only fault that a shape can find is a clash. -/
theorem isTypeContract_of_shape (h : arg.shape = .error e) : e.isTypeContract = true := by
  induction arg using Arg.inductionOn generalizing e with
  | sequence items ih =>
    rw [shape] at h
    rcases hmerge : mergeShapes none items with e' | merged
    · rw [hmerge] at h
      cases h
      exact isTypeContract_of_mergeShapes (fun item hitem e he => ih item hitem he) hmerge
    · rw [hmerge] at h
      cases h
  | _ => cases h

end Arg

namespace Builder

variable {arg : Arg} {ty : ArgType}

theorem encodeArg_of_shape_error {e : CodecError} (h : arg.shape = .error e) (b : Builder) :
    (encodeArg arg b).result = .error e := by
  cases arg with
  | sequence items => simp only [encodeArg, h]
  | _ => cases h

theorem encodeAllAs_singleton (h : arg.conformsTo ty = true) (b : Builder) :
    encodeAllAs [ty] [arg] b = write arg b := by
  rcases hwrite : write arg b with ⟨e | _, b', ds⟩
  · simp [encodeAllAs, encodeAs, h, hwrite, Arg.descriptorsAll]
  · simp [encodeAllAs, encodeAs, h, hwrite, Step.closing, Arg.descriptorsAll]

theorem putArg_eq_putArgs_singleton (h : arg.conformsTo ty = true) (b : Builder) :
    b.putArg arg = b.putArgs [ty] [arg] := by
  have hwrite : encodeArg arg = encodeAllAs [ty] [arg] := by
    funext b'
    rw [encodeArg_of_conformsTo h, encodeAllAs_singleton h]
  have hnone : firstMismatch? [ty] [arg] = none := if_pos h
  rw [putArg, hwrite]
  simp only [putArgs, List.length_singleton, ne_eq, not_true_eq_false, if_false, hnone]

/-- An argument is refused for the type contract exactly if it has no type at all. In any type
that it has, it is put in the same way, with the same result and the same builder. -/
theorem putArg_typeContract_iff (arg : Arg) (b : Builder) :
    ((∃ e, (b.putArg arg).result = .error e ∧ e.isTypeContract = true) ↔
        ¬ ∃ ty, arg.conformsTo ty = true) ∧
      ∀ ty, arg.conformsTo ty = true → b.putArg arg = b.putArgs [ty] [arg] := by
  refine ⟨⟨?_, ?_⟩, fun ty h => putArg_eq_putArgs_singleton h b⟩
  · intro hrefused htype
    obtain ⟨e, hresult, hcontract⟩ := hrefused
    obtain ⟨ty, hty⟩ := htype
    by_cases hfit : arg.Fits
    · have hwritten : b.putArg arg = .done () _ :=
        append_of_done ((encodeArg_of_conformsTo hty b).trans (write_of_fits hfit b))
      rw [hwritten] at hresult
      cases hresult
    · obtain ⟨n, -, hwrite⟩ := result_write_of_not_fits hfit b
      rw [← encodeArg_of_conformsTo hty] at hwrite
      rw [putArg, result_append_of_error hwrite] at hresult
      cases hresult
      cases hcontract
  · intro htype
    rcases hshape : arg.shape with e | s
    · exact ⟨e, result_append_of_error (encodeArg_of_shape_error hshape b),
        Arg.isTypeContract_of_shape hshape⟩
    · exact absurd (Arg.exists_shape_iff.mp ⟨s, hshape⟩) htype

/-- Two items that clash two levels down, with empty sequences between them, and items that go
together in the same places. -/
theorem putArg_typeContract_iff_nested :
    let b := Builder.start 1 2 .big
    let clash : Arg := .sequence
      [.sequence [], .sequence [.sequence []], .sequence [], .sequence [.uint 1]]
    let sound : Arg := .sequence
      [.sequence [], .sequence [.sequence []], .sequence [], .sequence [.sequence [.uint 1]]]
    let ty : ArgType := .sequence (.sequence (.sequence .uint))
    (b.putArg clash).result = .error (.typeContract "[[]]" "sequence") ∧
      (¬ ∃ ty, clash.conformsTo ty = true) ∧ sound.conformsTo ty = true ∧
      b.putArg sound = b.putArgs [ty] [sound] := by
  intro b clash sound ty
  have hrefused : (b.putArg clash).result = .error (.typeContract "[[]]" "sequence") := by
    decide +kernel
  have hsound : sound.conformsTo ty = true := rfl
  exact ⟨hrefused, (putArg_typeContract_iff clash b).1.mp ⟨_, hrefused, rfl⟩, hsound,
    (putArg_typeContract_iff sound b).2 ty hsound⟩

end Builder

end FramedWire
