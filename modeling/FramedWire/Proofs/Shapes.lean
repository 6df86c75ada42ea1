import FramedWire.Proofs.Encoding

/-!
# Shapes and types

A shape describes a type if values of that type can have it. Two shapes that describe the same
type never contradict each other, so an argument that conforms to some type has a shape, and is
not rejected for the items of its sequences.
-/
namespace FramedWire

/-- The kind of the values of a type, unless they are sequences. -/
def ArgType.kind? : ArgType → Option String
  | .int => some "int"
  | .uint => some "uint"
  | .fixed => some "fixed"
  | .string => some "string"
  | .array => some "array"
  | .newId => some "new_id"
  | .fd => some "fd"
  | .sequence _ => none

namespace Shape

def kind? : Shape → Option String
  | .scalar kind => some kind
  | .openSequence | .sequence _ => none

def Describes : Shape → ArgType → Prop
  | .scalar kind, ty => ty.kind? = some kind
  | .openSequence, .sequence _ => True
  | .sequence s, .sequence element => s.Describes element
  | _, _ => False

variable {s t : Shape} {ty : ArgType}

theorem kind?_of_describes (h : s.Describes ty) : ty.kind? = s.kind? := by
  cases s with
  | scalar kind => exact h
  | openSequence => cases ty <;> first | rfl | exact h.elim
  | sequence a => cases ty <;> first | rfl | exact h.elim

theorem kind?_eq_of_describes (hs : s.Describes ty) (ht : t.Describes ty) : s.kind? = t.kind? :=
  (kind?_of_describes hs).symm.trans (kind?_of_describes ht)

theorem exists_merge?_of_describes (hs : s.Describes ty) (ht : t.Describes ty) :
    ∃ merged, s.merge? t = some merged ∧ merged.Describes ty := by
  induction s generalizing t ty with
  | scalar a =>
    have hkind := kind?_eq_of_describes hs ht
    cases t with
    | scalar b => exact ⟨.scalar a, if_pos (Option.some.inj hkind), hs⟩
    | openSequence => cases hkind
    | sequence b => cases hkind
  | openSequence =>
    have hkind := kind?_eq_of_describes hs ht
    cases t with
    | scalar b => cases hkind
    | openSequence => exact ⟨.openSequence, rfl, hs⟩
    | sequence b => exact ⟨.sequence b, rfl, ht⟩
  | sequence a ih =>
    have hkind := kind?_eq_of_describes hs ht
    cases t with
    | scalar b => cases hkind
    | openSequence => exact ⟨.sequence a, rfl, hs⟩
    | sequence b =>
      cases ty with
      | sequence element =>
        obtain ⟨merged, hmerge, hdescribes⟩ := ih hs ht
        have hsequence : merge? (.sequence a) (.sequence b) = some (.sequence merged) :=
          congrArg (Option.map Shape.sequence) hmerge
        exact ⟨.sequence merged, hsequence, hdescribes⟩
      | _ => exact hs.elim

end Shape

namespace Arg

variable {element : ArgType} {items : List Arg}

theorem exists_mergeShapes (h : ∀ item ∈ items, ∃ s, item.shape = .ok s ∧ s.Describes element)
    {known : Option Shape} (hknown : ∀ k, known = some k → k.Describes element) :
    ∃ merged, mergeShapes known items = .ok merged ∧
      ∀ k, merged = some k → k.Describes element := by
  induction items generalizing known with
  | nil => exact ⟨known, rfl, hknown⟩
  | cons item items ih =>
    have hitems := fun other hother => h other (List.mem_cons_of_mem item hother)
    obtain ⟨s, hshape, hs⟩ := h item List.mem_cons_self
    cases known with
    | none =>
      have hfirst : ∀ k, some s = some k → k.Describes element := by
        intro k hk
        exact Option.some.inj hk ▸ hs
      simp only [mergeShapes, hshape]
      exact ih hitems hfirst
    | some k =>
      obtain ⟨merged, hmerge, hmerged⟩ := Shape.exists_merge?_of_describes (hknown k rfl) hs
      have hnext : ∀ k', some merged = some k' → k'.Describes element := by
        intro k' hk'
        exact Option.some.inj hk' ▸ hmerged
      simp only [mergeShapes, hshape, hmerge]
      exact ih hitems hnext

/-- An argument that conforms to a type has a shape, which describes the type. -/
theorem exists_shape_of_conformsTo {arg : Arg} {ty : ArgType} (h : arg.conformsTo ty = true) :
    ∃ s, arg.shape = .ok s ∧ s.Describes ty := by
  induction arg using Arg.inductionOn generalizing ty with
  | sequence items ih =>
    cases ty with
    | sequence element =>
      have hall : ∀ item ∈ items, item.conformsTo element = true := by
        rw [conformsTo, allConformTo_eq_all] at h
        exact List.all_eq_true.mp h
      have hshapes := fun item hitem => ih item hitem (hall item hitem)
      have hnone : ∀ k, (none : Option Shape) = some k → k.Describes element := nofun
      obtain ⟨merged, hmerge, hmerged⟩ := exists_mergeShapes hshapes hnone
      refine ⟨.ofElement merged, ?_, ?_⟩
      · rw [shape, hmerge]
        rfl
      · cases merged with
        | none => trivial
        | some k => exact hmerged k rfl
    | _ => cases h
  | _ => cases ty <;> first | exact ⟨_, rfl, rfl⟩ | cases h

end Arg

namespace Builder

/-- An argument of some type is written as it is. -/
theorem encodeArg_of_conformsTo {arg : Arg} {ty : ArgType} (h : arg.conformsTo ty = true)
    (b : Builder) : encodeArg arg b = write arg b := by
  obtain ⟨s, hshape, -⟩ := Arg.exists_shape_of_conformsTo h
  cases arg with
  | sequence items => simp only [encodeArg, hshape]
  | _ => rfl

end Builder

end FramedWire
