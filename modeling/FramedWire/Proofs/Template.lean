import FramedWire.Builder
import Mathlib.Data.List.Forall2

/-!
# Templates

What an argument looks like on the wire. A template fixes some bytes and leaves others open:
the padding behind a string or an array, which is written as zeros and may hold anything when
it is read. Writer and reader are compared with templates and not with each other.

The templates of two fields put together admit just what each of them admits in turn, and bytes
that a template admits differ from those it is written as, `Template.zeroed`, only where it is
open.
-/
namespace FramedWire

/-- Bytes of which some are open. -/
abbrev Template := List (Option UInt8)

namespace Template

/-- Nothing is open. -/
def fixed (bs : Bytes) : Template := bs.map some

/-- Everything is open. -/
def padding (n : Nat) : Template := List.replicate n none

/-- A field behind its length, with the padding that follows it. -/
def field (order : ByteOrder) (bs : Bytes) : Template :=
  fixed (order.encode (UInt32.ofNat bs.length)) ++ (fixed bs ++ padding (Bytes.padding bs.length))

/-- The bytes of a template, with zeros where it is open. -/
def zeroed (t : Template) : Bytes := t.map (·.getD 0)

/-- The open bytes of `t` can be filled in so that it becomes `bs`. -/
def Admits (t : Template) (bs : Bytes) : Prop :=
  List.Forall₂ (fun cell b => ∀ x, cell = some x → b = x) t bs

/-- Byte `i` of the template is open. -/
def OpenAt (t : Template) (i : Nat) : Prop := t[i]? = some none

@[simp] theorem zeroed_nil : zeroed [] = [] := rfl

@[simp] theorem zeroed_append (t u : Template) : zeroed (t ++ u) = zeroed t ++ zeroed u := by
  simp [zeroed]

@[simp] theorem zeroed_fixed (bs : Bytes) : zeroed (fixed bs) = bs := by
  simp [zeroed, fixed, Function.comp_def]

@[simp] theorem zeroed_padding (n : Nat) : zeroed (padding n) = Bytes.zeros n := by
  simp [zeroed, padding, Bytes.zeros]

@[simp] theorem length_zeroed (t : Template) : (zeroed t).length = t.length := by
  simp [zeroed]

theorem admits_nil_iff {bs : Bytes} : Admits [] bs ↔ bs = [] := List.forall₂_nil_left_iff

theorem Admits.length_eq {t : Template} {bs : Bytes} (h : t.Admits bs) : bs.length = t.length :=
  (List.Forall₂.length_eq h).symm

theorem Admits.append {t u : Template} {bs cs : Bytes} (h : t.Admits bs) (k : u.Admits cs) :
    (t ++ u).Admits (bs ++ cs) := List.rel_append h k

theorem admits_append_iff {t u : Template} {bs : Bytes} :
    (t ++ u).Admits bs ↔ ∃ cs ds, bs = cs ++ ds ∧ t.Admits cs ∧ u.Admits ds := by
  constructor
  · intro h
    induction t generalizing bs with
    | nil => exact ⟨[], bs, rfl, .nil, h⟩
    | cons cell t ih =>
      cases h with
      | cons hb hrest =>
        obtain ⟨cs, ds, rfl, hcs, hds⟩ := ih hrest
        exact ⟨_ :: cs, ds, rfl, .cons hb hcs, hds⟩
  · intro h
    obtain ⟨cs, ds, rfl, hcs, hds⟩ := h
    exact hcs.append hds

theorem admits_fixed_iff {bs cs : Bytes} : (fixed bs).Admits cs ↔ cs = bs := by
  constructor
  · intro h
    induction bs generalizing cs with
    | nil => exact admits_nil_iff.mp h
    | cons b bs ih =>
      cases h with
      | cons hb hrest => rw [hb b rfl, ih hrest]
  · intro h
    obtain rfl := h
    exact List.forall₂_map_left_iff.mpr
      (List.forall₂_same.mpr fun b _ x hx => Option.some.inj hx)

theorem admits_padding_iff {n : Nat} {bs : Bytes} : (padding n).Admits bs ↔ bs.length = n := by
  constructor
  · intro h
    rw [h.length_eq, padding, List.length_replicate]
  · intro h
    obtain rfl := h
    induction bs with
    | nil => exact .nil
    | cons b bs ih => exact .cons (fun x hx => nomatch hx) ih

theorem admits_zeroed (t : Template) : t.Admits t.zeroed := by
  induction t with
  | nil => exact .nil
  | cons cell t ih =>
    refine .cons ?_ ih
    rintro x rfl
    rfl

/-- Byte by byte: what a template admits has the template's bytes wherever it is not open. -/
theorem admits_iff_differs {t : Template} {bs : Bytes} :
    t.Admits bs ↔ bs.length = t.length ∧ ∀ i : Nat, bs[i]? ≠ t.zeroed[i]? → t.OpenAt i := by
  constructor
  · intro h
    refine ⟨h.length_eq, ?_⟩
    induction h with
    | nil => intro i hne; exact absurd rfl hne
    | @cons cell b t bs hb _ ih =>
      intro i hne
      cases i with
      | zero =>
        cases cell with
        | none => rfl
        | some x => exact absurd (congrArg some (hb x rfl)) hne
      | succ i => exact ih i hne
  · intro h
    obtain ⟨hlen, hopen⟩ := h
    induction t generalizing bs with
    | nil => exact admits_nil_iff.mpr (List.eq_nil_of_length_eq_zero hlen)
    | cons cell t ih =>
      cases bs with
      | nil => exact absurd hlen (by simp)
      | cons b bs =>
        refine .cons ?_ (ih (Nat.succ.inj hlen) fun i => hopen (i + 1))
        rintro x rfl
        by_contra hne
        exact absurd (hopen 0 fun h => hne (Option.some.inj h)) (by simp [OpenAt])

/-- Two byte strings that differ only where `t` is open are admitted together. -/
theorem Admits.of_differs {t : Template} {bs cs : Bytes} (h : t.Admits bs)
    (hlen : cs.length = bs.length) (hopen : ∀ i : Nat, cs[i]? ≠ bs[i]? → t.OpenAt i) :
    t.Admits cs := by
  obtain ⟨hbs, hdiff⟩ := admits_iff_differs.mp h
  refine admits_iff_differs.mpr ⟨hlen.trans hbs, ?_⟩
  intro i hne
  by_cases hcs : cs[i]? = bs[i]?
  · exact hdiff i (hcs ▸ hne)
  · exact hopen i hcs

theorem zeroed_of_openAt {t : Template} {i : Nat} (h : t.OpenAt i) : t.zeroed[i]? = some 0 := by
  rw [OpenAt] at h
  simp [zeroed, h]

end Template

end FramedWire
