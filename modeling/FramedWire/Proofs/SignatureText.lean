import FramedWire.Signature

/-!
# The texts of signatures

A grammar for signatures, said without the reader: a type is a letter or a type in brackets, and a
signature is a row of types. The reader accepts just these texts, and what it reads is written as
the text that it was read from. A text that it refuses consists of a signature, brackets that are
open, and a fault; the error tells which fault it is, and the place where it stands.
-/
namespace FramedWire

/-- The place that an error reports, counted in characters. -/
def SignatureError.position : SignatureError → Nat
  | .unknownType _ position => position
  | .unbalanced position => position
  | .emptySequence position => position

namespace Signature

/-- The letters that stand for a type. -/
def letters : List Char := ['i', 'u', 'f', 's', 'a', 'n', 'h']

/-- `T ::= i | u | f | s | a | n | h | '[' T ']'`. -/
inductive TypeText : List Char → Prop
  | letter {c : Char} : c ∈ letters → TypeText [c]
  | bracketed {cs : List Char} : TypeText cs → TypeText ('[' :: cs ++ [']'])

inductive SignatureText : List Char → Prop
  | nil : SignatureText []
  | cons {cs rest : List Char} : TypeText cs → SignatureText rest → SignatureText (cs ++ rest)

/-- What stands at `position`, where `depth` brackets are open, is where no signature can go on
in the way the text does. -/
inductive Fault (position depth : Nat) : List Char → SignatureError → Prop
  | unknown {c : Char} {rest : List Char} : c ∉ letters → c ≠ '[' → c ≠ ']' →
      Fault position depth (c :: rest) (.unknownType c position)
  | empty {rest : List Char} : Fault position depth ('[' :: ']' :: rest) (.emptySequence position)
  /-- A bracket that closes nothing. -/
  | stray {rest : List Char} : depth = 0 →
      Fault position depth (']' :: rest) (.unbalanced position)
  /-- A bracket without an element. -/
  | missing : Fault position depth ['['] (.unbalanced position)
  /-- A bracket whose element is complete and is not followed by the other bracket. -/
  | unclosed {element rest : List Char} : TypeText element → rest.head? ≠ some ']' →
      Fault position depth ('[' :: element ++ rest) (.unbalanced position)

/-- A signature, brackets that are open, and a fault. -/
def Faulty (text : List Char) (e : SignatureError) : Prop :=
  ∃ front depth rest, text = front ++ List.replicate depth '[' ++ rest ∧ SignatureText front ∧
    Fault (front.length + depth) depth rest e

theorem ofCode?_isSome_iff {c : Char} : (ArgType.ofCode? c).isSome ↔ c ∈ letters := by
  constructor
  · intro h
    unfold ArgType.ofCode? at h
    split at h <;> first | decide | cases h
  · intro h
    simp only [letters, List.mem_cons, List.not_mem_nil, or_false] at h
    rcases h with rfl | rfl | rfl | rfl | rfl | rfl | rfl <;> rfl

theorem ofCode?_eq_none_iff {c : Char} : ArgType.ofCode? c = none ↔ c ∉ letters := by
  rw [← ofCode?_isSome_iff, Option.not_isSome_iff_eq_none]

/-! ## The grammar and the types -/

theorem typeText_chars (ty : ArgType) : TypeText ty.chars := by
  induction ty with
  | sequence element ih => exact .bracketed ih
  | _ => exact .letter (by decide)

theorem chars_of_ofCode? {c : Char} {ty : ArgType} (h : ArgType.ofCode? c = some ty) :
    ty.chars = [c] := by
  have hcode : ty.code? = some c := ArgType.ofCode?_eq_some_iff.mp h
  cases ty with
  | sequence element => cases hcode
  | _ => cases hcode; rfl

theorem exists_chars_of_typeText {cs : List Char} (h : TypeText cs) :
    ∃ ty : ArgType, ty.chars = cs := by
  induction h with
  | letter hc =>
    obtain ⟨ty, hty⟩ := Option.isSome_iff_exists.mp (ofCode?_isSome_iff.mpr hc)
    exact ⟨ty, chars_of_ofCode? hty⟩
  | bracketed _ ih =>
    obtain ⟨element, rfl⟩ := ih
    exact ⟨.sequence element, rfl⟩

theorem signatureText_chars (sig : Signature) : SignatureText sig.chars := by
  induction sig with
  | nil => exact .nil
  | cons ty sig ih => exact .cons (typeText_chars ty) ih

theorem exists_chars_of_signatureText {cs : List Char} (h : SignatureText cs) :
    ∃ sig : Signature, sig.chars = cs := by
  induction h with
  | nil => exact ⟨[], rfl⟩
  | cons htype _ ih =>
    obtain ⟨ty, rfl⟩ := exists_chars_of_typeText htype
    obtain ⟨sig, rfl⟩ := ih
    exact ⟨ty :: sig, rfl⟩

/-- No type is written with a closing bracket in front. -/
theorem exists_chars_eq_cons (ty : ArgType) : ∃ c cs, ty.chars = c :: cs ∧ c ≠ ']' := by
  cases ty with
  | sequence element => exact ⟨'[', element.chars ++ [']'], rfl, by decide⟩
  | _ => exact ⟨_, [], rfl, by decide⟩

theorem SignatureText.append {cs ds : List Char} (h : SignatureText cs) (h' : SignatureText ds) :
    SignatureText (cs ++ ds) := by
  induction h with
  | nil => exact h'
  | cons htype _ ih =>
    rw [List.append_assoc]
    exact .cons htype ih

theorem typeText_nested (depth : Nat) :
    TypeText (List.replicate depth '[' ++ 'i' :: List.replicate depth ']') := by
  induction depth with
  | zero => exact .letter (by decide)
  | succ depth ih =>
    have h := TypeText.bracketed ih
    rw [List.replicate_succ, List.replicate_succ', List.cons_append]
    simpa only [List.cons_append, List.append_assoc] using h

theorem exists_signatureText_append {front : List Char} (h : SignatureText front) (depth : Nat) :
    ∃ more, SignatureText (front ++ List.replicate depth '[' ++ more) := by
  refine ⟨'i' :: List.replicate depth ']', ?_⟩
  rw [List.append_assoc]
  have hnested := SignatureText.cons (typeText_nested depth) .nil
  rw [List.append_nil] at hnested
  exact h.append hnested

/-! ## Reading one type -/

theorem parseType_bracket {c : Char} (hc : c ≠ ']') (position : Nat) (cs : List Char) :
    parseType position ('[' :: c :: cs) =
      match parseType (position + 1) (c :: cs) with
      | .error e => .error e
      | .ok (element, ']' :: rest) => .ok (.sequence element, rest)
      | .ok _ => .error (.unbalanced position) := by
  rw [parseType]
  · cases parseType (position + 1) (c :: cs) with
    | error e => rfl
    | ok read =>
      obtain ⟨element, rest⟩ := read
      simp only [bind, Except.bind, pure, Except.pure, throw, throwThe, MonadExceptOf.throw]
      split <;> simp_all
  · exact hc

theorem parseType_letter {c : Char} (hopen : c ≠ '[') (hclose : c ≠ ']') (position : Nat)
    (cs : List Char) :
    parseType position (c :: cs) =
      match ArgType.ofCode? c with
      | some ty => .ok (ty, cs)
      | none => .error (.unknownType c position) := by
  cases hcode : ArgType.ofCode? c with
  | none => simp [parseType, hopen, hcode]
  | some ty => simp [parseType, hopen, hcode]

/-- The text of a type is read in front of anything. -/
theorem parseType_chars_append (ty : ArgType) (position : Nat) (rest : List Char) :
    parseType position (ty.chars ++ rest) = .ok (ty, rest) := by
  induction ty generalizing position rest with
  | sequence element ih =>
    obtain ⟨c, cs, hchars, hc⟩ := exists_chars_eq_cons element
    have helement := ih (position + 1) (']' :: rest)
    rw [hchars, List.cons_append] at helement
    simp only [ArgType.chars, hchars, List.cons_append, List.append_assoc, List.nil_append,
      parseType_bracket hc, helement]
  | _ => rfl

/-- What comes of reading one type: the type and what follows it, or an error for a fault that
stands behind brackets that are open. -/
inductive TypeRead (position : Nat) (cs : List Char) :
    Except SignatureError (ArgType × List Char) → Prop
  | ok {ty : ArgType} {rest : List Char} : cs = ty.chars ++ rest →
      TypeRead position cs (.ok (ty, rest))
  | error {e : SignatureError} (depth : Nat) (rest : List Char) :
      cs = List.replicate depth '[' ++ rest → Fault (position + depth) depth rest e →
      TypeRead position cs (.error e)

/-- Only a stray bracket hangs on the number of brackets that are open. -/
theorem Fault.of_not_stray {position depth : Nat} {rest : List Char} {e : SignatureError}
    (h : Fault position depth rest e) (hclose : depth = 0 → rest.head? ≠ some ']')
    (depth' : Nat) : Fault position depth' rest e := by
  cases h with
  | unknown hletter hopen hclose' => exact .unknown hletter hopen hclose'
  | empty => exact .empty
  | stray hdepth => exact absurd rfl (hclose hdepth)
  | missing => exact .missing
  | unclosed helement hrest => exact .unclosed helement hrest

theorem TypeRead.here {position : Nat} {cs : List Char} {e : SignatureError}
    (h : Fault position 0 cs e) : TypeRead position cs (.error e) :=
  .error 0 cs (List.nil_append cs).symm h

theorem typeRead_of_ne_bracket {c : Char} (hopen : c ≠ '[') (position : Nat) (cs : List Char) :
    TypeRead position (c :: cs) (parseType position (c :: cs)) := by
  by_cases hclose : c = ']'
  · subst hclose
    exact .here (.stray rfl)
  rw [parseType_letter hopen hclose]
  cases hcode : ArgType.ofCode? c with
  | none => exact .here (.unknown (ofCode?_eq_none_iff.mp hcode) hopen hclose)
  | some ty =>
    apply TypeRead.ok
    rw [chars_of_ofCode? hcode]
    rfl

theorem typeRead_parseType (position : Nat) (c : Char) (cs : List Char) :
    TypeRead position (c :: cs) (parseType position (c :: cs)) := by
  induction cs generalizing c position with
  | nil =>
    by_cases hopen : c = '['
    · subst hopen
      exact .here .missing
    · exact typeRead_of_ne_bracket hopen position []
  | cons d cs ih =>
    by_cases hopen : c = '['
    case neg => exact typeRead_of_ne_bracket hopen position (d :: cs)
    subst hopen
    by_cases hempty : d = ']'
    · subst hempty
      exact .here .empty
    have helement := ih (position + 1) d
    rw [parseType_bracket hempty]
    generalize parseType (position + 1) (d :: cs) = read at helement
    cases helement with
    | @ok element rest htext =>
      rw [htext]
      split
      · rename_i h
        cases h
      · rename_i h
        cases h
        exact .ok (by simp [ArgType.chars])
      · rename_i hrest h
        cases h
        refine .here (.unclosed (typeText_chars element) ?_)
        intro hhead
        obtain ⟨tail, rfl⟩ := List.head?_eq_some_iff.mp hhead
        exact hrest element tail rfl
    | error depth rest htext hfault =>
      -- one bracket more is open, and the fault is no stray bracket
      have hclose : depth = 0 → rest.head? ≠ some ']' := by
        rintro rfl hhead
        rw [List.replicate_zero, List.nil_append] at htext
        rw [← htext, List.head?_cons, Option.some.injEq] at hhead
        exact hempty hhead
      refine .error (depth + 1) rest ?_ ?_
      · rw [htext]
        rfl
      · rw [Nat.add_comm depth 1, ← Nat.add_assoc]
        exact hfault.of_not_stray hclose _

theorem Fault.exists_cons {position depth : Nat} {rest : List Char} {e : SignatureError}
    (h : Fault position (depth + 1) rest e) :
    ∃ c cs, List.replicate depth '[' ++ rest = c :: cs ∧ c ≠ ']' := by
  cases depth with
  | succ depth => exact ⟨'[', _, rfl, by decide⟩
  | zero =>
    cases h with
    | unknown _ _ hclose => exact ⟨_, _, rfl, hclose⟩
    | empty => exact ⟨_, _, rfl, by decide⟩
    | stray hdepth => cases hdepth
    | missing => exact ⟨_, _, rfl, by decide⟩
    | unclosed => exact ⟨_, _, rfl, by decide⟩

theorem parseType_of_fault_here {position : Nat} {cs : List Char} {e : SignatureError}
    (h : Fault position 0 cs e) : parseType position cs = .error e := by
  cases h with
  | unknown hletter hopen hclose =>
    rw [parseType_letter hopen hclose, ofCode?_eq_none_iff.mpr hletter]
  | empty => rfl
  | stray => rfl
  | missing => rfl
  | @unclosed element rest helement hrest =>
    obtain ⟨ty, rfl⟩ := exists_chars_of_typeText helement
    obtain ⟨c, cs, hchars, hc⟩ := exists_chars_eq_cons ty
    have hread := parseType_chars_append ty (position + 1) rest
    rw [hchars, List.cons_append] at hread
    rw [hchars, List.cons_append, List.cons_append, parseType_bracket hc, hread]
    split
    · rename_i h
      cases h
    · rename_i h
      cases h
      exact absurd rfl hrest
    · rfl

theorem parseType_of_fault {depth : Nat} {position : Nat} {rest : List Char} {e : SignatureError}
    (h : Fault (position + depth) depth rest e) :
    parseType position (List.replicate depth '[' ++ rest) = .error e := by
  induction depth generalizing position with
  | zero => exact parseType_of_fault_here h
  | succ depth ih =>
    obtain ⟨c, cs, htext, hc⟩ := h.exists_cons
    have hinner : Fault (position + 1 + depth) depth rest e := by
      rw [Nat.add_assoc, Nat.add_comm 1 depth]
      exact h.of_not_stray nofun depth
    have hread := ih hinner
    rw [htext] at hread
    rw [List.replicate_succ, List.cons_append, htext, parseType_bracket hc, hread]

/-! ## Reading a signature -/

theorem parseFrom_nil (position : Nat) : parseFrom position [] = .ok [] := by
  rw [parseFrom]
  rfl

theorem parseFrom_of_ok {position : Nat} {cs rest : List Char} {ty : ArgType}
    (h : parseType position cs = .ok (ty, rest)) :
    parseFrom position cs =
      (parseFrom (position + (cs.length - rest.length)) rest).map (ty :: ·) := by
  have hlt := length_lt_of_parseType h
  rw [parseFrom, if_neg (by cases cs <;> simp_all)]
  split
  · simp_all
  · rename_i h'
    rw [h] at h'
    cases h'
    rfl

theorem parseFrom_of_error {position : Nat} {cs : List Char} {e : SignatureError} (hcs : cs ≠ [])
    (h : parseType position cs = .error e) : parseFrom position cs = .error e := by
  rw [parseFrom, if_neg (by simpa using hcs)]
  split
  · simp_all
  · simp_all

theorem chars_cons (ty : ArgType) (sig : Signature) : chars (ty :: sig) = ty.chars ++ chars sig :=
  List.flatMap_cons

theorem parseFrom_chars_append (sig : Signature) (position : Nat) (rest : List Char) :
    parseFrom position (sig.chars ++ rest) =
      (parseFrom (position + sig.chars.length) rest).map (sig ++ ·) := by
  induction sig generalizing position with
  | nil =>
    change parseFrom position rest = (parseFrom position rest).map id
    cases parseFrom position rest <;> rfl
  | cons ty sig ih =>
    rw [chars_cons, List.append_assoc, parseFrom_of_ok (parseType_chars_append ty position _),
      List.length_append, Nat.add_sub_cancel, ih, List.length_append, ← Nat.add_assoc]
    cases parseFrom (position + ty.chars.length + (chars sig).length) rest <;> rfl

inductive SignatureRead (position : Nat) (cs : List Char) :
    Except SignatureError Signature → Prop
  | ok {sig : Signature} : cs = sig.chars → SignatureRead position cs (.ok sig)
  | error {e : SignatureError} (front : Signature) (depth : Nat) (rest : List Char) :
      cs = front.chars ++ List.replicate depth '[' ++ rest →
      Fault (position + front.chars.length + depth) depth rest e →
      SignatureRead position cs (.error e)

theorem SignatureRead.cons {position : Nat} {cs : List Char} (ty : ArgType)
    {read : Except SignatureError Signature}
    (h : SignatureRead (position + ty.chars.length) cs read) :
    SignatureRead position (ty.chars ++ cs) (read.map (ty :: ·)) := by
  cases h with
  | ok htext => exact .ok (by rw [htext]; rfl)
  | error front depth rest htext hfault =>
    refine .error (ty :: front) depth rest ?_ ?_
    · simp only [htext, chars_cons, List.append_assoc]
    · simpa only [chars_cons, List.length_append, Nat.add_assoc] using hfault

theorem signatureRead_parseFrom (position : Nat) (cs : List Char) :
    SignatureRead position cs (parseFrom position cs) := by
  induction hn : cs.length using Nat.strongRecOn generalizing position cs with
  | ind n ih =>
    cases cs with
    | nil =>
      rw [parseFrom_nil]
      exact .ok rfl
    | cons c cs =>
      have htype := typeRead_parseType position c cs
      cases hread : parseType position (c :: cs) with
      | error e =>
        rw [hread] at htype
        rw [parseFrom_of_error (List.cons_ne_nil c cs) hread]
        cases htype with
        | error depth rest htext hfault => exact .error [] depth rest htext hfault
      | ok read =>
        obtain ⟨ty, rest⟩ := read
        rw [hread] at htype
        rw [parseFrom_of_ok hread]
        cases htype with
        | ok htext =>
          have hshorter := length_lt_of_parseType hread
          rw [htext, List.length_append, Nat.add_sub_cancel]
          exact (ih rest.length (by omega) _ rest rfl).cons ty

theorem Fault.ne_nil {position depth : Nat} {rest : List Char} {e : SignatureError}
    (h : Fault position depth rest e) : rest ≠ [] := by
  cases h <;> exact List.cons_ne_nil _ _

theorem parseFrom_of_fault {front : Signature} {depth position : Nat} {rest : List Char}
    {e : SignatureError} (h : Fault (position + front.chars.length + depth) depth rest e) :
    parseFrom position (front.chars ++ List.replicate depth '[' ++ rest) = .error e := by
  have hne : List.replicate depth '[' ++ rest ≠ [] :=
    List.append_ne_nil_of_right_ne_nil _ h.ne_nil
  rw [List.append_assoc, parseFrom_chars_append, parseFrom_of_error hne (parseType_of_fault h)]
  rfl

theorem parse_eq_ok_iff {text : String} {sig : Signature} :
    parse text = .ok sig ↔ sig.text = text := by
  constructor
  · intro h
    have hread := signatureRead_parseFrom 0 text.toList
    rw [parse] at h
    rw [h] at hread
    cases hread with
    | ok htext => rw [Signature.text, ← htext, String.ofList_toList]
  · rintro rfl
    have hread := parseFrom_chars_append sig 0 []
    rw [List.append_nil, parseFrom_nil] at hread
    rw [parse, Signature.text, String.toList_ofList, hread]
    exact congrArg Except.ok (List.append_nil sig)

theorem parse_eq_error_iff {text : String} {e : SignatureError} :
    parse text = .error e ↔ Faulty text.toList e := by
  constructor
  · intro h
    have hread := signatureRead_parseFrom 0 text.toList
    rw [parse] at h
    rw [h] at hread
    cases hread with
    | error front depth rest htext hfault =>
      rw [Nat.zero_add] at hfault
      exact ⟨_, depth, rest, htext, signatureText_chars front, hfault⟩
  · rintro ⟨front, depth, rest, htext, hfront, hfault⟩
    obtain ⟨sig, rfl⟩ := exists_chars_of_signatureText hfront
    rw [parse, htext]
    apply parseFrom_of_fault
    rw [Nat.zero_add]
    exact hfault

theorem exists_parse_iff {text : String} :
    (∃ sig, parse text = .ok sig) ↔ SignatureText text.toList := by
  constructor
  · rintro ⟨sig, h⟩
    rw [← parse_eq_ok_iff.mp h, Signature.text, String.toList_ofList]
    exact signatureText_chars sig
  · intro h
    obtain ⟨sig, hsig⟩ := exists_chars_of_signatureText h
    refine ⟨sig, parse_eq_ok_iff.mpr ?_⟩
    rw [Signature.text, hsig, String.ofList_toList]

theorem Fault.position_eq {position depth : Nat} {rest : List Char} {e : SignatureError}
    (h : Fault position depth rest e) : e.position = position := by
  cases h <;> rfl

/-- Up to the place that an error reports the text could still become a signature. -/
theorem Faulty.continuable {text : List Char} {e : SignatureError} (h : Faulty text e) :
    e.position < text.length ∧ ∃ more, SignatureText (text.take e.position ++ more) := by
  obtain ⟨front, depth, rest, rfl, hfront, hfault⟩ := h
  have hposition : (front ++ List.replicate depth '[').length = e.position := by
    rw [hfault.position_eq, List.length_append, List.length_replicate]
  have hrest : 0 < rest.length := List.length_pos_iff.mpr hfault.ne_nil
  have hlength : (front ++ List.replicate depth '[' ++ rest).length =
      (front ++ List.replicate depth '[').length + rest.length := List.length_append
  refine ⟨by omega, ?_⟩
  rw [← hposition, List.take_left]
  exact exists_signatureText_append hfront depth

/-- Just the texts of the grammar are read, each as the signature that is written so. Any other
text is refused for its fault, up to which it could still have become a signature. -/
theorem parse_grammar (text : String) :
    (∀ sig, parse text = .ok sig ↔ sig.text = text) ∧
    ((∃ sig, parse text = .ok sig) ↔ SignatureText text.toList) ∧
    (∀ e, parse text = .error e ↔ Faulty text.toList e) ∧
    ∀ e, parse text = .error e → e.position < text.toList.length ∧
      ∃ more, SignatureText (text.toList.take e.position ++ more) := by
  refine ⟨fun sig => parse_eq_ok_iff, exists_parse_iff, fun e => parse_eq_error_iff, ?_⟩
  intro e h
  exact (parse_eq_error_iff.mp h).continuable

/-- The bracket that is not closed is the inner one in the first text and the outer one in the
second. -/
example : parse "[[i" = .error (.unbalanced 1) ∧ parse "[[i]" = .error (.unbalanced 0) := by
  constructor <;> cbv

end Signature

end FramedWire
