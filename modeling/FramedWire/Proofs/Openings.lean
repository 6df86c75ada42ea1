import FramedWire.MessageText
import FramedWire.Proofs.Collecting
import FramedWire.Proofs.Encoding

/-!
# Files that are opened for arguments

Arguments that are made from text conform to the types they are made for, whatever the text, so
they cannot be refused when they are put into a message, unless something is too long. The files
that are opened on the way are counted by somebody who watches: they belong to the arguments, or,
if one of these cannot be made, all of them are closed.
-/
namespace FramedWire

/-- What opening a path comes to, in a world that may change each time. -/
abbrev Files (σ : Type) := String → σ → Except IoError Descriptor × σ

structure Desk (σ : Type) where
  world : σ
  opened : List Descriptor

namespace Files

variable {σ : Type} (files : Files σ)

def openFile : OpenFile σ := fun path s =>
  { result := (files path s).1, state := (files path s).2 }

/-- `openFile`, which notes every file that is opened. -/
def openNoted : OpenFile (Desk σ) := fun path s =>
  { result := (files path s.world).1
    state := ⟨(files path s.world).2, s.opened ++ (files path s.world).1.toOption.toList⟩ }

end Files

/-- The files of a file system; descriptors are numbered in order. -/
def FileSystem.files (fs : FileSystem) : Files Nat := fun path next =>
  match fs.openForReading path with
  | .error e => (.error e, next)
  | .ok () => (.ok ⟨Int32.ofNat next⟩, next + 1)

/-- So the program itself opens files in one of the worlds that are considered here. -/
theorem FileSystem.openFile_files (fs : FileSystem) : fs.files.openFile = fs.openFile := by
  funext path next
  simp only [Files.openFile, files, openFile]
  rcases fs.openForReading path with e | _ <;> rfl

namespace ArgText

section

variable {σ α β : Type}

/-- What was made owns just the files that were opened for it, and otherwise they are closed. -/
inductive Accounted (sound : α → Prop) (owned : α → List Descriptor) (s : Desk σ) :
    Making (Desk σ) α → Prop
  | done (a : α) (w : σ) : sound a → Accounted sound owned s ⟨.ok a, ⟨w, s.opened ++ owned a⟩, []⟩
  | failed (e : CommandError) (w : σ) (opened closed : List Descriptor) : closed.Perm opened →
      Accounted sound owned s ⟨.error e, ⟨w, s.opened ++ opened⟩, closed⟩

variable {sound : α → Prop} {owned : α → List Descriptor} {s : Desk σ}

theorem Accounted.of_error (e : CommandError) (s : Desk σ) :
    Accounted sound owned s ⟨.error e, s, []⟩ := by
  have hfailed : Accounted sound owned s ⟨.error e, ⟨s.world, s.opened ++ []⟩, []⟩ :=
    .failed e s.world [] [] (.refl _)
  rwa [List.append_nil] at hfailed

theorem Accounted.of_ok {a : α} (hsound : sound a) (howned : owned a = []) (s : Desk σ) :
    Accounted sound owned s ⟨.ok a, s, []⟩ := by
  have hdone : Accounted sound owned s ⟨.ok a, ⟨s.world, s.opened ++ owned a⟩, []⟩ :=
    .done a s.world hsound
  rwa [howned, List.append_nil] at hdone

theorem Accounted.map {sound' : β → Prop} {owned' : β → List Descriptor} {f : α → β}
    {step : Making (Desk σ) α} (h : Accounted sound owned s step)
    (hsound : ∀ a, sound a → sound' (f a)) (howned : ∀ a, owned' (f a) = owned a) :
    Accounted sound' owned' s (step.map f) := by
  cases h with
  | done a w ha =>
    rw [← howned]
    exact .done (f a) w (hsound a ha)
  | failed e w opened closed hperm => exact .failed e w opened closed hperm

/-- A row of makings: when one of them fails, the values before it are released. -/
theorem accounted_collect {sound : β → α → Prop} {make : β → Desk σ → Making (Desk σ) α}
    (h : ∀ b s, Accounted (sound b) owned s (make b s)) (bs : List β) (s : Desk σ) :
    Accounted (List.Forall₂ sound bs) (List.flatMap owned) s (Step.collect owned make bs s) := by
  induction bs generalizing s with
  | nil => exact .of_ok .nil rfl s
  | cons b bs ih =>
    have hfirst := h b s
    rw [Step.collect]
    generalize make b s = first at hfirst ⊢
    cases hfirst with
    | failed e w opened closed hperm => exact .failed e w opened closed hperm
    | done a w ha =>
      have hrest := ih ⟨w, s.opened ++ owned a⟩
      dsimp only
      generalize Step.collect owned make bs _ = rest at hrest ⊢
      cases hrest with
      | failed e w' opened closed hperm =>
        dsimp only
        rw [List.append_assoc]
        exact .failed e w' _ _ (hperm.append_left (owned a))
      | done as w' has =>
        dsimp only
        rw [List.append_assoc]
        exact .done (a :: as) w' (.cons ha has)

end

section

variable {σ α : Type} (files : Files σ)

/-- An argument of type `ty`, with the files that were opened for it. -/
abbrev Typed (ty : ArgType) (s : Desk σ) : Making (Desk σ) Arg → Prop :=
  Accounted (fun arg => arg.conformsTo ty = true) Arg.descriptors s

theorem typed_openArg (path : String) (s : Desk σ) :
    Typed ArgType.fd s (openArg files.openNoted path s) := by
  simp only [openArg, Files.openNoted]
  rcases files path s.world with ⟨e | d, w⟩
  · exact .failed _ w [] [] (.refl _)
  · exact .done (Arg.fd d) w rfl

theorem exists_of_scalar {ε : Type} {r : Except ε α} {f : α → Arg} {g : ε → CommandError}
    {arg : Arg} (h : (r.map f).mapError g = .ok arg) : ∃ a, f a = arg := by
  rcases r with e | a
  · cases h
  · exact ⟨a, Except.ok.inj h⟩

theorem typed_parseScalar {ty : ArgType} (hfd : ty ≠ .fd)
    (hsequence : ∀ element, ty ≠ .sequence element) (text : String) (s : Desk σ) :
    Typed ty s (ofExcept (parseScalar ty text) s) := by
  have hscalar : ∀ arg, parseScalar ty text = .ok arg →
      arg.conformsTo ty = true ∧ arg.descriptors = [] := by
    intro arg h
    cases ty with
    | fd => exact absurd rfl hfd
    | sequence element => exact absurd rfl (hsequence element)
    | string =>
      cases h
      exact ⟨rfl, rfl⟩
    | _ =>
      simp only [parseScalar] at h
      obtain ⟨v, rfl⟩ := exists_of_scalar h
      exact ⟨rfl, rfl⟩
  rw [ofExcept]
  rcases hparse : parseScalar ty text with e | arg
  · exact .of_error e s
  · obtain ⟨hconf, hnone⟩ := hscalar arg hparse
    refine .of_ok ?_ ?_ s
    · exact hconf
    · exact hnone

theorem typed_scalarOfJson {ty : ArgType} (hsequence : ∀ element, ty ≠ .sequence element)
    (value : Json) (s : Desk σ) : Typed ty s (scalarOfJson files.openNoted ty value s) := by
  have hText : ∀ text, Typed ty s (if ty = .fd then openArg files.openNoted text s
      else ofExcept (parseScalar ty text) s) := by
    intro text
    split
    · rename_i hfd
      subst hfd
      exact typed_openArg files text s
    · rename_i hfd
      exact typed_parseScalar hfd hsequence text s
  cases value with
  | string text => exact hText text
  | number n => exact hText n.text
  | _ => exact .of_error _ s

theorem ofJson_scalar {openFile : OpenFile σ} {ty : ArgType}
    (hsequence : ∀ element, ty ≠ .sequence element) (value : Json) (s : σ) :
    ofJson openFile ty value s = scalarOfJson openFile ty value s := by
  cases ty with
  | sequence element => exact absurd rfl (hsequence element)
  | _ => rfl

theorem typed_ofJson (ty : ArgType) (value : Json) (s : Desk σ) :
    Typed ty s (ofJson files.openNoted ty value s) := by
  induction ty generalizing value s with
  | sequence element ih =>
    cases value with
    | array items =>
      refine (accounted_collect ih items s).map ?_ Arg.descriptorsAll_eq_flatMap
      intro args hargs
      rw [Arg.conformsTo, Arg.allConformTo_eq_all, List.all_eq_true]
      induction hargs with
      | nil => nofun
      | cons harg _ ih => exact List.forall_mem_cons.mpr ⟨harg, ih⟩
    | _ => exact .of_error _ s
  | _ => exact typed_scalarOfJson files (by nofun) value s

theorem typed_parse (ty : ArgType) (text : String) (s : Desk σ) :
    Typed ty s (parse files.openNoted ty text s) := by
  cases ty with
  | fd => exact typed_openArg files text s
  | sequence element =>
    simp only [parse]
    split
    · exact .of_error _ s
    · exact typed_ofJson files (.sequence element) _ s
  | _ => exact typed_parseScalar (by nofun) (by nofun) text s

theorem typed_parseAll (sig : Signature) (texts : List String) (s : Desk σ) :
    Accounted sig.Accepts Arg.descriptorsAll s (parseAll files.openNoted sig texts s) := by
  unfold parseAll
  split
  · exact .of_error _ s
  · rename_i hlen
    have hfirst : (sig.zip texts).map Prod.fst = sig :=
      List.map_fst_zip (Nat.le_of_eq (not_not.mp hlen))
    have hsound : sig.Accepts = List.Forall₂
        (fun (entry : ArgType × String) arg => arg.conformsTo entry.1 = true) (sig.zip texts) := by
      funext args
      conv_lhs => rw [Signature.Accepts, ← hfirst, List.forall₂_map_left_iff]
    have howned : Arg.descriptorsAll = List.flatMap Arg.descriptors :=
      funext Arg.descriptorsAll_eq_flatMap
    rw [hsound, howned]
    exact accounted_collect (fun entry s => typed_parse files entry.1 entry.2 s) _ s

/-! What the files are asked is the same if nobody watches. -/

theorem mapState_ofExcept (r : Except CommandError Arg) (s : Desk σ) :
    (ofExcept r s).mapState Desk.world = ofExcept r s.world := rfl

theorem mapState_openArg (path : String) (s : Desk σ) :
    (openArg files.openNoted path s).mapState Desk.world = openArg files.openFile path s.world := rfl

theorem mapState_scalarOfJson (ty : ArgType) (value : Json) (s : Desk σ) :
    (scalarOfJson files.openNoted ty value s).mapState Desk.world =
      scalarOfJson files.openFile ty value s.world := by
  cases value <;> simp only [scalarOfJson] <;> try split
  all_goals rfl

theorem mapState_ofJson (ty : ArgType) (value : Json) (s : Desk σ) :
    (ofJson files.openNoted ty value s).mapState Desk.world =
      ofJson files.openFile ty value s.world := by
  induction ty generalizing value s with
  | sequence element ih =>
    cases value with
    | array items =>
      simp only [ofJson]
      rw [← Step.mapState_collect ih]
      rfl
    | _ => rfl
  | _ => exact mapState_scalarOfJson files _ value s

theorem mapState_parse (ty : ArgType) (text : String) (s : Desk σ) :
    (parse files.openNoted ty text s).mapState Desk.world =
      parse files.openFile ty text s.world := by
  cases ty with
  | sequence element =>
    simp only [parse]
    split
    · rfl
    · exact mapState_ofJson files _ _ s
  | fd => exact mapState_openArg files text s
  | _ =>
    simp only [parse]
    exact mapState_ofExcept _ s

theorem mapState_parseAll (sig : Signature) (texts : List String) (s : Desk σ) :
    (parseAll files.openNoted sig texts s).mapState Desk.world =
      parseAll files.openFile sig texts s.world := by
  unfold parseAll
  split
  · rfl
  · exact Step.mapState_collect (fun entry s => mapState_parse files entry.1 entry.2 s) _ s

end

section

variable {σ : Type} {openFile : OpenFile σ} {sig : Signature} {texts : List String} {s : σ}
  {e : CommandError}

/-- A command line that fails does so at one of its entries, and the entries behind it do not
count. -/
theorem exists_take_of_parseAll_error (hlen : sig.length = texts.length)
    (h : (parseAll openFile sig texts s).result = .error e) :
    ∃ k < sig.length,
      (∃ args, (parseAll openFile (sig.take k) (texts.take k) s).result = .ok args) ∧
      parseAll openFile (sig.take (k + 1)) (texts.take (k + 1)) s = parseAll openFile sig texts s := by
  have hcollect : ∀ n, parseAll openFile (sig.take n) (texts.take n) s =
      Step.collect Arg.descriptors (fun entry s => parse openFile entry.1 entry.2 s)
        ((sig.zip texts).take n) s := by
    intro n
    have hlen' : (sig.take n).length = (texts.take n).length := by
      rw [List.length_take, List.length_take, hlen]
    simp only [parseAll, hlen', ne_eq, not_true_eq_false, if_false, List.zip, List.take_zipWith]
  have hwhole : parseAll openFile sig texts s =
      Step.collect Arg.descriptors (fun entry s => parse openFile entry.1 entry.2 s)
        (sig.zip texts) s := by
    simp only [parseAll, hlen, ne_eq, not_true_eq_false, if_false]
  rw [hwhole] at h
  obtain ⟨k, hk, hfront, hlast⟩ := Step.exists_take_of_collect_error h
  rw [List.length_zip, ← hlen, Nat.min_self] at hk
  refine ⟨k, hk, ?_, ?_⟩
  · rwa [hcollect]
  · rw [hcollect, hwhole, hlast]

end

end ArgText

theorem Builder.result_putArgs_of_accepts {sig : Signature} {args : List Arg}
    (h : sig.Accepts args) (b : Builder) :
    (b.putArgs sig args).result = .ok () ∨
      ∃ n, 2 ^ 32 ≤ n ∧ (b.putArgs sig args).result = .error (.lengthOverflow n) := by
  by_cases hfit : Arg.AllFit args
  · exact .inl ((result_putArgs_eq_ok_iff b).mpr ⟨h, hfit⟩)
  · exact .inr (result_putArgs_of_not_fits h hfit b)

theorem MessageText.code_of_build {t : MessageText} {order : ByteOrder} {sig : Signature}
    {args : List Arg} {e : CommandError} (hacc : sig.Accepts args)
    (h : (t.build order sig args).result = .error e) : e.code = ExitCode.dataInvalid := by
  rcases Builder.result_putArgs_of_accepts hacc (.start t.sender t.opcode order) with
    hput | ⟨n, -, hput⟩
  · simp only [build, hput, Builder.finish] at h
    split at h
    · cases h
      rfl
    · cases h
  · simp only [build, hput] at h
    cases h
    rfl

namespace ArgText

/-- From any texts, and whatever comes of opening files, there come arguments that conform to
their entries, so that a message is made of them unless something is too long. Or one of the
entries fails; then all files that were opened are closed, and the entries behind it count as
little as if they were not there. -/
theorem parseAll_accounted {σ : Type} (files : Files σ) (sig : Signature) (texts : List String)
    (w : σ) :
    let made := parseAll files.openNoted sig texts ⟨w, []⟩
    made.mapState Desk.world = parseAll files.openFile sig texts w ∧
    (∀ args, made.result = .ok args →
      args.length = sig.length ∧ sig.Accepts args ∧
      made.state.opened = Arg.descriptorsAll args ∧ made.closed = [] ∧
      (∀ b : Builder, (b.putArgs sig args).result = .ok () ∨
        ∃ n, 2 ^ 32 ≤ n ∧ (b.putArgs sig args).result = .error (.lengthOverflow n)) ∧
      ∀ (t : MessageText) (order : ByteOrder) (e : CommandError),
        (t.build order sig args).result = .error e → e.code = ExitCode.dataInvalid) ∧
    ∀ e, made.result = .error e →
      made.closed.Perm made.state.opened ∧
      (sig.length ≠ texts.length ∧ made.state = ⟨w, []⟩ ∨
        ∃ k < sig.length,
          (∃ args, (parseAll files.openNoted (sig.take k) (texts.take k) ⟨w, []⟩).result =
            .ok args) ∧
          parseAll files.openNoted (sig.take (k + 1)) (texts.take (k + 1)) ⟨w, []⟩ = made) := by
  intro made
  have hmade : Accounted sig.Accepts Arg.descriptorsAll ⟨w, []⟩ made :=
    typed_parseAll files sig texts ⟨w, []⟩
  refine ⟨mapState_parseAll files sig texts ⟨w, []⟩, ?_, ?_⟩
  · intro args h
    generalize made = step at hmade h
    cases hmade with
    | failed e w' opened closed hperm => cases h
    | done args' w' hacc =>
      cases h
      exact ⟨hacc.length_eq.symm, hacc, rfl, rfl, Builder.result_putArgs_of_accepts hacc,
        fun t order e => MessageText.code_of_build hacc⟩
  · intro e h
    constructor
    · generalize made = step at hmade h
      cases hmade with
      | done args' w' hacc => cases h
      | failed e w' opened closed hperm => exact hperm
    · by_cases hlen : sig.length = texts.length
      · exact .inr (exists_take_of_parseAll_error hlen h)
      · refine .inl ⟨hlen, ?_⟩
        simp only [made, parseAll, ne_eq, hlen, not_false_eq_true, if_true, Step.state_fail]

/-- The second file of a sequence is missing: the one before it and the one of the entry before are
closed, and the entry behind opens none. -/
example :
    let files : Files Nat := fun path next =>
      if path = "missing" then (.error (.system 2), next) else (.ok ⟨Int32.ofNat next⟩, next + 1)
    let made := parseAll files.openNoted [.fd, .sequence .fd, .fd]
      ["log", "[\"log\", \"missing\"]", "log"] ⟨3, []⟩
    made.state.opened = [⟨3⟩, ⟨4⟩] ∧ made.closed = [⟨3⟩, ⟨4⟩] := by decide +kernel

end ArgText

end FramedWire
