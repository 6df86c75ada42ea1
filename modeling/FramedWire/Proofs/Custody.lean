import FramedWire.Proofs.Puts
import FramedWire.Proofs.Reads
import FramedWire.Report
import Mathlib.Data.List.Nodup

/-!
# Custody of descriptors

A message is built, sealed, received and read, and descriptors are handed in and handed out on
the way. At every moment each descriptor that was handed in is in exactly one place: it waits in
the message, in whatever stage this is, or it belongs to one value that the caller holds, or it
was closed. `Custody.Moves` says how every operation moves descriptors between these places.
-/
namespace FramedWire

inductive Stage where
  | building (b : Builder)
  | outgoing (out : Outgoing)
  | reading (m : Message)
  | gone

/-- The descriptors that wait in the message. -/
def Stage.descriptors : Stage → List Descriptor
  | .building b => b.queue
  | .outgoing out => out.descriptors
  | .reading m => m.queue
  | .gone => []

inductive Act where
  | put (op : Builder.Op)
  | complete
  | receive
  | read (op : Message.Op)
  | finish
  | drop
  | report (sig? : Option Signature)

/-- The message is given up. -/
def Act.Ends : Act → Prop
  | .finish | .drop | .report _ => True
  | _ => False

def Stage.Admits : Stage → Act → Prop
  | .building _, .put _ | .building _, .complete | .outgoing _, .receive => True
  | .reading _, .read _ => True
  | .reading _, act => act.Ends
  | _, _ => False

structure Custody where
  stage : Stage
  /-- The values that the caller was given and holds, in the order they were read. -/
  held : List (List Arg) := []
  closed : List Descriptor := []
  /-- All descriptors that the caller handed in. -/
  given : List Descriptor := []

namespace Custody

def start (sender : UInt32) (opcode : UInt16) (order : ByteOrder) : Custody :=
  { stage := .building (.start sender opcode order) }

/-- The descriptors that belong to values the caller holds. -/
def handedOut (c : Custody) : List Descriptor := c.held.flatMap Arg.descriptorsAll

/-- All places in a row. -/
def places (c : Custody) : List Descriptor := c.handedOut ++ c.stage.descriptors ++ c.closed

/-- An act for another stage changes nothing: there is no such thing to act on. -/
def step (c : Custody) (act : Act) : Custody :=
  match c.stage, act with
  | .building b, .put op =>
    { c with
      stage := .building (op.run b).state
      closed := c.closed ++ (op.run b).closed
      given := c.given ++ op.given }
  | .building b, .complete =>
    { c with
      stage := match b.finish.result with
        | .ok out => .outgoing out
        | .error _ => .gone
      closed := c.closed ++ b.finish.closed }
  | .outgoing out, .receive => { c with stage := .reading out.toMessage }
  | .reading m, .read op =>
    { c with
      stage := .reading (op.run m).state
      held := match (op.run m).result with
        | .ok values => c.held ++ [values]
        | .error _ => c.held
      closed := c.closed ++ (op.run m).closed }
  | .reading m, .finish => { c with stage := .gone, closed := c.closed ++ m.finish.closed }
  | .reading m, .drop => { c with stage := .gone, closed := c.closed ++ m.drop }
  | .reading m, .report sig? =>
    { c with stage := .gone, closed := c.closed ++ (Report.ofMessage m sig?).closed }
  | _, _ => c

def run (c : Custody) (acts : List Act) : Custody := acts.foldl step c

inductive Moves (c : Custody) : Act → Custody → Prop
  /-- All that was handed in is queued. -/
  | accepted {b : Builder} {op : Builder.Op} (bytes : Bytes) : c.stage = .building b →
      op.run b = ⟨.ok (), b.extend bytes op.given, []⟩ →
      Moves c (.put op)
        { c with stage := .building (b.extend bytes op.given), given := c.given ++ op.given }
  /-- All that was handed in is closed, and the builder is as before. -/
  | rejected {b : Builder} {op : Builder.Op} (e : CodecError) : c.stage = .building b →
      op.run b = ⟨.error e, b, op.given⟩ →
      Moves c (.put op) { c with closed := c.closed ++ op.given, given := c.given ++ op.given }
  | completed {b : Builder} {out : Outgoing} : c.stage = .building b → b.finish = ⟨.ok out, []⟩ →
      out.descriptors = b.queue → Moves c .complete { c with stage := .outgoing out }
  | refused {b : Builder} (e : CodecError) : c.stage = .building b →
      b.finish = ⟨.error e, b.queue⟩ →
      Moves c .complete { c with stage := .gone, closed := c.closed ++ b.queue }
  | received {out : Outgoing} : c.stage = .outgoing out →
      Moves c .receive { c with stage := .reading out.toMessage }
  /-- The front of the queue is handed out with the value that was read. -/
  | handedOver {m m' : Message} {op : Message.Op} (values : List Arg) : c.stage = .reading m →
      op.run m = ⟨.ok values, m', []⟩ → m.Gives (Arg.descriptorsAll values) m' →
      Moves c (.read op) { c with stage := .reading m', held := c.held ++ [values] }
  /-- Just what was taken off the queue for the value is closed. -/
  | failed {m m' : Message} {op : Message.Op} (e : CodecError) (ds : List Descriptor) :
      c.stage = .reading m → op.run m = ⟨.error e, m', ds⟩ → m.Gives ds m' →
      Moves c (.read op) { c with stage := .reading m', closed := c.closed ++ ds }
  /-- All that is left is closed. -/
  | ended {m : Message} {act : Act} (ds : List Descriptor) : c.stage = .reading m → act.Ends →
      ds.Perm m.queue → Moves c act { c with stage := .gone, closed := c.closed ++ ds }
  | idle {act : Act} : ¬ c.stage.Admits act → Moves c act c

end Custody

theorem Builder.finish_cases (b : Builder) :
    (∃ out, b.finish = ⟨.ok out, []⟩ ∧ out.descriptors = b.queue) ∨
      ∃ e, b.finish = ⟨.error e, b.queue⟩ := by
  simp only [finish]
  split
  · exact .inr ⟨_, rfl⟩
  · exact .inl ⟨_, rfl, rfl⟩

theorem Message.closed_finish (m : Message) : m.finish.closed = m.queue := by
  unfold finish
  split
  · rfl
  split
  · rfl
  · rename_i hqueue
    exact (not_not.mp hqueue).symm

theorem Report.closed_ofMessage (m : Message) (sig? : Option Signature) :
    (ofMessage m sig?).closed.Perm m.queue := by
  cases sig? with
  | none => exact .refl _
  | some sig =>
    have hread := Message.spends_decodeArgs sig m
    unfold ofMessage
    dsimp only
    generalize m.decodeArgs sig = step at hread ⊢
    cases hread with
    | done args m' hgives =>
      have hperm : ([] ++ m'.finish.closed ++ Arg.descriptorsAll args).Perm m.queue := by
        rw [hgives.queue_eq, Message.closed_finish]
        exact List.perm_append_comm
      dsimp only
      split
      · exact hperm
      · exact hperm
    | failed e m' ds hgives =>
      dsimp only
      rw [hgives.queue_eq]
      exact .refl _

namespace Custody

variable {c c' : Custody} {act : Act}

theorem moves_put {b : Builder} (h : c.stage = .building b) (op : Builder.Op) :
    c.Moves (.put op) (c.step (.put op)) := by
  have hput := Builder.Op.atomic_run b op
  simp only [step, h]
  generalize hrun : op.run b = put at hput ⊢
  cases hput with
  | accepted bytes =>
    rw [List.append_nil]
    exact .accepted bytes h hrun
  | rejected e =>
    have hmoves := Moves.rejected e h hrun
    rw [← h]
    exact hmoves

theorem moves_complete {b : Builder} (h : c.stage = .building b) :
    c.Moves .complete (c.step .complete) := by
  simp only [step, h]
  rcases Builder.finish_cases b with ⟨out, hfinish, hqueue⟩ | ⟨e, hfinish⟩
  · rw [hfinish, List.append_nil]
    exact .completed h hfinish hqueue
  · rw [hfinish]
    exact .refused e h hfinish

theorem moves_read {m : Message} (h : c.stage = .reading m) (op : Message.Op) :
    c.Moves (.read op) (c.step (.read op)) := by
  have hread := Message.Op.spends_run m op
  simp only [step, h]
  generalize hrun : op.run m = read at hread ⊢
  cases hread with
  | done values m' hgives =>
    rw [List.append_nil]
    exact .handedOver values h hrun hgives
  | failed e m' ds hgives => exact .failed e ds h hrun hgives

theorem step_of_not_admits (h : ¬ c.stage.Admits act) : c.step act = c := by
  unfold step
  split
  all_goals first | rfl | skip
  all_goals
    rename_i hstage
    rw [hstage] at h
    exact absurd trivial h

theorem step_of_ends {m : Message} (h : c.stage = .reading m) (hends : act.Ends) :
    ∃ ds, ds.Perm m.queue ∧ c.step act = { c with stage := .gone, closed := c.closed ++ ds } := by
  cases act with
  | finish =>
    refine ⟨m.finish.closed, ?_, ?_⟩
    · rw [Message.closed_finish]
    · simp only [step, h]
  | drop =>
    refine ⟨m.drop, .refl _, ?_⟩
    simp only [step, h]
  | report sig? =>
    refine ⟨(Report.ofMessage m sig?).closed, Report.closed_ofMessage m sig?, ?_⟩
    simp only [step, h]
  | _ => exact hends.elim

theorem moves_end {m : Message} (h : c.stage = .reading m) (hends : act.Ends) :
    c.Moves act (c.step act) := by
  obtain ⟨ds, hperm, hstep⟩ := step_of_ends h hends
  rw [hstep]
  exact .ended ds h hends hperm

theorem moves_step (c : Custody) (act : Act) : c.Moves act (c.step act) := by
  by_cases hadmits : c.stage.Admits act
  · cases hstage : c.stage with
    | building b =>
      rw [hstage] at hadmits
      cases act with
      | put op => exact moves_put hstage op
      | complete => exact moves_complete hstage
      | _ => exact hadmits.elim
    | outgoing out =>
      rw [hstage] at hadmits
      cases act with
      | receive =>
        simp only [step, hstage]
        exact .received hstage
      | _ => exact hadmits.elim
    | reading m =>
      rw [hstage] at hadmits
      cases act with
      | read op => exact moves_read hstage op
      | finish => exact moves_end hstage trivial
      | drop => exact moves_end hstage trivial
      | report sig? => exact moves_end hstage trivial
      | _ => exact hadmits.elim
    | gone =>
      rw [hstage] at hadmits
      cases act <;> exact hadmits.elim
  · rw [step_of_not_admits hadmits]
    exact .idle hadmits

/-- Descriptors that are open: in values that the caller holds, or waiting in the message. -/
def kept (c : Custody) : List Descriptor := c.handedOut ++ c.stage.descriptors

/-- What an act does to the books: `taken` was handed in and `released` was closed. -/
structure Books (c : Custody) (taken released : List Descriptor) (c' : Custody) : Prop where
  given_eq : c'.given = c.given ++ taken
  closed_eq : c'.closed = c.closed ++ released
  held_prefix : c.held <+: c'.held
  kept_perm : (c.kept ++ taken).Perm (c'.kept ++ released)
  kept_sublist : c'.kept.Sublist (c.kept ++ taken)

theorem books_of_kept_eq (hkept : c'.kept = c.kept) (hgiven : c'.given = c.given)
    (hclosed : c'.closed = c.closed) (hheld : c.held <+: c'.held) : c.Books [] [] c' := by
  have hperm : (c.kept ++ []).Perm (c'.kept ++ []) := by rw [hkept]
  refine ⟨?_, ?_, hheld, hperm, ?_⟩
  · rw [hgiven, List.append_nil]
  · rw [hclosed, List.append_nil]
  · rw [hkept, List.append_nil]

theorem books_of_release {stage : Stage} {ds released : List Descriptor}
    (hqueue : c.stage.descriptors = ds ++ stage.descriptors) (hperm : released.Perm ds) :
    c.Books [] released { c with stage := stage, closed := c.closed ++ released } := by
  have hkept : c.kept ++ [] = c.handedOut ++ (ds ++ stage.descriptors) := by
    rw [List.append_nil, kept, hqueue]
  refine ⟨(List.append_nil _).symm, rfl, List.prefix_rfl, ?_, ?_⟩
  · calc c.kept ++ [] = c.handedOut ++ (ds ++ stage.descriptors) := hkept
      List.Perm _ (c.handedOut ++ (stage.descriptors ++ released)) :=
        (List.perm_append_comm.trans (hperm.symm.append_left _)).append_left _
      _ = c.handedOut ++ stage.descriptors ++ released := (List.append_assoc _ _ _).symm
  · rw [hkept]
    exact (List.sublist_append_right ds _).append_left _

theorem Moves.books (h : c.Moves act c') : ∃ taken released, c.Books taken released c' := by
  cases h with
  | @accepted b op bytes hstage _ =>
    have hkept : c.kept ++ op.given = c.handedOut ++ (b.queue ++ op.given) := by
      rw [kept, hstage, List.append_assoc]
      rfl
    refine ⟨op.given, [], rfl, (List.append_nil _).symm, List.prefix_rfl, ?_, ?_⟩
    · rw [hkept, List.append_nil]
      exact .refl _
    · rw [hkept]
      exact .refl _
  | @rejected b op e hstage _ =>
    exact ⟨op.given, op.given, rfl, rfl, List.prefix_rfl, .refl _, List.sublist_append_left _ _⟩
  | completed hstage _ hqueue =>
    refine ⟨[], [], books_of_kept_eq ?_ rfl rfl List.prefix_rfl⟩
    rw [kept, kept, hstage]
    exact congrArg (c.handedOut ++ ·) hqueue
  | @refused b e hstage _ =>
    refine ⟨[], b.queue, books_of_release ?_ (.refl _)⟩
    rw [hstage]
    exact (List.append_nil _).symm
  | received hstage =>
    refine ⟨[], [], books_of_kept_eq ?_ rfl rfl List.prefix_rfl⟩
    rw [kept, kept, hstage]
    rfl
  | @handedOver m m' op values hstage _ hgives =>
    refine ⟨[], [], books_of_kept_eq ?_ rfl rfl (List.prefix_append _ _)⟩
    simp only [kept, handedOut, hstage, Stage.descriptors, List.flatMap_append,
      List.flatMap_singleton, List.append_assoc, hgives.queue_eq]
  | @failed m m' op e ds hstage _ hgives =>
    refine ⟨[], ds, books_of_release ?_ (.refl _)⟩
    rw [hstage]
    exact hgives.queue_eq
  | @ended m act ds hstage _ hperm =>
    refine ⟨[], ds, books_of_release ?_ hperm⟩
    rw [hstage]
    exact (List.append_nil _).symm
  | idle _ => exact ⟨[], [], books_of_kept_eq rfl rfl rfl List.prefix_rfl⟩

structure Sound (c : Custody) : Prop where
  places_perm : c.places.Perm c.given
  kept_sublist : c.kept.Sublist c.given

theorem sound_start (sender : UInt32) (opcode : UInt16) (order : ByteOrder) :
    (start sender opcode order).Sound :=
  ⟨.refl _, .refl _⟩

theorem Books.sound {taken released : List Descriptor} (h : c.Books taken released c')
    (hc : c.Sound) : c'.Sound := by
  refine ⟨?_, ?_⟩
  · have hclosed : c'.places = c'.kept ++ (c.closed ++ released) :=
      congrArg (c'.kept ++ ·) h.closed_eq
    calc c'.places = c'.kept ++ (c.closed ++ released) := hclosed
      List.Perm _ (c'.kept ++ (released ++ c.closed)) := List.perm_append_comm.append_left _
      _ = c'.kept ++ released ++ c.closed := (List.append_assoc _ _ _).symm
      List.Perm _ (c.kept ++ taken ++ c.closed) := h.kept_perm.symm.append_right _
      _ = c.kept ++ (taken ++ c.closed) := List.append_assoc _ _ _
      List.Perm _ (c.kept ++ (c.closed ++ taken)) := List.perm_append_comm.append_left _
      _ = c.places ++ taken := (List.append_assoc _ _ _).symm
      List.Perm _ (c.given ++ taken) := hc.places_perm.append_right _
      _ = c'.given := h.given_eq.symm
  · rw [h.given_eq]
    exact h.kept_sublist.trans (hc.kept_sublist.append_right _)

theorem sound_run (hc : c.Sound) (acts : List Act) : (c.run acts).Sound := by
  induction acts generalizing c with
  | nil => exact hc
  | cons act acts ih =>
    obtain ⟨taken, released, hbooks⟩ := (moves_step c act).books
    exact ih (hbooks.sound hc)

structure Extends (c c' : Custody) : Prop where
  given_prefix : c.given <+: c'.given
  closed_prefix : c.closed <+: c'.closed
  held_prefix : c.held <+: c'.held

theorem Books.extends {taken released : List Descriptor} (h : c.Books taken released c') :
    c.Extends c' :=
  ⟨⟨taken, h.given_eq.symm⟩, ⟨released, h.closed_eq.symm⟩, h.held_prefix⟩

theorem extends_run (c : Custody) (acts : List Act) : c.Extends (c.run acts) := by
  induction acts generalizing c with
  | nil => exact ⟨List.prefix_rfl, List.prefix_rfl, List.prefix_rfl⟩
  | cons act acts ih =>
    obtain ⟨taken, released, hbooks⟩ := (moves_step c act).books
    have hfirst : c.Extends (c.step act) := hbooks.extends
    have hrest : (c.step act).Extends (c.run (act :: acts)) := ih (c.step act)
    exact ⟨hfirst.given_prefix.trans hrest.given_prefix,
      hfirst.closed_prefix.trans hrest.closed_prefix,
      hfirst.held_prefix.trans hrest.held_prefix⟩

/-- Descriptors in the hands of the caller are not closed, neither now nor later. -/
theorem not_mem_closed_of_handedOut (hc : c'.Sound) (hdistinct : c'.given.Nodup)
    (hextends : c.Extends c') {d : Descriptor} (hd : d ∈ c.handedOut) : d ∉ c'.closed := by
  have hplaces : (c'.kept ++ c'.closed).Nodup := hc.places_perm.nodup_iff.mpr hdistinct
  have hlater : d ∈ c'.kept := by
    obtain ⟨values, hvalues, hmem⟩ := List.mem_flatMap.mp hd
    apply List.mem_append_left
    exact List.mem_flatMap.mpr ⟨values, hextends.held_prefix.subset hvalues, hmem⟩
  intro hclosed
  exact (List.nodup_append.mp hplaces).2.2 d hlater d hclosed rfl

theorem count_places (hc : c.Sound) (hdistinct : c.given.Nodup) {d : Descriptor}
    (hd : d ∈ c.given) : c.places.count d = 1 := by
  have hplaces : c.places.Nodup := hc.places_perm.nodup_iff.mpr hdistinct
  exact List.nodup_iff_count_eq_one.mp hplaces d (hc.places_perm.mem_iff.mpr hd)

/-- Once the message is given up, what the caller does not hold is closed. -/
theorem closed_of_ends (hc : c.Sound) {m : Message} (hstage : c.stage = .reading m)
    (hends : act.Ends) {d : Descriptor} (hd : d ∈ c.given) :
    d ∈ c.handedOut ∨ d ∈ (c.step act).closed := by
  obtain ⟨ds, hperm, hstep⟩ := step_of_ends hstage hends
  have hplaces : d ∈ c.handedOut ++ m.queue ++ c.closed := by
    have hmem : d ∈ c.places := hc.places_perm.mem_iff.mpr hd
    rw [places, hstage] at hmem
    exact hmem
  rw [hstep]
  rcases List.mem_append.mp hplaces with hkept | hclosed
  · rcases List.mem_append.mp hkept with hheld | hqueue
    · exact .inl hheld
    · exact .inr (List.mem_append_right _ (hperm.mem_iff.mpr hqueue))
  · exact .inr (List.mem_append_left _ hclosed)

/-- What a run owes to its descriptors, at any moment and whatever comes `later`. -/
structure Accounts (c : Custody) (later : List Act) : Prop where
  /-- Exactly one place for every descriptor that was handed in, and no other descriptors. -/
  one_place : ∀ d ∈ c.given, c.places.count d = 1
  mem_given : ∀ d ∈ c.places, d ∈ c.given
  in_order : (c.handedOut ++ c.stage.descriptors).Sublist c.given
  moves : ∀ act, c.Moves act (c.step act)
  held_prefix : c.held <+: (c.run later).held
  not_closed : ∀ d ∈ c.handedOut, d ∉ (c.run later).closed
  closed_prefix : c.closed <+: (c.run later).closed
  /-- Giving the message up closes all that the caller does not hold. -/
  settled : ∀ m act, c.stage = .reading m → act.Ends →
    (c.step act).stage = .gone ∧ (c.step act).held = c.held ∧
      ∀ d ∈ c.given, d ∈ c.handedOut ∨ d ∈ (c.step act).closed

/-- Descriptors are conserved from the first put to the end of the message. -/
theorem accounts_run (sender : UInt32) (opcode : UInt16) (order : ByteOrder)
    (acts later : List Act)
    (hdistinct : (((start sender opcode order).run acts).run later).given.Nodup) :
    ((start sender opcode order).run acts).Accounts later := by
  have hsound : ((start sender opcode order).run acts).Sound :=
    sound_run (sound_start sender opcode order) acts
  -- from here on only soundness counts, and no longer how the moment was reached
  generalize (start sender opcode order).run acts = c at hdistinct hsound ⊢
  have hextends : c.Extends (c.run later) := extends_run c later
  have hgiven : c.given.Nodup := hdistinct.sublist hextends.given_prefix.sublist
  refine {
    one_place := fun d hd => count_places hsound hgiven hd
    mem_given := fun d hd => hsound.places_perm.mem_iff.mp hd
    in_order := hsound.kept_sublist
    moves := moves_step c
    held_prefix := hextends.held_prefix
    not_closed := ?_
    closed_prefix := hextends.closed_prefix
    settled := ?_ }
  · intro d hd
    exact not_mem_closed_of_handedOut (sound_run hsound later) hdistinct hextends hd
  · intro m act hstage hends
    obtain ⟨ds, -, hstep⟩ := step_of_ends hstage hends
    refine ⟨?_, ?_, fun d hd => closed_of_ends hsound hstage hends hd⟩
    · rw [hstep]
    · rw [hstep]

/-- A rejected put closes its descriptors, a failed list of arguments what it had taken, and the
end of the message what is left. -/
theorem accounts_run_seven :
    let acts : List Act := [.put (.pushFd ⟨3⟩), .put (.putArg (.sequence [.fd ⟨4⟩, .int 1])),
      .put (.putArgs [.fd, .fd] [.fd ⟨5⟩, .fd ⟨6⟩]), .complete, .receive,
      .read (.decodeArg .fd), .read (.decodeArgs [.fd, .int])]
    let c := (start 1 2 .little).run acts
    (c.run [.finish]).given.Nodup ∧ c.handedOut = [⟨3⟩] ∧ c.closed = [⟨4⟩, ⟨5⟩] ∧
      c.stage.descriptors = [⟨6⟩] ∧ (c.run [.finish]).closed = [⟨4⟩, ⟨5⟩, ⟨6⟩] ∧
      c.Accounts [.finish] :=
  ⟨by decide +kernel, by decide +kernel, by decide +kernel, by decide +kernel, by decide +kernel,
    accounts_run 1 2 .little _ [.finish] (by decide +kernel)⟩

end Custody

end FramedWire
