import FramedWire.Proofs.ControlLayout
import FramedWire.Proofs.Envelope
import FramedWire.Proofs.Journal
import Mathlib.Data.List.Forall2
import Mathlib.Data.List.Permutation

/-!
# What becomes of received descriptors

Descriptors arrive with any receive of a message, and a call may fail after any of them. A call
that gives a message gives all descriptors that arrived with it; a call that fails closes them
all. Over any number of calls no descriptor is closed twice, and none that was handed out is
closed at all.
-/
namespace FramedWire

structure Control.Layout where
  records : List Record
  ending : Option ControlError

namespace Control.Layout

def Fits (layout : Layout) (bytes : Bytes) : Prop := Laid 0 bytes layout.records layout.ending

/-- The descriptors of all rights records, in the order they are met. -/
def named (layout : Layout) : List Descriptor := Control.named layout.records

end Control.Layout

namespace Reader

variable {σ : Type}

structure Call where
  result : Except FrameError Message
  closed : List Descriptor
  journal : Journal

namespace Call

/-- The control bytes that were handed over during the call, in the order of arrival. -/
def control (c : Call) : Bytes := c.journal.control

def handedOut (c : Call) : List Descriptor :=
  match c.result with
  | .ok m => m.queue
  | .error _ => []

/-- What arrived during the call is laid out in this way. -/
def Brings (c : Call) (layout : Control.Layout) : Prop := layout.Fits c.control

/-- A message has all descriptors of well-formed control bytes. Without a message all that
stand before the first malformed record are closed. -/
def Settles (c : Call) (layout : Control.Layout) : Prop :=
  match c.result with
  | .ok m => layout.ending = none ∧ m.queue = layout.named ∧ c.closed = []
  | .error _ => c.closed = layout.named

end Call

def call (src : Source σ) (config : FrameConfig) (s : σ) : Call where
  result := (readMessage src config s).result
  closed := (readMessage src config s).closed
  journal := (readMessage src.journaled config (s, [])).state.2

/-- `n` calls in turn, whatever comes of each. -/
def calls (src : Source σ) (config : FrameConfig) : (n : Nat) → σ → List Call
  | 0, _ => []
  | n + 1, s => call src config s :: calls src config n (readMessage src config s).state

theorem control_call (src : Source σ) (config : FrameConfig) (s : σ) :
    (call src config s).control = (envelope src config s).control := by
  obtain ⟨entries, hread, hcontrol⟩ := readMessage_journaled src config s []
  rw [← hcontrol, Call.control, call, hread, List.nil_append]

/-- Every call settles what it received. -/
theorem settles_call (src : Source σ) (config : FrameConfig) (s : σ) {layout : Control.Layout}
    (hlimit : (call src config s).control.length < 2 ^ 31)
    (hlayout : (call src config s).Brings layout) :
    (call src config s).Settles layout := by
  rw [Call.Brings, control_call] at hlayout
  rw [control_call] at hlimit
  have hclose : Control.close (envelope src config s).control = layout.named :=
    Control.close_of_laid hlimit hlayout
  have hread : readMessage src config s = Framing.finishEnvelope config (envelope src config s) :=
    rfl
  unfold Call.Settles call
  rw [hread]
  generalize envelope src config s = e at hlimit hlayout hclose ⊢
  obtain ⟨s', control, outcome⟩ := e
  cases outcome with
  | error err => exact hclose
  | ok framed =>
    -- the bytes make a message, so that it hangs on the control bytes alone
    obtain ⟨records, ending⟩ := layout
    cases ending with
    | none =>
      have htake : Control.take control = .ok (Control.named records) :=
        Control.take_of_laid hlimit hlayout
      rw [Framing.finishEnvelope_of_take htake]
      exact ⟨rfl, rfl, rfl⟩
    | some err =>
      have htake : Control.take control = .error err :=
        Control.take_of_laid_malformed hlimit hlayout
      simp only [Framing.finishEnvelope, htake]
      exact hclose

section

variable {cs : List Call} {layouts : List Control.Layout}

theorem named_of_settles {c : Call} {layout : Control.Layout} (h : c.Settles layout) :
    c.handedOut ++ c.closed = layout.named := by
  obtain ⟨result, closed, journal⟩ := c
  cases result with
  | error e => exact h
  | ok m =>
    obtain ⟨-, hqueue, hclosed⟩ := h
    dsimp only at hclosed
    rw [hclosed, List.append_nil]
    exact hqueue

theorem flatMap_named_of_settles (h : List.Forall₂ Call.Settles cs layouts) :
    (cs.flatMap fun c => c.handedOut ++ c.closed) = layouts.flatMap (·.named) := by
  induction h with
  | nil => rfl
  | cons hfirst _ ih => rw [List.flatMap_cons, List.flatMap_cons, named_of_settles hfirst, ih]

/-- Nothing is handed out twice or closed twice, and nothing is both. -/
theorem nodup_of_settles (h : List.Forall₂ Call.Settles cs layouts)
    (hdistinct : (layouts.flatMap (·.named)).Nodup) :
    (cs.flatMap Call.handedOut ++ cs.flatMap Call.closed).Nodup := by
  have hperm : (cs.flatMap Call.handedOut ++ cs.flatMap Call.closed).Perm
      (cs.flatMap fun c => c.handedOut ++ c.closed) := List.flatMap_append_perm cs _ _
  rw [hperm.nodup_iff, flatMap_named_of_settles h]
  exact hdistinct

theorem exists_layouts (hlimit : ∀ c ∈ cs, c.control.length < 2 ^ 31) :
    ∃ layouts, List.Forall₂ Call.Brings cs layouts := by
  induction cs with
  | nil => exact ⟨[], .nil⟩
  | cons c cs ih =>
    obtain ⟨records, ending, hlaid⟩ := Control.exists_laid 0 c.control (hlimit c List.mem_cons_self)
    obtain ⟨layouts, hlayouts⟩ := ih fun c' hc' => hlimit c' (List.mem_cons_of_mem c hc')
    exact ⟨⟨records, ending⟩ :: layouts, .cons hlaid hlayouts⟩

/-- How a sequence of calls treats the descriptors that arrive. -/
structure Accounted (cs : List Call) (layouts : List Control.Layout) : Prop where
  settled : List.Forall₂ Call.Settles cs layouts
  closed_once : ∀ c ∈ cs, ∀ d ∈ c.closed, (cs.flatMap Call.closed).count d = 1
  /-- No call closes what it or any other call hands out. -/
  untouched : ∀ c ∈ cs, ∀ d ∈ c.handedOut, ∀ c' ∈ cs, d ∉ c'.closed

theorem accounted_of_settles (h : List.Forall₂ Call.Settles cs layouts)
    (hdistinct : (layouts.flatMap (·.named)).Nodup) : Accounted cs layouts := by
  have hnodup : (cs.flatMap Call.handedOut ++ cs.flatMap Call.closed).Nodup :=
    nodup_of_settles h hdistinct
  obtain ⟨-, hclosed, hdisjoint⟩ := List.nodup_append.mp hnodup
  refine ⟨h, ?_, ?_⟩
  · intro c hc d hd
    exact List.nodup_iff_count_eq_one.mp hclosed d (List.mem_flatMap.mpr ⟨c, hc, hd⟩)
  · intro c hc d hd c' hc' hd'
    have hout : d ∈ cs.flatMap Call.handedOut := List.mem_flatMap.mpr ⟨c, hc, hd⟩
    have hin : d ∈ cs.flatMap Call.closed := List.mem_flatMap.mpr ⟨c', hc', hd'⟩
    exact hdisjoint d hout d hin rfl

end

theorem settles_calls (src : Source σ) (config : FrameConfig) (n : Nat) (s : σ)
    {layouts : List Control.Layout}
    (hlimit : ∀ c ∈ calls src config n s, c.control.length < 2 ^ 31)
    (hlayouts : List.Forall₂ Call.Brings (calls src config n s) layouts) :
    List.Forall₂ Call.Settles (calls src config n s) layouts := by
  induction n generalizing s layouts with
  | zero =>
    cases hlayouts
    exact .nil
  | succ n ih =>
    cases hlayouts with
    | cons hfirst hrest =>
      have hcall := settles_call src config s (hlimit _ List.mem_cons_self) hfirst
      exact .cons hcall (ih _ (fun c hc => hlimit c (List.mem_cons_of_mem _ hc)) hrest)

/-- Every descriptor that arrives is handed out or closed, by the call in which it arrives. -/
theorem calls_accounted (src : Source σ) (config : FrameConfig) (n : Nat) (s : σ)
    (hlimit : ∀ c ∈ calls src config n s, c.control.length < 2 ^ 31) :
    (∃ layouts, List.Forall₂ Call.Brings (calls src config n s) layouts) ∧
      ∀ layouts, List.Forall₂ Call.Brings (calls src config n s) layouts →
        (layouts.flatMap (·.named)).Nodup → Accounted (calls src config n s) layouts := by
  refine ⟨exists_layouts hlimit, ?_⟩
  -- each call settles its own layout, and distinctness keeps the calls apart
  intro layouts hlayouts hdistinct
  exact accounted_of_settles (settles_calls src config n s hlimit hlayouts) hdistinct

/-- A message that comes with a descriptor, and then a connection that fails after a rights record
and a malformed one. -/
theorem calls_accounted_two :
    let script : Script :=
      { items := [{ data := [1, 0, 0, 0], control := Control.encodeRights [⟨7⟩] },
          { data := [3, 0, 8, 0] },
          { data := [2, 0, 0, 0]
            control := Control.encodeRights [⟨8⟩] ++ Bytes.ofNat 16 5 },
          { data := [], failure? := some (.io (.system 104)) }] }
    let cs := calls Script.source {} 2 script
    let layouts : List Control.Layout :=
      [⟨[Control.rightsRecord [⟨7⟩]], none⟩,
        ⟨[Control.rightsRecord [⟨8⟩]], some (.malformed 24 5 16)⟩]
    (∀ c ∈ cs, c.control.length < 2 ^ 31) ∧
      List.Forall₂ Call.Brings cs layouts ∧
      (layouts.flatMap (·.named)).Nodup ∧ cs.map Call.handedOut = [[⟨7⟩], []] ∧
      cs.map Call.closed = [[], [⟨8⟩]] ∧ Accounted cs layouts := by
  intro script cs layouts
  have hcontrol : cs.map Call.control =
      [Control.encodeRights [⟨7⟩], Control.encodeRights [⟨8⟩] ++ Bytes.ofNat 16 5] := by
    simp only [cs, script]
    cbv
  have hout : cs.map Call.handedOut = [[⟨7⟩], []] := by
    simp only [cs, script]
    cbv
  have hclosed : cs.map Call.closed = [[], [⟨8⟩]] := by
    simp only [cs, script]
    cbv
  have hlimit : ∀ c ∈ cs, c.control.length < 2 ^ 31 := by
    intro c hc
    have hmem : c.control ∈ cs.map Call.control := List.mem_map_of_mem hc
    rw [hcontrol, List.mem_cons, List.mem_singleton] at hmem
    rcases hmem with heq | heq
    · rw [heq]
      decide
    · rw [heq]
      decide
  have hlayouts : List.Forall₂ Call.Brings cs layouts := by
    have hfits : List.Forall₂ (fun bytes layout => Control.Layout.Fits layout bytes)
        (cs.map Call.control) layouts := by
      rw [hcontrol]
      refine .cons ?_ (.cons ?_ .nil)
      · exact .record (Control.rightsRecord [⟨7⟩]) (Bytes.zeros 4) rfl (.short (by decide))
      · exact .record (Control.rightsRecord [⟨8⟩]) (Bytes.zeros 4) rfl
          (.malformed (by decide) (.inl (by decide)))
    rw [List.forall₂_map_left_iff] at hfits
    exact hfits
  have hdistinct : (layouts.flatMap (·.named)).Nodup := by decide
  exact ⟨hlimit, hlayouts, hdistinct, hout, hclosed,
    (calls_accounted Script.source {} 2 script hlimit).2 layouts hlayouts hdistinct⟩

end Reader

end FramedWire
