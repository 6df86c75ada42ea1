import FramedWire.Program
import Mathlib.Data.List.Permutation

/-!
# What a reception tells

Listening does not depend on what is done with the messages: `Reception.hear` is all that comes
over some connections, one after the other, up to the first that breaks off. A reception that was
asked for some number of reports makes these of the first messages that can be reported, and it
leaves the connections as they are when the last of them was read. Since it counts only after a
report was made, it makes one report even if it was asked for none.
-/
namespace FramedWire

namespace Reception

/-- The outcome of telling no more than `k + 1` entries: it is `enough` if there are so many, with
what stands beside the last of them, and it is `otherwise` if there are less. -/
structure UpTo {τ ε : Type} (told : List (Report × τ)) (k : Nat) (enough : ε) (otherwise : ε × τ)
    (reports : List Report) (outcome : ε) (rest : τ) : Prop where
  reports_eq : reports = (told.take (k + 1)).map Prod.fst
  of_some : ∀ last, told[k]? = some last → outcome = enough ∧ rest = last.2
  of_none : told[k]? = none → outcome = otherwise.1 ∧ rest = otherwise.2

namespace UpTo

variable {τ ε : Type} {told told' : List (Report × τ)} {k : Nat} {enough outcome : ε}
  {otherwise otherwise' : ε × τ} {reports : List Report} {rest : τ}

theorem nil (k : Nat) (enough : ε) (otherwise : ε × τ) :
    UpTo [] k enough otherwise [] otherwise.1 otherwise.2 :=
  ⟨rfl, nofun, fun _ => ⟨rfl, rfl⟩⟩

theorem single (report : Report) (rest : τ) (told : List (Report × τ)) (enough : ε)
    (otherwise : ε × τ) : UpTo ((report, rest) :: told) 0 enough otherwise [report] enough rest := by
  refine ⟨rfl, ?_, nofun⟩
  intro last hlast
  cases hlast
  exact ⟨rfl, rfl⟩

theorem cons (h : UpTo told k enough otherwise reports outcome rest) (entry : Report × τ) :
    UpTo (entry :: told) (k + 1) enough otherwise (entry.1 :: reports) outcome rest := by
  refine ⟨?_, ?_, ?_⟩
  · rw [h.reports_eq, List.take_succ_cons, List.map_cons]
  · rw [List.getElem?_cons_succ]
    exact h.of_some
  · rw [List.getElem?_cons_succ]
    exact h.of_none

theorem append_right (h : UpTo told k enough otherwise reports outcome rest)
    (hk : k < told.length) (told' : List (Report × τ)) (otherwise' : ε × τ) :
    UpTo (told ++ told') k enough otherwise' reports outcome rest := by
  have hentry : (told ++ told')[k]? = told[k]? := List.getElem?_append_left hk
  refine ⟨?_, ?_, ?_⟩
  · rw [h.reports_eq, List.take_append_of_le_length hk]
  · rw [hentry]
    exact h.of_some
  · rw [hentry, List.getElem?_eq_none_iff]
    intro hle
    exact absurd hk (Nat.not_lt.mpr hle)

theorem append_left {m : Nat} (hlength : told.length = m) (hk : m ≤ k)
    (h : UpTo told' (k - m) enough otherwise reports outcome rest) :
    UpTo (told ++ told') k enough otherwise (told.map Prod.fst ++ reports) outcome rest := by
  subst hlength
  have hentry : (told ++ told')[k]? = told'[k - told.length]? := List.getElem?_append_right hk
  refine ⟨?_, ?_, ?_⟩
  · have hcount : k + 1 - told.length = k - told.length + 1 := by omega
    rw [h.reports_eq, List.take_append, List.take_of_length_le (Nat.le_succ_of_le hk), hcount,
      List.map_append]
  · rw [hentry]
    exact h.of_some
  · rw [hentry]
    exact h.of_none

theorem map {ε' τ' : Type} (h : UpTo told k enough otherwise reports outcome rest) (f : ε → ε')
    (g : τ → τ') :
    UpTo (told.map (Prod.map id g)) k (f enough) (otherwise.map f g) reports (f outcome)
      (g rest) := by
  refine ⟨?_, ?_, ?_⟩
  · rw [h.reports_eq, ← List.map_take, List.map_map]
    rfl
  · intro last hlast
    rw [List.getElem?_map, Option.map_eq_some_iff] at hlast
    obtain ⟨entry, hentry, rfl⟩ := hlast
    obtain ⟨houtcome, hrest⟩ := h.of_some entry hentry
    exact ⟨congrArg f houtcome, congrArg g hrest⟩
  · intro hnone
    rw [List.getElem?_map, Option.map_eq_none_iff] at hnone
    obtain ⟨houtcome, hrest⟩ := h.of_none hnone
    exact ⟨congrArg f houtcome, congrArg g hrest⟩

end UpTo

/-- The reports that can be made of some messages. What stands beside a message stands beside its
report. -/
def told {τ : Type} (sig? : Option Signature) (messages : List (Message × τ)) :
    List (Report × τ) :=
  messages.filterMap fun (m, rest) =>
    (Report.ofMessage m sig?).result.toOption.map fun report => (report, rest)

section

variable {τ τ' : Type} {sig? : Option Signature}

theorem told_cons_of_error {m : Message} {e : CommandError}
    (h : (Report.ofMessage m sig?).result = .error e) (rest : τ) (messages : List (Message × τ)) :
    told sig? ((m, rest) :: messages) = told sig? messages := by
  simp [told, h, Except.toOption]

theorem told_cons_of_ok {m : Message} {report : Report}
    (h : (Report.ofMessage m sig?).result = .ok report) (rest : τ)
    (messages : List (Message × τ)) :
    told sig? ((m, rest) :: messages) = (report, rest) :: told sig? messages := by
  simp [told, h, Except.toOption]

theorem told_append (messages messages' : List (Message × τ)) :
    told sig? (messages ++ messages') = told sig? messages ++ told sig? messages' :=
  List.filterMap_append

theorem told_map (f : τ → τ') (messages : List (Message × τ)) :
    told sig? (messages.map (Prod.map id f)) = (told sig? messages).map (Prod.map id f) := by
  induction messages with
  | nil => rfl
  | cons entry messages ih =>
    obtain ⟨m, rest⟩ := entry
    rw [List.map_cons]
    rcases hreport : (Report.ofMessage m sig?).result with e | report
    · rw [told_cons_of_error hreport, ← ih]
      exact told_cons_of_error hreport _ _
    · rw [told_cons_of_ok hreport, List.map_cons, ← ih]
      exact told_cons_of_ok hreport _ _

end

structure Transcript (σ : Type) where
  messages : List (Message × σ)
  error : FrameError
  connection : σ

namespace Transcript

/-- An entry before the others. -/
def cons {σ : Type} (entry : Message × σ) (t : Transcript σ) : Transcript σ :=
  { t with messages := entry :: t.messages }

@[simp] theorem messages_cons {σ : Type} (entry : Message × σ) (t : Transcript σ) :
    (t.cons entry).messages = entry :: t.messages := rfl

/-- How a service ends that tells all of it. -/
def ending {σ : Type} (t : Transcript σ) : Ending :=
  match t.error with
  | .connectionClosed => .left
  | e => .failed (.ofFrame "receive failed" e)

theorem ending_of_closed {σ : Type} {t : Transcript σ} (h : t.error = .connectionClosed) :
    t.ending = .left := by
  rw [ending, h]

theorem ending_of_ne {σ : Type} {t : Transcript σ} (h : t.error ≠ .connectionClosed) :
    t.ending = .failed (.ofFrame "receive failed" t.error) := by
  unfold ending
  split
  · rename_i hclosed
    exact absurd hclosed h
  · rfl

end Transcript

/-- All that comes over some connections in turn: the messages, each with the connections once it
was read. A client that leaves on a message boundary makes room for the next one, and anything
else that ends a connection is a failure. -/
structure Heard (σ : Type) where
  messages : List (Message × List σ)
  failure? : Option FrameError
  connections : List σ

section

variable {σ : Type} (src : FiniteSource σ) (config : FrameConfig) (sig? : Option Signature)

/-- Read one connection until there is no further message. -/
def transcript (s : σ) : Transcript σ :=
  let step := Reader.readMessage src.toSource config s
  match _hread : step.result with
  | .error e => ⟨[], e, step.state⟩
  | .ok m => (transcript step.state).cons (m, step.state)
termination_by src.supply s
decreasing_by exact Reader.supply_readMessage_lt src _hread

/-- Read the connections in turn, whatever is asked for. -/
def hear : List σ → Heard σ
  | [] => ⟨[], none, []⟩
  | client :: clients =>
    let t := transcript src config client
    let messages := t.messages.map (Prod.map id (· :: clients))
    match t.error with
    | .connectionClosed =>
      let rest := hear clients
      { rest with messages := messages ++ rest.messages }
    | e => ⟨messages, some e, t.connection :: clients⟩

variable {src config sig?}

theorem transcript_of_error {s : σ} {e : FrameError}
    (h : (Reader.readMessage src.toSource config s).result = .error e) :
    transcript src config s = ⟨[], e, (Reader.readMessage src.toSource config s).state⟩ := by
  rw [transcript]
  split
  · rename_i e' he'
    cases he'.symm.trans h
    rfl
  · rename_i m hm
    cases hm.symm.trans h

theorem transcript_of_ok {s : σ} {m : Message}
    (h : (Reader.readMessage src.toSource config s).result = .ok m) :
    transcript src config s =
      (transcript src config (Reader.readMessage src.toSource config s).state).cons
        (m, (Reader.readMessage src.toSource config s).state) := by
  rw [transcript]
  split
  · rename_i e he
    cases he.symm.trans h
  · rename_i m' hm'
    cases hm'.symm.trans h
    rfl

variable (src config sig?) in
/-- The service of one client tells what the client sends, until it is enough. -/
theorem serve_upTo {n printed k : Nat} (h : max n 1 = printed + (k + 1)) (s : σ) :
    UpTo (told sig? (transcript src config s).messages) k .satisfied
      ((transcript src config s).ending, (transcript src config s).connection)
      (serve src config sig? (some n) printed s).reports
      (serve src config sig? (some n) printed s).ending
      (serve src config sig? (some n) printed s).connection := by
  fun_induction serve src config sig? (some n) printed s generalizing k with
  | case1 printed s step =>
    rename_i hread
    rw [transcript_of_error hread]
    exact .nil k _ (Ending.left, step.state)
  | case2 printed s step e hother =>
    rename_i hread
    rw [transcript_of_error hread, Transcript.ending_of_ne hother]
    exact .nil k _ (Ending.failed (.ofFrame "receive failed" e), step.state)
  | case3 printed s step m hread ended closed e hreport =>
    rename_i ih
    rw [transcript_of_ok hread, Transcript.messages_cons, told_cons_of_error hreport]
    exact ih h
  | case4 printed s step m hread ended closed report hreport =>
    rename_i henough
    -- The report is made before the count is looked at, so even `n = 0` comes to one report here.
    have hn : n ≤ printed + 1 := by simpa [isEnough] using henough
    have hk : k = 0 := by omega
    subst hk
    rw [transcript_of_ok hread, Transcript.messages_cons, told_cons_of_ok hreport]
    exact .single report step.state _ _ _
  | case5 printed s step m hread ended closed report hreport hmore =>
    rename_i ih
    have hn : printed + 1 < n := by simpa [isEnough] using hmore
    obtain ⟨k, rfl⟩ : ∃ k', k = k' + 1 := ⟨k - 1, by omega⟩
    rw [transcript_of_ok hread, Transcript.messages_cons, told_cons_of_ok hreport]
    exact (ih (by omega)).cons (report, step.state)

theorem hear_of_closed {client : σ}
    (h : (transcript src config client).error = .connectionClosed) (clients : List σ) :
    hear src config (client :: clients) =
      { hear src config clients with
        messages := (transcript src config client).messages.map (Prod.map id (· :: clients)) ++
          (hear src config clients).messages } := by
  simp only [hear, h]

theorem hear_of_ne {client : σ} (h : (transcript src config client).error ≠ .connectionClosed)
    (clients : List σ) :
    hear src config (client :: clients) =
      ⟨(transcript src config client).messages.map (Prod.map id (· :: clients)),
        some (transcript src config client).error,
        (transcript src config client).connection :: clients⟩ := by
  rw [hear]
  split
  · rename_i hclosed
    exact absurd hclosed h
  · rfl

end

end Reception

/-- What the end of a service means for the reception: it goes on if a client has left. -/
def Ending.result? : Ending → Option (Except CommandError Unit)
  | .left => none
  | .satisfied => some (.ok ())
  | .failed e => some (.error e)

namespace Reception

/-- The result of a reception that is never satisfied. -/
def Heard.result? {σ : Type} (heard : Heard σ) : Option (Except CommandError Unit) :=
  heard.failure?.map fun e => .error (.ofFrame "receive failed" e)

section

variable {σ : Type} {src : FiniteSource σ} {config : FrameConfig} {sig? : Option Signature}

theorem run_of_left {count? : Option Nat} {printed : Nat} {client : σ}
    (h : (serve src config sig? count? printed client).ending = .left) (clients : List σ) :
    run src config sig? count? printed (client :: clients) =
      (run src config sig? count?
        (printed + (serve src config sig? count? printed client).reports.length) clients).after
        (serve src config sig? count? printed client).reports
        (serve src config sig? count? printed client).closed := by
  simp only [run, h]

theorem run_of_ne_left {count? : Option Nat} {printed : Nat} {client : σ}
    (h : (serve src config sig? count? printed client).ending ≠ .left) (clients : List σ) :
    run src config sig? count? printed (client :: clients) =
      ⟨(serve src config sig? count? printed client).reports,
        (serve src config sig? count? printed client).ending.result?,
        (serve src config sig? count? printed client).connection :: clients,
        (serve src config sig? count? printed client).closed⟩ := by
  simp only [run]
  split
  · rename_i hending
    rw [hending]
    rfl
  · rename_i e hending
    rw [hending]
    rfl
  · rename_i hleft
    exact absurd hleft h

variable (src config sig?) in
/-- A reception tells what is heard, until it is enough. -/
theorem run_upTo {n printed k : Nat} (h : max n 1 = printed + (k + 1)) (clients : List σ) :
    UpTo (told sig? (hear src config clients).messages) k (some (.ok ()))
      ((hear src config clients).result?, (hear src config clients).connections)
      (run src config sig? (some n) printed clients).reports
      (run src config sig? (some n) printed clients).result?
      (run src config sig? (some n) printed clients).connections := by
  induction clients generalizing printed k with
  | nil => exact .nil k _ (none, [])
  | cons client clients ih =>
    let entries := told sig? (transcript src config client).messages
    have hserve := serve_upTo src config sig? h client
    have hmap := hserve.map Ending.result? (· :: clients)
    by_cases hclosed : (transcript src config client).error = .connectionClosed
    · rw [hear_of_closed hclosed, told_append, told_map]
      rcases Nat.lt_or_ge k entries.length with hk | hk
      · -- This client sends enough; what the others would send is not heard.
        have hending := (hserve.of_some _ (List.getElem?_eq_getElem hk)).1
        rw [run_of_ne_left (by rw [hending]; exact nofun)]
        exact hmap.append_right (by rwa [List.length_map]) _ _
      · -- All of it is told, and the others are asked for that many reports less.
        have hending := (hserve.of_none (List.getElem?_eq_none hk)).1
        rw [Transcript.ending_of_closed hclosed] at hending
        have hreports := hserve.reports_eq
        rw [List.take_of_length_le (Nat.le_succ_of_le hk)] at hreports
        rw [run_of_left hending, hreports, List.length_map]
        have hcount : max n 1 = printed + entries.length + (k - entries.length + 1) := by omega
        have hfst : (entries.map (Prod.map id (· :: clients))).map Prod.fst =
            entries.map Prod.fst := by
          rw [List.map_map]
          rfl
        have hrest := (ih hcount).append_left (List.length_map (Prod.map id (· :: clients))) hk
        rw [hfst] at hrest
        exact hrest
    · -- Enough or not, this client is the last one.
      rw [hear_of_ne hclosed, told_map]
      have hending : (serve src config sig? (some n) printed client).ending ≠ .left := by
        rcases hlast : entries[k]? with _ | last
        · rw [(hserve.of_none hlast).1, Transcript.ending_of_ne hclosed]
          exact nofun
        · rw [(hserve.of_some last hlast).1]
          exact nofun
      rw [run_of_ne_left hending]
      rw [Transcript.ending_of_ne hclosed] at hmap
      exact hmap

end

end Reception

namespace Program

/-- Listening prints what the reception of the clients tells, once the listener is bound. -/
theorem listen_of_bound {text? : Option String} {sig? : Option Signature} {path : String}
    {around : Surroundings} {listener : Listener} (hsig : parseSignature text? = .ok sig?)
    (hbound : (Listener.bind (SocketPath.ofArgument path around.runtimeDir?)
      Listener.defaultMode around.files).result = .ok listener)
    (format : OutputFormat) (order : ByteOrder) (count? : Option Nat) :
    let reception :=
      Reception.run (SocketPair.source .right) { order } sig? count? 0 around.clients
    (listen format order path text? count? around).output =
        printAll format reception.reports ∧
      (listen format order path text? count? around).result? = reception.result? := by
  simp only [listen, hsig, hbound, and_self]

/-- What is told if `n` reports are asked for, whatever the clients send and however it arrives:
the reports of the first `n` messages that can be reported, and then the reception is over and
leaves everything as it is after the last of them was read. If there are not so many, all of them
are reported, and it ends as its last connection does. Since it counts a report once it is made,
it acts as if asked for one report if it is asked for none. -/
theorem listen_tells (n : Nat) :
    (∀ (σ : Type) (src : FiniteSource σ) (config : FrameConfig) (sig? : Option Signature)
        (clients : List σ),
      let heard := Reception.hear src config clients
      let told := Reception.told sig? heard.messages
      let reception := Reception.run src config sig? (some n) 0 clients
      reception.reports = (told.take (max n 1)).map Prod.fst ∧
      (∀ last, told[max n 1 - 1]? = some last →
        reception.result? = some (.ok ()) ∧ reception.connections = last.2) ∧
      (told.length < max n 1 →
        reception.result? = heard.result? ∧ reception.connections = heard.connections)) ∧
    ∀ (format : OutputFormat) (order : ByteOrder) (path : String) (text? : Option String)
        (around : Surroundings) (sig? : Option Signature) (listener : Listener),
      parseSignature text? = .ok sig? →
      (Listener.bind (SocketPath.ofArgument path around.runtimeDir?) Listener.defaultMode
        around.files).result = .ok listener →
      let reception :=
        Reception.run (SocketPair.source .right) { order } sig? (some n) 0 around.clients
      let outcome := listen format order path text? (some n) around
      outcome.output = printAll format reception.reports ∧ outcome.result? = reception.result? := by
  refine ⟨?_, ?_⟩
  · intro σ src config sig? clients heard told reception
    have hcount : max n 1 = 0 + (max n 1 - 1 + 1) := by omega
    have hrun := Reception.run_upTo src config sig? hcount clients
    have hlimit : max n 1 - 1 + 1 = max n 1 := by omega
    refine ⟨?_, hrun.of_some, ?_⟩
    · rw [← hlimit]
      exact hrun.reports_eq
    · intro hfew
      exact hrun.of_none (List.getElem?_eq_none (Nat.le_sub_one_of_lt hfew))
  · intro format order path text? around sig? listener hsig hbound
    exact listen_of_bound hsig hbound format order (some n)

/-- A connection on which these bytes came, and which the client has closed. -/
def client (bytes : Bytes) : SocketPair where
  left := { isOpen := false }
  right := { inbox := [⟨bytes, []⟩] }

/-- A client that leaves after one message, and one that sends the beginning of another message
after its first one. The beginning is not read. -/
theorem listen_tells_two :
    let around : Surroundings :=
      { clients := [client [1, 0, 0, 0, 0, 0, 8, 0], client [2, 0, 0, 0, 3, 0, 9, 0, 7, 4, 0]] }
    let first : Report := { header := ⟨1, 0, 8⟩, order := .little, fds := 0, payload? := some "" }
    let second : Report :=
      { header := ⟨2, 3, 9⟩, order := .little, fds := 0, payload? := some "07" }
    let outcome := listen .json .little "l" none (some 2) around
    outcome.output = printAll .json [first, second] ∧ outcome.result? = some (.ok ()) ∧
      (Reception.run (SocketPair.source .right) {} none (some 2) 0 around.clients).connections =
        [client [4, 0]] := by
  intro around first second outcome
  let src := SocketPair.source .right
  let left : SocketPair := { left := { isOpen := false } }
  have hleaves : Reader.readMessage src.toSource {} (client [1, 0, 0, 0, 0, 0, 8, 0]) =
      ⟨.ok (.framed ⟨1, 0, 8⟩ [] [] .little), left, []⟩ := by
    cbv
  have hleft : Reader.readMessage src.toSource {} left = ⟨.error .connectionClosed, left, []⟩ := by
    cbv
  have hstays : Reader.readMessage src.toSource {} (client [2, 0, 0, 0, 3, 0, 9, 0, 7, 4, 0]) =
      ⟨.ok (.framed ⟨2, 3, 9⟩ [7] [] .little), client [4, 0], []⟩ := by
    cbv
  have hcut : Reader.readMessage src.toSource {} (client [4, 0]) =
      ⟨.error (.truncated 8 2), left, []⟩ := by
    cbv
  have hfirst : Reception.transcript src {} (client [1, 0, 0, 0, 0, 0, 8, 0]) =
      ⟨[(.framed ⟨1, 0, 8⟩ [] [] .little, left)], .connectionClosed, left⟩ := by
    rw [Reception.transcript_of_ok (congrArg Step.result hleaves), hleaves,
      Reception.transcript_of_error (congrArg Step.result hleft), hleft]
    rfl
  have hsecond : Reception.transcript src {} (client [2, 0, 0, 0, 3, 0, 9, 0, 7, 4, 0]) =
      ⟨[(.framed ⟨2, 3, 9⟩ [7] [] .little, client [4, 0])], .truncated 8 2, left⟩ := by
    rw [Reception.transcript_of_ok (congrArg Step.result hstays), hstays,
      Reception.transcript_of_error (congrArg Step.result hcut), hcut]
    rfl
  have htold : Reception.told none (Reception.hear src {} around.clients).messages =
      [(first, [left, client [2, 0, 0, 0, 3, 0, 9, 0, 7, 4, 0]]), (second, [client [4, 0]])] := by
    simp only [around, Reception.hear, hfirst, hsecond]
    rfl
  have hlocate : FileSystem.empty.locate "l" = .ok ⟨["tmp", "work", "l"], false⟩ := by
    have hnul : "l".contains '\x00' = false := by simp
    simp only [FileSystem.locate, hnul]
    rfl
  have hclear : Listener.clear "l" .empty = .ok .empty := by
    simp only [Listener.clear, FileSystem.find, hlocate]
    rfl
  have hvacancy : FileSystem.empty.vacancy "l" = .ok ["tmp", "work", "l"] := by
    simp only [FileSystem.vacancy, hlocate]
    rfl
  have hbound : (Listener.bind "l" Listener.defaultMode .empty).result = .ok ⟨"l", 0⟩ := by
    simp only [Listener.bind, hclear, hvacancy]
    rfl
  obtain ⟨hall, hlisten⟩ := listen_tells 2
  obtain ⟨hreports, hsome, -⟩ := hall SocketPair src {} none around.clients
  obtain ⟨hresult, hrest⟩ := hsome (second, [client [4, 0]]) (by rw [htold]; rfl)
  obtain ⟨houtput, hend⟩ :=
    hlisten .json .little "l" none around none ⟨"l", 0⟩ rfl hbound
  rw [htold] at hreports
  exact ⟨houtput.trans (congrArg (printAll .json) hreports), hend.trans hresult, hrest⟩

/-- More reports than were asked for: there is one, although there should be none. -/
theorem not_length_reports_le : ¬ ∀ (n : Nat) (clients : List SocketPair),
    (Reception.run (SocketPair.source .right) {} none (some n) 0 clients).reports.length ≤ n := by
  intro hle
  let src := SocketPair.source .right
  let left : SocketPair := { left := { isOpen := false } }
  have hread : Reader.readMessage src.toSource {} (client [1, 0, 0, 0, 0, 0, 12, 0, 5, 0, 0, 0]) =
      ⟨.ok (.framed ⟨1, 0, 12⟩ [5, 0, 0, 0] [] .little), left, []⟩ := by
    cbv
  have hleft : Reader.readMessage src.toSource {} left = ⟨.error .connectionClosed, left, []⟩ := by
    cbv
  have htranscript : Reception.transcript src {} (client [1, 0, 0, 0, 0, 0, 12, 0, 5, 0, 0, 0]) =
      ⟨[(.framed ⟨1, 0, 12⟩ [5, 0, 0, 0] [] .little, left)], .connectionClosed, left⟩ := by
    rw [Reception.transcript_of_ok (congrArg Step.result hread), hread,
      Reception.transcript_of_error (congrArg Step.result hleft), hleft]
    rfl
  have hcount : max 0 1 = 0 + (0 + 1) := rfl
  have hreports := (Reception.run_upTo src {} none hcount
    [client [1, 0, 0, 0, 0, 0, 12, 0, 5, 0, 0, 0]]).reports_eq
  simp only [Reception.hear, htranscript] at hreports
  have hnone := hle 0 [client [1, 0, 0, 0, 0, 0, 12, 0, 5, 0, 0, 0]]
  rw [hreports] at hnone
  exact absurd hnone (by decide)

end Program

end FramedWire
