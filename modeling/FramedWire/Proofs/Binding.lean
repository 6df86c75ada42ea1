import FramedWire.Listener

/-!
# Binding and giving up

What binding a listener and giving one up do to a file system. Paths lead through directories
alone, so a socket that comes or goes changes what is at its own place, and no other path notices.
From this follow exactly when a path can be bound, what is there afterwards, and what a listener
takes away when it is given up.
-/
namespace FramedWire

/-- The identity of a socket. Nothing else has one. -/
def Node.identity? : Node → Option Nat
  | .socket identity _ _ => some identity
  | _ => none

theorem Node.isSocket_of_identity? {node : Node} {identity : Nat}
    (h : node.identity? = some identity) : node.isSocket = true := by
  cases node with
  | socket => rfl
  | _ => cases h

namespace FileSystem

structure SameDirectories (fs fs' : FileSystem) : Prop where
  workingDirectory_eq : fs'.workingDirectory = fs.workingDirectory
  isDirectory_eq : ∀ loc,
    (fs'.node? loc).any Node.isDirectory = (fs.node? loc).any Node.isDirectory

theorem walk_cons_eq_ok_iff {fs : FileSystem} {loc dir : Location} {name : String}
    {names : List String} :
    fs.walk loc (name :: names) = .ok dir ↔
      ∃ next, descend loc name = .ok next ∧ (fs.node? next).any Node.isDirectory = true ∧
        fs.walk next names = .ok dir := by
  rw [walk]
  cases descend loc name with
  | error e => simp [bind, Except.bind]
  | ok next =>
    cases hnode : fs.node? next with
    | none => simp [bind, Except.bind, hnode]
    | some node => cases hdir : node.isDirectory <;> simp [bind, Except.bind, hnode, hdir]

namespace SameDirectories

variable {fs fs' : FileSystem}

theorem walk_eq_ok_iff (h : SameDirectories fs fs') {loc dir : Location} {names : List String} :
    fs'.walk loc names = .ok dir ↔ fs.walk loc names = .ok dir := by
  induction names generalizing loc with
  | nil => rfl
  | cons name names ih => simp only [walk_cons_eq_ok_iff, h.isDirectory_eq, ih]

theorem locate_eq_ok_iff (h : SameDirectories fs fs') {path : String} {target : Target} :
    fs'.locate path = .ok target ↔ fs.locate path = .ok target := by
  unfold locate
  split
  · rfl
  split
  · rfl
  split
  · rfl
  -- what is left depends on the file system only through the walk from directory to directory
  rw [h.workingDirectory_eq]
  generalize hnames : (List.map String.ofList (SocketPath.pieces path.toList)).reverse = names
  dsimp only
  rw [hnames]
  generalize (names.dropWhile (· = "")).tail.reverse = through
  generalize (if SocketPath.isAbsolute path = true then [] else fs.workingDirectory) = start
  cases hbefore : fs.walk start through with
  | ok dir => rw [h.walk_eq_ok_iff.mpr hbefore]
  | error e =>
    cases hafter : fs'.walk start through with
    | ok dir =>
      rw [h.walk_eq_ok_iff.mp hafter] at hbefore
      cases hbefore
    | error e' => simp [bind, Except.bind]

end SameDirectories

theorem find_of_locate {fs : FileSystem} {path : String} {loc : Location} {mustBeDirectory : Bool}
    (h : fs.locate path = .ok ⟨loc, mustBeDirectory⟩) :
    fs.find path =
      match fs.node? loc with
      | none => .error (.system 2)
      | some node =>
        if mustBeDirectory && !node.isDirectory then .error (.system 20) else .ok (loc, node) := by
  rw [find, h]
  rfl

theorem vacancy_of_locate {fs : FileSystem} {path : String} {loc : Location}
    {mustBeDirectory : Bool} (h : fs.locate path = .ok ⟨loc, mustBeDirectory⟩) :
    fs.vacancy path =
      match fs.node? loc with
      | some _ => .error (.system 17)
      | none => if mustBeDirectory then .error (.system 2) else .ok loc := by
  rw [vacancy, h]
  rfl

theorem find_eq_ok_iff {fs : FileSystem} {path : String} {loc : Location} {node : Node} :
    fs.find path = .ok (loc, node) ↔
      ∃ mustBeDirectory, fs.locate path = .ok ⟨loc, mustBeDirectory⟩ ∧ fs.node? loc = some node ∧
        (mustBeDirectory = true → node.isDirectory = true) := by
  constructor
  · intro h
    rcases hlocate : fs.locate path with e | ⟨place, mustBeDirectory⟩
    · rw [find, hlocate] at h
      cases h
    · rw [find_of_locate hlocate] at h
      split at h
      · cases h
      · rename_i found hnode
        split at h
        · cases h
        · rename_i hdir
          cases h
          exact ⟨mustBeDirectory, rfl, hnode, by simpa using hdir⟩
  · rintro ⟨mustBeDirectory, hlocate, hnode, hdir⟩
    rw [find_of_locate hlocate, hnode]
    exact if_neg (by simpa using hdir)

theorem node?_of_find {fs : FileSystem} {path : String} {loc : Location} {node : Node}
    (h : fs.find path = .ok (loc, node)) : fs.node? loc = some node := by
  obtain ⟨-, -, hnode, -⟩ := find_eq_ok_iff.mp h
  exact hnode

/-- A path that leads to a socket does not ask for a directory. -/
theorem locate_of_find {fs : FileSystem} {path : String} {loc : Location} {node : Node}
    (hfind : fs.find path = .ok (loc, node)) (hnode : node.isSocket = true) :
    fs.locate path = .ok ⟨loc, false⟩ ∧ fs.node? loc = some node := by
  obtain ⟨mustBeDirectory, hlocate, hsome, hdir⟩ := find_eq_ok_iff.mp hfind
  cases node with
  | socket =>
    have hmay : mustBeDirectory = false := by simpa [Node.isDirectory] using hdir
    subst hmay
    exact ⟨hlocate, hsome⟩
  | _ => cases hnode

theorem vacancy_eq_ok_iff {fs : FileSystem} {path : String} {loc : Location} :
    fs.vacancy path = .ok loc ↔ fs.locate path = .ok ⟨loc, false⟩ ∧ fs.node? loc = none := by
  constructor
  · intro h
    rcases hlocate : fs.locate path with e | ⟨place, mustBeDirectory⟩
    · rw [vacancy, hlocate] at h
      cases h
    · rw [vacancy_of_locate hlocate] at h
      split at h
      · cases h
      · rename_i hnode
        split at h
        · cases h
        · rename_i hdir
          cases h
          exact ⟨by simpa using hdir, hnode⟩
  · rintro ⟨hlocate, hnode⟩
    rw [vacancy_of_locate hlocate, hnode]
    rfl

@[simp] theorem node?_putSocket_self (fs : FileSystem) (loc : Location) (mode : Nat)
    (listening : Bool) :
    (fs.putSocket loc mode listening).node? loc = some (.socket fs.nextIdentity mode listening) :=
  fs.node?_put_self loc _

theorem node?_putSocket_of_ne (fs : FileSystem) {loc other : Location} (mode : Nat)
    (listening : Bool) (h : other ≠ loc) :
    (fs.putSocket loc mode listening).node? other = fs.node? other :=
  fs.node?_put_of_ne _ h

theorem node?_of_node?_remove {fs : FileSystem} {loc other : Location} {node : Node}
    (h : (fs.remove loc).node? other = some node) : fs.node? other = some node := by
  by_cases hother : other = loc
  · rw [hother, node?_remove_self] at h
    cases h
  · rwa [fs.node?_remove_of_ne hother] at h

/-- What is put at a place does not depend on what was removed there before. -/
theorem putSocket_remove (fs : FileSystem) (loc : Location) (mode : Nat) (listening : Bool) :
    (fs.remove loc).putSocket loc mode listening = fs.putSocket loc mode listening := by
  simp [putSocket, put, remove]

/-- There is at most a socket at `loc`. -/
def Free (fs : FileSystem) (loc : Location) : Prop :=
  ∀ node, fs.node? loc = some node → node.isSocket = true

/-- Nothing changes but what is at `loc`, and every path that leads elsewhere leads to the same
node as before. -/
structure ChangesOnly (fs : FileSystem) (loc : Location) (fs' : FileSystem) : Prop where
  node?_eq : ∀ other ≠ loc, fs'.node? other = fs.node? other
  find_iff : ∀ path other node, other ≠ loc →
    (fs'.find path = .ok (other, node) ↔ fs.find path = .ok (other, node))

theorem Free.isDirectory_eq {fs : FileSystem} {loc : Location} (h : fs.Free loc) :
    (fs.node? loc).any Node.isDirectory = false := by
  cases hnode : fs.node? loc with
  | none => rfl
  | some node =>
    have hsocket := h node hnode
    cases node with
    | socket => rfl
    | _ => cases hsocket

theorem free_of_none {fs : FileSystem} {loc : Location} (h : fs.node? loc = none) :
    fs.Free loc := by
  intro node hnode
  rw [h] at hnode
  cases hnode

theorem free_of_isSocket {fs : FileSystem} {loc : Location} {node : Node}
    (hnode : fs.node? loc = some node) (h : node.isSocket = true) : fs.Free loc := by
  intro other hother
  rw [hnode] at hother
  cases hother
  exact h

theorem Free.ne {fs : FileSystem} {loc other : Location} {node : Node} (h : fs.Free loc)
    (hnode : fs.node? other = some node) (hsocket : node.isSocket = false) : other ≠ loc := by
  intro heq
  subst heq
  have hfree := h node hnode
  rw [hsocket] at hfree
  cases hfree

theorem free_putSocket (fs : FileSystem) (loc : Location) (mode : Nat) (listening : Bool) :
    (fs.putSocket loc mode listening).Free loc :=
  free_of_isSocket (fs.node?_putSocket_self loc mode listening) rfl

/-- Sockets come and go and leave the directories as they are. -/
theorem sameDirectories_of_free {fs fs' : FileSystem} {loc : Location} (hfree : fs.Free loc)
    (hfree' : fs'.Free loc) (hstart : fs'.workingDirectory = fs.workingDirectory)
    (hother : ∀ other ≠ loc, fs'.node? other = fs.node? other) : SameDirectories fs fs' where
  workingDirectory_eq := hstart
  isDirectory_eq place := by
    by_cases hplace : place = loc
    · rw [hplace, hfree.isDirectory_eq, hfree'.isDirectory_eq]
    · rw [hother place hplace]

theorem sameDirectories_remove {fs : FileSystem} {loc : Location} (h : fs.Free loc) :
    SameDirectories fs (fs.remove loc) :=
  sameDirectories_of_free h (free_of_none (fs.node?_remove_self loc)) rfl
    fun _ => fs.node?_remove_of_ne

theorem sameDirectories_putSocket {fs : FileSystem} {loc : Location} (h : fs.Free loc) (mode : Nat)
    (listening : Bool) : SameDirectories fs (fs.putSocket loc mode listening) :=
  sameDirectories_of_free h (fs.free_putSocket loc mode listening) rfl
    fun _ => fs.node?_putSocket_of_ne mode listening

theorem SameDirectories.changesOnly {fs fs' : FileSystem} {loc : Location}
    (h : SameDirectories fs fs') (hother : ∀ other ≠ loc, fs'.node? other = fs.node? other) :
    fs.ChangesOnly loc fs' where
  node?_eq := hother
  find_iff path other node hne := by
    simp only [find_eq_ok_iff, h.locate_eq_ok_iff, hother other hne]

theorem changesOnly_remove {fs : FileSystem} {loc : Location} (h : fs.Free loc) :
    fs.ChangesOnly loc (fs.remove loc) :=
  (sameDirectories_remove h).changesOnly fun _ => fs.node?_remove_of_ne

theorem changesOnly_putSocket {fs : FileSystem} {loc : Location} (h : fs.Free loc) (mode : Nat)
    (listening : Bool) : fs.ChangesOnly loc (fs.putSocket loc mode listening) :=
  (sameDirectories_putSocket h mode listening).changesOnly
    fun _ => fs.node?_putSocket_of_ne mode listening

end FileSystem

namespace Listener

variable {fs : FileSystem} {path : String} {loc : Location} {l : Listener}

structure Bindable (fs : FileSystem) (path : String) (loc : Location) : Prop where
  short : path.utf8ByteSize ≤ maxPathLen
  leads : fs.locate path = .ok ⟨loc, false⟩
  free : fs.Free loc

theorem checkPath_of_le (h : path.utf8ByteSize ≤ maxPathLen) : checkPath path = .ok () :=
  if_neg (Nat.not_lt.mpr h)

/-- A socket that is in the way is removed, and the new one is put into its place. -/
theorem bind_of_bindable (h : Bindable fs path loc) (mode : Nat) :
    bind path mode fs =
      .done ⟨path, fs.nextIdentity⟩ (fs.putSocket loc (mode % 0o10000) true) := by
  cases hnode : fs.node? loc with
  | none =>
    have hclear : clear path fs = .ok fs := by
      rw [clear, FileSystem.find_of_locate h.leads, hnode]
      rfl
    have hvacancy : fs.vacancy path = .ok loc :=
      FileSystem.vacancy_eq_ok_iff.mpr ⟨h.leads, hnode⟩
    simp only [bind, checkPath_of_le h.short, hclear, hvacancy]
  | some node =>
    have hsocket : node.isSocket = true := h.free node hnode
    have hfind : fs.find path = .ok (loc, node) :=
      FileSystem.find_eq_ok_iff.mpr ⟨false, h.leads, hnode, nofun⟩
    have hclear : clear path fs = .ok (fs.remove loc) := by
      simp only [clear, hfind, hsocket, if_true]
    have hleads : (fs.remove loc).locate path = .ok ⟨loc, false⟩ :=
      (FileSystem.sameDirectories_remove h.free).locate_eq_ok_iff.mpr h.leads
    have hvacancy : (fs.remove loc).vacancy path = .ok loc :=
      FileSystem.vacancy_eq_ok_iff.mpr ⟨hleads, fs.node?_remove_self loc⟩
    simp only [bind, checkPath_of_le h.short, hclear, hvacancy, fs.putSocket_remove]
    rfl

theorem find_of_bindable (h : Bindable fs path loc) (mode : Nat) (listening : Bool) :
    (fs.putSocket loc mode listening).find path =
      .ok (loc, .socket fs.nextIdentity mode listening) := by
  have hleads : (fs.putSocket loc mode listening).locate path = .ok ⟨loc, false⟩ :=
    (FileSystem.sameDirectories_putSocket h.free mode listening).locate_eq_ok_iff.mpr h.leads
  have hself := fs.node?_putSocket_self loc mode listening
  exact FileSystem.find_eq_ok_iff.mpr ⟨false, hleads, hself, nofun⟩

theorem bind_of_overlong (h : maxPathLen < path.utf8ByteSize) (mode : Nat) (fs : FileSystem) :
    bind path mode fs = .fail (.pathTooLong path path.utf8ByteSize maxPathLen) fs := by
  simp only [bind, checkPath, if_pos h]

/-- What is not a socket is in the way and stays there. -/
theorem bind_of_occupied {node : Node} (hshort : path.utf8ByteSize ≤ maxPathLen)
    (hfind : fs.find path = .ok (loc, node)) (hnode : node.isSocket = false) (mode : Nat) :
    bind path mode fs =
      .fail (.bind path (.described .alreadyExists "existing path is not a unix socket")) fs := by
  simp only [bind, checkPath_of_le hshort, clear, hfind, hnode, Bool.false_eq_true, if_false]

/-- Whatever the reason for a refusal, nothing has been removed by then. -/
theorem bind_of_not_bindable (h : ∀ loc, ¬ Bindable fs path loc) (mode : Nat) :
    ∃ e, bind path mode fs = .fail e fs := by
  rcases Nat.lt_or_ge maxPathLen path.utf8ByteSize with hlong | hshort
  · exact ⟨_, bind_of_overlong hlong mode fs⟩
  rcases hfind : fs.find path with e | ⟨place, node⟩
  · by_cases hmissing : e.kind = .notFound
    · rcases hvacancy : fs.vacancy path with e' | place
      · refine ⟨.bind path e', ?_⟩
        simp only [bind, checkPath_of_le hshort, clear, hfind, hmissing, if_true, hvacancy]
      · obtain ⟨hleads, hnode⟩ := FileSystem.vacancy_eq_ok_iff.mp hvacancy
        exact absurd ⟨hshort, hleads, FileSystem.free_of_none hnode⟩ (h place)
    · refine ⟨.bind path e, ?_⟩
      simp only [bind, checkPath_of_le hshort, clear, hfind, hmissing, if_false]
  · cases hsocket : node.isSocket with
    | false => exact ⟨_, bind_of_occupied hshort hfind hsocket mode⟩
    | true =>
      obtain ⟨hleads, hnode⟩ := FileSystem.locate_of_find hfind hsocket
      exact absurd ⟨hshort, hleads, FileSystem.free_of_isSocket hnode hsocket⟩ (h place)

/-- All that binding can do. -/
theorem bind_cases (path : String) (mode : Nat) (fs : FileSystem) :
    (∃ loc, Bindable fs path loc ∧ bind path mode fs =
      .done ⟨path, fs.nextIdentity⟩ (fs.putSocket loc (mode % 0o10000) true)) ∨
    ((∀ loc, ¬ Bindable fs path loc) ∧ ∃ e, bind path mode fs = .fail e fs) := by
  by_cases h : ∃ loc, Bindable fs path loc
  · obtain ⟨loc, hbindable⟩ := h
    exact .inl ⟨loc, hbindable, bind_of_bindable hbindable mode⟩
  · have hnone : ∀ loc, ¬ Bindable fs path loc := not_exists.mp h
    exact .inr ⟨hnone, bind_of_not_bindable hnone mode⟩

theorem place?_eq_some_iff :
    l.place? fs = some loc ↔
      ∃ node, fs.find l.path = .ok (loc, node) ∧ node.identity? = some l.identity := by
  constructor
  · intro h
    unfold place? at h
    split at h
    · rename_i place identity mode listening hfind
      split at h
      · rename_i hidentity
        cases h
        exact ⟨_, hfind, congrArg some hidentity⟩
      · cases h
    · cases h
  · rintro ⟨node, hfind, hidentity⟩
    cases node with
    | socket identity mode listening =>
      have heq : identity = l.identity := Option.some.inj hidentity
      simp only [place?, hfind, heq, if_true]
    | _ => cases hidentity

theorem free_of_place? (h : l.place? fs = some loc) : fs.Free loc := by
  obtain ⟨node, hfind, hidentity⟩ := place?_eq_some_iff.mp h
  exact FileSystem.free_of_isSocket (FileSystem.node?_of_find hfind)
    (Node.isSocket_of_identity? hidentity)

theorem drop_of_place? (h : l.place? fs = some loc) : l.drop fs = fs.remove loc := by
  simp only [drop, h]

theorem drop_of_place?_eq_none (h : l.place? fs = none) : l.drop fs = fs := by
  simp only [drop, h]

theorem node?_of_node?_drop {node : Node} (h : (l.drop fs).node? loc = some node) :
    fs.node? loc = some node := by
  cases hplace : l.place? fs with
  | none => rwa [drop_of_place?_eq_none hplace] at h
  | some place =>
    rw [drop_of_place? hplace] at h
    exact FileSystem.node?_of_node?_remove h

/-- Only a socket makes room for another. -/
theorem node?_bind_of_not_socket {node : Node} (hnode : fs.node? loc = some node)
    (hsocket : node.isSocket = false) (path : String) (mode : Nat) :
    (bind path mode fs).state.node? loc = some node := by
  rcases bind_cases path mode fs with ⟨place, hbindable, hbind⟩ | ⟨-, e, hfail⟩
  · have hne : loc ≠ place := hbindable.free.ne hnode hsocket
    rw [hbind, Step.state_done, fs.node?_putSocket_of_ne _ _ hne]
    exact hnode
  · rw [hfail]
    exact hnode

theorem node?_drop_of_not_socket {node : Node} (hnode : fs.node? loc = some node)
    (hsocket : node.isSocket = false) (l : Listener) : (l.drop fs).node? loc = some node := by
  cases hplace : l.place? fs with
  | none => rwa [drop_of_place?_eq_none hplace]
  | some place =>
    have hne : loc ≠ place := (free_of_place? hplace).ne hnode hsocket
    rw [drop_of_place? hplace, fs.node?_remove_of_ne hne]
    exact hnode

end Listener

end FramedWire
