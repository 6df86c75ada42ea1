import FramedWire.Proofs.Binding

/-!
# Listeners among others

Listeners are bound and given up, in any order and any number on the same path, while others put
nodes where they like, take them away, and give a socket another place. The system numbers new
sockets as it likes, as long as it spares the numbers of the listeners in use: a number comes back
once nobody holds it, so that a number alone does not tell two sockets apart.

`Tenancy` keeps the books beside such a history: which act made the node at a place. They show that
a listener takes away what its own bind made and nothing else: `guarded_run`.
-/
namespace FramedWire

structure Tenant where
  listener : Listener
  since : Nat

structure Tenancy where
  files : FileSystem
  tenants : List Tenant := []
  /-- The number of the act that made what is at a place, or 0 for what was there before. -/
  origin : Location → Nat := fun _ => 0
  /-- The number of the next act. -/
  now : Nat := 1

namespace Tenancy

inductive Act where
  | bind (path : String) (mode : Nat)
  /-- Give up one of the listeners in use. -/
  | drop (i : Nat)
  /-- Somebody puts a node at a place, whatever is there. -/
  | put (loc : Location) (node : Node)
  /-- Somebody takes away what is at a place. -/
  | remove (loc : Location)
  /-- Somebody gives what is at one place another place too, whatever is there. If it is then taken
  away from the first one, it has moved. -/
  | link (source target : Location)
  /-- The system decides on the identity of the next socket. -/
  | number (identity : Nat)

/-- What is at `loc` was made by the current act. -/
def mark (s : Tenancy) (loc : Location) : Location → Nat :=
  fun other => if other = loc then s.now else s.origin other

/-- Nobody has bound anything yet. -/
def opened (files : FileSystem) : Tenancy := { files }

def step (s : Tenancy) : Act → Tenancy
  | .bind path mode =>
    let bound := Listener.bind path mode s.files
    match bound.result with
    | .error _ => { s with files := bound.state, now := s.now + 1 }
    | .ok l =>
      { files := bound.state
        tenants := s.tenants ++ [⟨l, s.now⟩]
        origin := match bound.state.find path with
          | .ok (loc, _) => s.mark loc
          | .error _ => s.origin
        now := s.now + 1 }
  | .drop i =>
    match s.tenants[i]? with
    | none => { s with now := s.now + 1 }
    | some t =>
      { s with
        files := t.listener.drop s.files
        tenants := s.tenants.eraseIdx i
        now := s.now + 1 }
  | .put loc node =>
    { s with files := s.files.put loc node, origin := s.mark loc, now := s.now + 1 }
  | .remove loc => { s with files := s.files.remove loc, now := s.now + 1 }
  | .link source target =>
    match s.files.node? source with
    | none => { s with now := s.now + 1 }
    | some node =>
      { s with
        files := s.files.put target node
        origin := fun other => if other = target then s.origin source else s.origin other
        now := s.now + 1 }
  | .number identity =>
    { s with files := { s.files with nextIdentity := identity }, now := s.now + 1 }

def run (s : Tenancy) (acts : List Act) : Tenancy := acts.foldl step s

structure Unused (s : Tenancy) (identity : Nat) (loc : Location) : Prop where
  not_held : ∀ t ∈ s.tenants, t.listener.identity ≠ identity
  not_elsewhere : ∀ other ≠ loc, ∀ node, s.files.node? other = some node →
    node.identity? ≠ some identity

/-- What can happen: a listener is given up only while it is in use, and new sockets get unused
identities. -/
def Permits (s : Tenancy) : Act → Prop
  | .bind path _ =>
    ∀ loc, Listener.Bindable s.files path loc → s.Unused s.files.nextIdentity loc
  | .drop i => i < s.tenants.length
  | .put loc node => ∀ identity, node.identity? = some identity → s.Unused identity loc
  | .remove _ | .link _ _ | .number _ => True

/-- Every act can happen when its turn comes. -/
def PermitsAll (s : Tenancy) : List Act → Prop
  | [] => True
  | act :: acts => s.Permits act ∧ (s.step act).PermitsAll acts

/-- What is known of the books: where a listener in use would know its socket by the identity, the
books say that its bind made it, and the other way round. -/
structure Sound (s : Tenancy) : Prop where
  identity_iff : ∀ t ∈ s.tenants, ∀ loc node, s.files.node? loc = some node →
    (node.identity? = some t.listener.identity ↔ s.origin loc = t.since)
  since_lt : ∀ t ∈ s.tenants, t.since < s.now
  in_turn : s.tenants.Pairwise (·.since < ·.since)
  origin_lt : ∀ loc node, s.files.node? loc = some node → s.origin loc < s.now

/-- What one act does to nodes and listeners: a node is an old one, with what is written about it,
or a new one that no listener in use takes for its own; and the listeners are old ones, but for one
at most, and the bind of that one made just what has its identity. -/
structure Renews (s s' : Tenancy) : Prop where
  now_eq : s'.now = s.now + 1
  node_cases : ∀ loc node, s'.files.node? loc = some node →
    (∃ source, s.files.node? source = some node ∧ s'.origin loc = s.origin source) ∨
    (s'.origin loc = s.now ∧ ∀ t ∈ s.tenants, node.identity? ≠ some t.listener.identity)
  tenants_sublist : ∃ added : Option Tenant, s'.tenants.Sublist (s.tenants ++ added.toList) ∧
    ∀ t ∈ added, t.since = s.now ∧ ∀ loc node, s'.files.node? loc = some node →
      (node.identity? = some t.listener.identity ↔ s'.origin loc = s.now)

variable {s s' : Tenancy}

theorem Renews.tenant_cases (h : Renews s s') {t : Tenant} (ht : t ∈ s'.tenants) :
    t ∈ s.tenants ∨
      (t.since = s.now ∧ ∀ loc node, s'.files.node? loc = some node →
        (node.identity? = some t.listener.identity ↔ s'.origin loc = s.now)) := by
  obtain ⟨added, hsublist, hadded⟩ := h.tenants_sublist
  rcases List.mem_append.mp (hsublist.subset ht) with hold | hnew
  · exact .inl hold
  · exact .inr (hadded t (Option.mem_toList.mp hnew))

theorem Renews.in_turn (h : Renews s s') (hs : s.Sound) :
    s'.tenants.Pairwise (·.since < ·.since) := by
  obtain ⟨added, hsublist, hadded⟩ := h.tenants_sublist
  have hpairs : (s.tenants ++ added.toList).Pairwise (·.since < ·.since) := by
    apply List.pairwise_append.mpr
    refine ⟨hs.in_turn, ?_, ?_⟩
    · cases added with
      | none => exact .nil
      | some t => exact List.pairwise_singleton _ t
    · intro t ht u hu
      rw [(hadded u (Option.mem_toList.mp hu)).1]
      exact hs.since_lt t ht
  exact hpairs.sublist hsublist

theorem Renews.sound (h : Renews s s') (hs : s.Sound) : s'.Sound where
  identity_iff t ht loc node hnode := by
    rcases h.tenant_cases ht with hold | ⟨hsince, hmade⟩
    · rcases h.node_cases loc node hnode with ⟨source, hsource, horigin⟩ | ⟨horigin, hforeign⟩
      · rw [horigin]
        exact hs.identity_iff t hold source node hsource
      · have hlt := hs.since_lt t hold
        have hne : s'.origin loc ≠ t.since := by omega
        exact iff_of_false (hforeign t hold) hne
    · rw [hsince]
      exact hmade loc node hnode
  since_lt t ht := by
    rw [h.now_eq]
    rcases h.tenant_cases ht with hold | ⟨hsince, -⟩
    · exact Nat.lt_succ_of_lt (hs.since_lt t hold)
    · omega
  in_turn := h.in_turn hs
  origin_lt loc node hnode := by
    rw [h.now_eq]
    rcases h.node_cases loc node hnode with ⟨source, hsource, horigin⟩ | ⟨horigin, -⟩
    · rw [horigin]
      exact Nat.lt_succ_of_lt (hs.origin_lt source node hsource)
    · omega

/-- Acts that make nothing new and bind nobody. -/
theorem renews_of_kept (hnow : s'.now = s.now + 1)
    (hnodes : ∀ loc node, s'.files.node? loc = some node →
      ∃ source, s.files.node? source = some node ∧ s'.origin loc = s.origin source)
    (htenants : s'.tenants.Sublist s.tenants) : Renews s s' where
  now_eq := hnow
  node_cases loc node hnode := .inl (hnodes loc node hnode)
  tenants_sublist := ⟨none, by simpa using htenants, nofun⟩

theorem renews_of_idle {files : FileSystem} (h : files.node? = s.files.node?) :
    Renews s { s with files, now := s.now + 1 } := by
  apply renews_of_kept rfl
  · intro loc node hnode
    exact ⟨loc, h ▸ hnode, rfl⟩
  · exact .refl _

/-- A listener is bound to `path`, and its socket lies at `loc`. -/
def lodge (s : Tenancy) (path : String) (mode : Nat) (loc : Location) : Tenancy where
  files := s.files.putSocket loc (mode % 0o10000) true
  tenants := s.tenants ++ [⟨⟨path, s.files.nextIdentity⟩, s.now⟩]
  origin := s.mark loc
  now := s.now + 1

theorem step_bind_of_bindable {path : String} {loc : Location}
    (h : Listener.Bindable s.files path loc) (mode : Nat) :
    s.step (.bind path mode) = s.lodge path mode loc := by
  simp only [step, Listener.bind_of_bindable h mode, Step.result_done, Step.state_done,
    Listener.find_of_bindable h, lodge]

theorem step_bind_of_fail {path : String} {mode : Nat} {e : TransportError}
    (h : Listener.bind path mode s.files = .fail e s.files) :
    s.step (.bind path mode) = { s with now := s.now + 1 } := by
  simp only [step, h, Step.result_fail, Step.state_fail]

theorem mark_self (s : Tenancy) (loc : Location) : s.mark loc loc = s.now := if_pos rfl

theorem mark_of_ne (s : Tenancy) {loc other : Location} (h : other ≠ loc) :
    s.mark loc other = s.origin other := if_neg h

/-- No listener in use takes a socket with an unused identity for its own. -/
theorem Unused.foreign {identity : Nat} {loc : Location} (h : s.Unused identity loc) {t : Tenant}
    (ht : t ∈ s.tenants) : some identity ≠ some t.listener.identity := by
  intro heq
  exact h.not_held t ht (Option.some.inj heq).symm

theorem node_cases_mark {files : FileSystem} {loc : Location}
    (hother : ∀ other ≠ loc, files.node? other = s.files.node? other)
    (hforeign : ∀ node, files.node? loc = some node →
      ∀ t ∈ s.tenants, node.identity? ≠ some t.listener.identity)
    {place : Location} {node : Node} (hnode : files.node? place = some node) :
    (∃ source, s.files.node? source = some node ∧ s.mark loc place = s.origin source) ∨
      (s.mark loc place = s.now ∧ ∀ t ∈ s.tenants, node.identity? ≠ some t.listener.identity) := by
  by_cases hplace : place = loc
  · right
    subst hplace
    exact ⟨s.mark_self place, hforeign node hnode⟩
  · left
    rw [hother place hplace] at hnode
    exact ⟨place, hnode, s.mark_of_ne hplace⟩

theorem identity_iff_mark (hs : s.Sound) {identity mode : Nat} {listening : Bool}
    {files : FileSystem} {loc : Location} (hunused : s.Unused identity loc)
    (hself : files.node? loc = some (.socket identity mode listening))
    (hother : ∀ other ≠ loc, files.node? other = s.files.node? other)
    {place : Location} {node : Node} (hnode : files.node? place = some node) :
    node.identity? = some identity ↔ s.mark loc place = s.now := by
  by_cases hplace : place = loc
  · subst hplace
    rw [hself] at hnode
    cases hnode
    exact iff_of_true rfl (s.mark_self place)
  · rw [hother place hplace] at hnode
    rw [s.mark_of_ne hplace]
    have hlt : s.origin place < s.now := hs.origin_lt place node hnode
    exact iff_of_false (hunused.not_elsewhere place hplace node hnode) (Nat.ne_of_lt hlt)

theorem renews_bind (hs : s.Sound) {path : String} {mode : Nat}
    (hpermits : s.Permits (.bind path mode)) : Renews s (s.step (.bind path mode)) := by
  rcases Listener.bind_cases path mode s.files with ⟨loc, hbindable, -⟩ | ⟨-, e, hfail⟩
  · have hunused : s.Unused s.files.nextIdentity loc := hpermits loc hbindable
    have hself := s.files.node?_putSocket_self loc (mode % 0o10000) true
    have hother : ∀ other ≠ loc, (s.files.putSocket loc (mode % 0o10000) true).node? other =
        s.files.node? other := fun _ => s.files.node?_putSocket_of_ne _ _
    rw [step_bind_of_bindable hbindable]
    constructor
    case now_eq => rfl
    case node_cases =>
      intro place node hnode
      apply node_cases_mark hother _ hnode
      intro made hmade t ht
      rw [hself] at hmade
      cases hmade
      exact hunused.foreign ht
    case tenants_sublist =>
      refine ⟨some ⟨⟨path, s.files.nextIdentity⟩, s.now⟩, .refl _, ?_⟩
      intro t ht
      cases ht
      constructor
      · rfl
      · intro place node hnode
        exact identity_iff_mark hs hunused hself hother hnode
  · rw [step_bind_of_fail hfail]
    exact renews_of_idle rfl

theorem renews_drop (i : Nat) : Renews s (s.step (.drop i)) := by
  cases htenant : s.tenants[i]? with
  | none =>
    simp only [step, htenant]
    exact renews_of_idle rfl
  | some t =>
    simp only [step, htenant]
    apply renews_of_kept rfl
    · intro place node hnode
      exact ⟨place, Listener.node?_of_node?_drop hnode, rfl⟩
    · exact List.eraseIdx_sublist s.tenants i

theorem renews_put {loc : Location} {node : Node} (hpermits : s.Permits (.put loc node)) :
    Renews s (s.step (.put loc node)) where
  now_eq := rfl
  node_cases place other hother := by
    apply node_cases_mark (fun _ => s.files.node?_put_of_ne node) _ hother
    intro made hmade t ht hidentity
    rw [FileSystem.node?_put_self] at hmade
    cases hmade
    exact (hpermits t.listener.identity hidentity).not_held t ht rfl
  tenants_sublist := ⟨none, by simp [step], nofun⟩

theorem renews_link (source target : Location) : Renews s (s.step (.link source target)) := by
  cases hsource : s.files.node? source with
  | none =>
    simp only [step, hsource]
    exact renews_of_idle rfl
  | some node =>
    simp only [step, hsource]
    apply renews_of_kept rfl
    · intro place other hother
      by_cases hplace : place = target
      · subst hplace
        rw [FileSystem.node?_put_self] at hother
        cases hother
        exact ⟨source, hsource, if_pos rfl⟩
      · rw [s.files.node?_put_of_ne node hplace] at hother
        exact ⟨place, hother, if_neg hplace⟩
    · exact .refl _

theorem renews_step (hs : s.Sound) {act : Act} (hpermits : s.Permits act) :
    Renews s (s.step act) := by
  cases act with
  | bind path mode => exact renews_bind hs hpermits
  | drop i => exact renews_drop i
  | put loc node => exact renews_put hpermits
  | remove loc =>
    apply renews_of_kept rfl
    · intro place node hnode
      exact ⟨place, FileSystem.node?_of_node?_remove hnode, rfl⟩
    · exact .refl _
  | link source target => exact renews_link source target
  | number identity => exact renews_of_idle rfl

theorem sound_opened (files : FileSystem) : (opened files).Sound where
  identity_iff := nofun
  since_lt := nofun
  in_turn := .nil
  origin_lt _ _ _ := Nat.zero_lt_one

/-- The books stay right over a whole history, by induction on its acts. -/
theorem sound_run (hs : s.Sound) {acts : List Act} (h : s.PermitsAll acts) :
    (s.run acts).Sound := by
  induction acts generalizing s with
  | nil => exact hs
  | cons act acts ih => exact ih ((renews_step hs h.1).sound hs) h.2

inductive Binds (s : Tenancy) (path : String) (mode : Nat) :
    Step FileSystem TransportError Listener → Prop
  | made {loc : Location} {files : FileSystem} : Listener.Bindable s.files path loc →
      files.find path = .ok (loc, .socket s.files.nextIdentity (mode % 0o10000) true) →
      s.files.ChangesOnly loc files →
      (∀ other node, files.node? other = some node →
        node.identity? = some s.files.nextIdentity → other = loc) →
      (∀ t ∈ s.tenants, t.listener.place? files ≠ some loc) →
      Binds s path mode (.done ⟨path, s.files.nextIdentity⟩ files)
  | refused (e : TransportError) : (∀ loc, ¬ Listener.Bindable s.files path loc) →
      Binds s path mode (.fail e s.files)

inductive GivesUp (s : Tenancy) (t : Tenant) : FileSystem → Prop
  | own {loc : Location} {node : Node} {files : FileSystem} :
      s.files.find t.listener.path = .ok (loc, node) → s.origin loc = t.since →
      node.isSocket = true → files.node? loc = none → s.files.ChangesOnly loc files →
      GivesUp s t files
  | foreign :
      (∀ loc node, s.files.find t.listener.path = .ok (loc, node) → s.origin loc ≠ t.since) →
      GivesUp s t s.files

theorem binds_bind {path : String} {mode : Nat} (hpermits : s.Permits (.bind path mode)) :
    s.Binds path mode (Listener.bind path mode s.files) := by
  rcases Listener.bind_cases path mode s.files with ⟨loc, hbindable, hbind⟩ | ⟨hnone, e, hfail⟩
  · have hunused : s.Unused s.files.nextIdentity loc := hpermits loc hbindable
    have hfind := Listener.find_of_bindable hbindable (mode % 0o10000) true
    have hchanges := FileSystem.changesOnly_putSocket hbindable.free (mode % 0o10000) true
    rw [hbind]
    apply Binds.made hbindable hfind hchanges
    · intro other node hnode hidentity
      by_cases hother : other = loc
      · exact hother
      · rw [hchanges.node?_eq other hother] at hnode
        exact absurd hidentity (hunused.not_elsewhere other hother node hnode)
    · intro t ht hplace
      obtain ⟨node, hfound, hidentity⟩ := Listener.place?_eq_some_iff.mp hplace
      have hnode := FileSystem.node?_of_find hfound
      rw [FileSystem.node?_putSocket_self] at hnode
      cases hnode
      exact hunused.foreign ht hidentity
  · rw [hfail]
    exact .refused e hnone

theorem givesUp_drop (hs : s.Sound) {t : Tenant} (ht : t ∈ s.tenants) :
    s.GivesUp t (t.listener.drop s.files) := by
  cases hplace : t.listener.place? s.files with
  | none =>
    rw [Listener.drop_of_place?_eq_none hplace]
    apply GivesUp.foreign
    intro loc node hfind horigin
    have hnode := FileSystem.node?_of_find hfind
    have hidentity := (hs.identity_iff t ht loc node hnode).mpr horigin
    rw [Listener.place?_eq_some_iff.mpr ⟨node, hfind, hidentity⟩] at hplace
    cases hplace
  | some loc =>
    obtain ⟨node, hfind, hidentity⟩ := Listener.place?_eq_some_iff.mp hplace
    have hnode := FileSystem.node?_of_find hfind
    have horigin : s.origin loc = t.since := (hs.identity_iff t ht loc node hnode).mp hidentity
    have hfree : s.files.Free loc := Listener.free_of_place? hplace
    rw [Listener.drop_of_place? hplace]
    exact .own hfind horigin (hfree node hnode) (s.files.node?_remove_self loc)
      (FileSystem.changesOnly_remove hfree)

/-- A listener that is given up leaves the others their sockets. -/
theorem place?_drop (hs : s.Sound) {t u : Tenant} (ht : t ∈ s.tenants) (hu : u ∈ s.tenants)
    (hne : t.since ≠ u.since) {loc : Location} (hplace : u.listener.place? s.files = some loc) :
    u.listener.place? (t.listener.drop s.files) = some loc := by
  have hdrop := givesUp_drop hs ht
  generalize t.listener.drop s.files = files at hdrop ⊢
  cases hdrop with
  | own hfind horigin hsocket hgone hchanges =>
    rename_i place taken
    obtain ⟨node, hfound, hidentity⟩ := Listener.place?_eq_some_iff.mp hplace
    have hnode := FileSystem.node?_of_find hfound
    have hmade : s.origin loc = u.since := (hs.identity_iff u hu loc node hnode).mp hidentity
    -- what `u` made was made by another act than what is taken away
    have hother : loc ≠ place := by
      intro heq
      rw [heq, horigin] at hmade
      exact hne hmade
    have hkept := (hchanges.find_iff u.listener.path loc node hother).mpr hfound
    exact Listener.place?_eq_some_iff.mpr ⟨node, hkept, hidentity⟩
  | foreign => exact hplace

structure Guarded (s : Tenancy) : Prop where
  /-- The listeners in use are known in the order in which they were bound. -/
  in_turn : s.tenants.Pairwise (·.since < ·.since)
  /-- A path that is too long is refused, and nothing changes. -/
  overlong : ∀ path mode, Listener.maxPathLen < path.utf8ByteSize →
    Listener.bind path mode s.files =
      .fail (.pathTooLong path path.utf8ByteSize Listener.maxPathLen) s.files
  /-- So is a path that leads to anything but a socket. -/
  occupied : ∀ path mode loc node, path.utf8ByteSize ≤ Listener.maxPathLen →
    s.files.find path = .ok (loc, node) → node.isSocket = false →
    Listener.bind path mode s.files =
      .fail (.bind path (.described .alreadyExists "existing path is not a unix socket")) s.files
  bind : ∀ path mode, s.Permits (.bind path mode) →
    s.Binds path mode (Listener.bind path mode s.files)
  drop : ∀ t ∈ s.tenants, s.GivesUp t (t.listener.drop s.files)
  /-- A listener that has taken the path of another over keeps its socket when that one is given
  up; and so does every other listener. -/
  others_stay : ∀ t ∈ s.tenants, ∀ u ∈ s.tenants, t.since ≠ u.since → ∀ loc,
    u.listener.place? s.files = some loc → u.listener.place? (t.listener.drop s.files) = some loc
  non_sockets_stay : ∀ loc node, s.files.node? loc = some node → node.isSocket = false →
    (∀ path mode, (Listener.bind path mode s.files).state.node? loc = some node) ∧
      ∀ t ∈ s.tenants, (t.listener.drop s.files).node? loc = some node

/-- Listeners remove sockets that are theirs or in the way of a new one, and nothing else. -/
theorem guarded_run (files : FileSystem) (acts : List Act)
    (hpermits : (opened files).PermitsAll acts) : ((opened files).run acts).Guarded := by
  have hsound : ((opened files).run acts).Sound := sound_run (sound_opened files) hpermits
  exact {
    in_turn := hsound.in_turn
    overlong := fun _ mode hlong => Listener.bind_of_overlong hlong mode _
    occupied := fun _ mode _ _ hshort hfind hsocket =>
      Listener.bind_of_occupied hshort hfind hsocket mode
    bind := fun _ _ => binds_bind
    drop := fun _ => givesUp_drop hsound
    others_stay := fun _ ht _ hu hne _ => place?_drop hsound ht hu hne
    non_sockets_stay := fun _ _ hnode hsocket =>
      ⟨Listener.node?_bind_of_not_socket hnode hsocket,
        fun t _ => Listener.node?_drop_of_not_socket hnode hsocket t.listener⟩ }

theorem unused_of_nodes {identity : Nat} {loc : Location}
    (hheld : ∀ t ∈ s.tenants, t.listener.identity ≠ identity)
    (hnodes : ∀ entry ∈ s.files.nodes, entry.1 ≠ loc → entry.2.identity? ≠ some identity) :
    s.Unused identity loc where
  not_held := hheld
  not_elsewhere other hother node hnode := by
    obtain ⟨before, after, heq, -⟩ := List.lookup_eq_some_iff.mp hnode
    exact hnodes (other, node) (by rw [heq]; simp) hother

theorem permits_bind_of_locate {path : String} {loc : Location}
    (hlocate : s.files.locate path = .ok ⟨loc, false⟩)
    (hunused : s.Unused s.files.nextIdentity loc) (mode : Nat) : s.Permits (.bind path mode) := by
  intro place hbindable
  have hleads := hbindable.leads
  rw [hlocate] at hleads
  cases hleads
  exact hunused

theorem locate_name {files : FileSystem} (h : files.workingDirectory = ["tmp", "work"]) :
    files.locate "s" = .ok ⟨["tmp", "work", "s"], false⟩ := by
  have hnul : "s".contains '\x00' = false := by simp
  simp only [FileSystem.locate, hnul, h]
  rfl

/-- A socket was left behind at a path, and the next one gets its identity. -/
def leftBehind : FileSystem :=
  { FileSystem.empty.put ["tmp", "work", "s"] (.socket 5 0o755 false) with nextIdentity := 5 }

/-- A listener replaces the socket that was left behind, and a second one takes the path over. While
the first listener is in use its identity is given to nobody, and when it is given up the socket of
the second one stays. -/
theorem guarded_run_takeover :
    let place : Location := ["tmp", "work", "s"]
    let older : Tenant := ⟨⟨"s", 5⟩, 1⟩
    let newer : Tenant := ⟨⟨"s", 6⟩, 2⟩
    let acts : List Act := [.bind "s" 0o600, .bind "s" 0o600]
    let s := (opened leftBehind).run acts
    (opened leftBehind).PermitsAll acts ∧ s.Guarded ∧ s.tenants = [older, newer] ∧
      ¬ s.Unused 5 place ∧ newer.listener.place? (older.listener.drop s.files) = some place ∧
      (newer.listener.drop s.files).node? place = none := by
  intro place older newer acts s
  let held := (opened leftBehind).lodge "s" 0o600 place
  have hleft : Listener.Bindable (opened leftBehind).files "s" place :=
    ⟨by decide, locate_name rfl, FileSystem.free_of_isSocket (FileSystem.node?_put_self _ _ _) rfl⟩
  have hheld : Listener.Bindable held.files "s" place :=
    ⟨by decide, locate_name rfl, leftBehind.free_putSocket place 0o600 true⟩
  have hfirst : (opened leftBehind).step (.bind "s" 0o600) = held :=
    step_bind_of_bindable hleft 0o600
  have hrun : s = held.lodge "s" 0o600 place := by
    dsimp only [s, acts, run, List.foldl]
    rw [hfirst]
    exact step_bind_of_bindable hheld 0o600
  have hpermits : (opened leftBehind).PermitsAll acts := by
    refine ⟨?_, ?_, trivial⟩
    · apply permits_bind_of_locate hleft.leads
      apply unused_of_nodes
      · intro t ht
        cases ht
      · decide
    · rw [hfirst]
      apply permits_bind_of_locate hheld.leads
      apply unused_of_nodes
      · decide
      · decide
  have hguarded : s.Guarded := guarded_run leftBehind acts hpermits
  have hnewer : newer.listener.place? s.files = some place := by
    rw [hrun]
    exact Listener.place?_eq_some_iff.mpr ⟨_, Listener.find_of_bindable hheld 0o600 true, rfl⟩
  have htenants : s.tenants = [older, newer] := by
    rw [hrun]
    rfl
  refine ⟨hpermits, hguarded, htenants, ?_, ?_, ?_⟩
  · intro hunused
    exact hunused.not_held older (by simp [htenants]) rfl
  · exact hguarded.others_stay older (by simp [htenants]) newer (by simp [htenants]) (by decide)
      place hnewer
  · rw [Listener.drop_of_place? hnewer]
    exact s.files.node?_remove_self place

end Tenancy

end FramedWire
