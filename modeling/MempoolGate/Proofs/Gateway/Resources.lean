import MempoolGate.Proofs.Feed.Pump
import MempoolGate.Proofs.Gateway.Session
import MempoolGate.Proofs.List
import MempoolGate.Proofs.Table

namespace MempoolGate

structure Tenancy where
  gateway : Gateway
  held : List (SessionHandle × Feed.Pump) := []

/-- What can happen to the sessions of a gateway. A handle that is closed is dropped right after. -/
inductive Tenancy.Act
  | subscribe (connector : Connector) (id : Uuid) (name : String)
  | close (session : Nat)
  | drop (session : Nat)
  | pump (session : Nat) (move : Feed.Move)
  | shutdown

namespace Tenancy

def start (settings : Settings) (registry : Registry) : Tenancy :=
  { gateway := .start settings registry }

def after (t : Tenancy) : Act → Tenancy
  | .subscribe connector id name =>
    match t.gateway.subscribe connector id name with
    | (.ok session, g) => ⟨g, t.held ++ [session]⟩
    | (.error _, g) => { t with gateway := g }
  | .close session =>
    match t.held[session]? with
    | some (handle, _) =>
      let (handle, g) := t.gateway.release handle
      ⟨(g.release handle).2, t.held.eraseIdx session⟩
    | none => t
  | .drop session =>
    match t.held[session]? with
    | some (handle, _) => ⟨(t.gateway.release handle).2, t.held.eraseIdx session⟩
    | none => t
  | .pump session move =>
    match t.held[session]? with
    | some (handle, pump) =>
      match pump.move? move with
      | some (pump, tallies) =>
        ⟨t.gateway.countAll tallies, t.held.set session (handle, pump)⟩
      | none => t
    | none => t
  | .shutdown => { t with gateway := t.gateway.shutdown }

def run (t : Tenancy) (acts : List Act) : Tenancy :=
  acts.foldl after t

def IsFresh (t : Tenancy) : Act → Prop
  | .subscribe _ id _ => t.gateway.sessions.get? id = none
  | _ => True

instance (t : Tenancy) : (act : Act) → Decidable (t.IsFresh act)
  | .subscribe _ id _ => inferInstanceAs (Decidable (t.gateway.sessions.get? id = none))
  | .close _ | .drop _ | .pump .. | .shutdown => isTrue trivial

def FreshRun (t : Tenancy) : List Act → Prop
  | [] => True
  | act :: acts => t.IsFresh act ∧ FreshRun (t.after act) acts

instance decidableFreshRun (t : Tenancy) : (acts : List Act) → Decidable (t.FreshRun acts)
  | [] => isTrue trivial
  | act :: acts =>
    have := decidableFreshRun (t.after act) acts
    inferInstanceAs (Decidable (t.IsFresh act ∧ FreshRun (t.after act) acts))

def handles (t : Tenancy) : List SessionHandle :=
  t.held.map (·.1)

def ids (t : Tenancy) : List Uuid :=
  t.handles.map (·.id)

def sockets (t : Tenancy) : List Nat :=
  t.handles.map (·.connection)

/-- A socket beats as long as it is held, if its heartbeat could start at all. If channels can be made, it
is open as long as it is held, and was closed once if it is not. -/
structure Kept (settings : Settings) (held : List Nat) (connections : List Connection) : Prop where
  bound : ∀ i ∈ held, i < connections.length
  nodup : held.Nodup
  beating : ∀ i c, connections[i]? = some c →
    c.beating = (decide (i ∈ held) && settings.heartbeatBeats c.openedAt)
  closes : settings.channelCapacity ≤ Feed.maxCapacity →
    ∀ i c, connections[i]? = some c → c.closes = if i ∈ held then 0 else 1

/-- What is held, what is open and what is counted come to the same. -/
structure Balanced (t : Tenancy) : Prop where
  live : ∀ h ∈ t.handles, h.closed = false
  nodup : t.ids.Nodup
  listed : t.gateway.sessions.keys.Perm t.ids
  kept : Kept t.gateway.settings t.sockets t.gateway.connections
  counted : t.gateway.telemetry.sessionsOpened =
    t.gateway.telemetry.sessionsClosed + UInt64.ofNat t.held.length

end Tenancy

namespace Tenancy.Kept

variable {settings : Settings} {held held' : List Nat} {connections : List Connection}

theorem opened (h : Kept settings held connections) {c : Connection} (hcloses : c.closes = 0)
    (hbeating : c.beating = settings.heartbeatBeats c.openedAt) :
    Kept settings (held ++ [connections.length]) (connections ++ [c]) := by
  have hnew : connections.length ∉ held := fun hmem => Nat.lt_irrefl _ (h.bound _ hmem)
  have hcases : ∀ i c', (connections ++ [c])[i]? = some c' →
      connections[i]? = some c' ∧ i ≠ connections.length ∨ i = connections.length ∧ c' = c := by
    intro i c' hi
    rcases Nat.lt_trichotomy i connections.length with hlt | rfl | hgt
    · rw [List.getElem?_append_left hlt] at hi
      exact .inl ⟨hi, Nat.ne_of_lt hlt⟩
    · rw [List.getElem?_concat_length] at hi
      exact .inr ⟨rfl, (Option.some.inj hi).symm⟩
    · rw [List.getElem?_eq_none (by rw [List.length_append]; exact hgt)] at hi
      cases hi
  refine ⟨?_, ?_, ?_, ?_⟩
  · intro i hi
    rw [List.length_append, List.length_singleton]
    rcases List.mem_append.mp hi with hi | hi
    · exact Nat.lt_succ_of_lt (h.bound i hi)
    · rw [List.mem_singleton.mp hi]
      exact Nat.lt_succ_self _
  · rw [List.nodup_append]
    refine ⟨h.nodup, List.nodup_singleton _, fun i hi j hj he => ?_⟩
    rw [he, List.mem_singleton.mp hj] at hi
    exact hnew hi
  · intro i c' hi
    rcases hcases i c' hi with ⟨hi, hne⟩ | ⟨rfl, rfl⟩
    · simp [h.beating i c' hi, hne]
    · simp [hbeating]
  · intro hfits i c' hi
    rcases hcases i c' hi with ⟨hi, hne⟩ | ⟨rfl, rfl⟩
    · simp [h.closes hfits i c' hi, hne]
    · simp [hcloses]

theorem left (h : Kept settings held connections) {spent : List Connection}
    (hbeating : ∀ c ∈ spent, c.beating = false)
    (hcloses : settings.channelCapacity ≤ Feed.maxCapacity → ∀ c ∈ spent, c.closes = 1) :
    Kept settings held (connections ++ spent) := by
  have hcases : ∀ i c, (connections ++ spent)[i]? = some c →
      connections[i]? = some c ∨ i ∉ held ∧ c ∈ spent := by
    intro i c hi
    rcases Nat.lt_or_ge i connections.length with hlt | hge
    · rw [List.getElem?_append_left hlt] at hi
      exact .inl hi
    · rw [List.getElem?_append_right hge] at hi
      exact .inr ⟨fun hmem => Nat.not_lt.mpr hge (h.bound i hmem), List.mem_of_getElem? hi⟩
  refine ⟨fun i hi => ?_, h.nodup, fun i c hi => ?_, fun hfits i c hi => ?_⟩
  · rw [List.length_append]
    exact Nat.lt_add_right _ (h.bound i hi)
  · rcases hcases i c hi with hi | ⟨hfree, hspent⟩
    · exact h.beating i c hi
    · simp [hbeating c hspent, hfree]
  · rcases hcases i c hi with hi | ⟨hfree, hspent⟩
    · exact h.closes hfits i c hi
    · rw [hcloses hfits c hspent, if_neg hfree]

theorem closed {before after : List Nat} {i : Nat}
    (h : Kept settings (before ++ i :: after) connections) :
    Kept settings (before ++ after)
      (connections.modify i fun c => { c with closes := c.closes + 1, beating := false }) := by
  have hnodup := List.nodup_cons.mp (List.nodup_middle.mp h.nodup)
  have hmem : ∀ j, j ∈ before ++ i :: after ↔ j = i ∨ j ∈ before ++ after := by
    intro j
    rw [List.perm_middle.mem_iff, List.mem_cons]
  have hcases : ∀ j c', (connections.modify i fun c =>
      { c with closes := c.closes + 1, beating := false })[j]? = some c' →
      ∃ c, connections[j]? = some c ∧
        c' = if i = j then { c with closes := c.closes + 1, beating := false } else c := by
    intro j c' hj
    rw [List.getElem?_modify] at hj
    obtain ⟨c, hc, rfl⟩ := Option.map_eq_some_iff.mp hj
    exact ⟨c, hc, rfl⟩
  refine ⟨?_, hnodup.2, ?_, ?_⟩
  · intro j hj
    rw [List.length_modify]
    exact h.bound j ((hmem j).mpr (.inr hj))
  · intro j c' hj
    obtain ⟨c, hc, rfl⟩ := hcases j c' hj
    have hbeating := h.beating j c hc
    by_cases hij : i = j
    · subst j
      simp [hnodup.1]
    · simp only [hmem, Ne.symm hij, false_or] at hbeating
      simp [hij, hbeating]
  · intro hfits j c' hj
    obtain ⟨c, hc, rfl⟩ := hcases j c' hj
    have hcloses := h.closes hfits j c hc
    by_cases hij : i = j
    · subst j
      rw [if_pos ((hmem i).mpr (.inl rfl))] at hcloses
      simp [hcloses, hnodup.1]
    · simp only [hmem, Ne.symm hij, false_or] at hcloses
      simp [hij, hcloses]

theorem openConnections {g : Gateway} (h : Kept settings held g.connections)
    (hfits : settings.channelCapacity ≤ Feed.maxCapacity) : g.openConnections = held.length := by
  apply length_filter_of_places h.bound h.nodup
  intro i c hi
  rw [decide_eq_true_iff, h.closes hfits i c hi]
  by_cases hmem : i ∈ held <;> simp [hmem]

theorem liveHeartbeats {g : Gateway} (h : Kept settings held g.connections)
    (hbeats : ∀ c ∈ g.connections, settings.heartbeatBeats c.openedAt = true) :
    g.liveHeartbeats = held.length := by
  apply length_filter_of_places h.bound h.nodup
  intro i c hi
  simp [h.beating i c hi, hbeats c (List.mem_of_getElem? hi)]

end Tenancy.Kept

namespace Tenancy

variable {t t' : Tenancy} {act : Act}

/-- All that an act can do: nothing, an opening with whatever it comes to, the end of a session, a move of
a pump, or the end of all openings. -/
inductive Effect (t : Tenancy) : Act → Tenancy → Prop
  | idle {act : Act} (running : act ≠ .shutdown) : Effect t act t
  | failed {connector : Connector} {id : Uuid} {halt : Gateway.Halt} {g : Gateway}
      (h : t.gateway.Opening connector.clock id (.error halt) g) (name : String) :
      Effect t (.subscribe connector id name) { t with gateway := g }
  | opened {connector : Connector} {id : Uuid} {session : SessionHandle × Feed.Pump} {g : Gateway}
      (h : t.gateway.Opening connector.clock id (.ok session) g) (name : String) :
      Effect t (.subscribe connector id name) ⟨g, t.held ++ [session]⟩
  | ended {act : Act} (running : act ≠ .shutdown) (before after : List (SessionHandle × Feed.Pump))
      (session : SessionHandle × Feed.Pump) (holds : t.held = before ++ session :: after) :
      Effect t act ⟨(t.gateway.release session.1).2, before ++ after⟩
  | pumped {act : Act} (running : act ≠ .shutdown) (before after : List (SessionHandle × Feed.Pump))
      (handle : SessionHandle) {pump pump' : Feed.Pump} {move : Feed.Move} {tallies : List Tally}
      (holds : t.held = before ++ (handle, pump) :: after)
      (h : Feed.Pump.Made pump move pump' tallies) :
      Effect t act ⟨t.gateway.countAll tallies, before ++ (handle, pump') :: after⟩
  | shutdown : Effect t .shutdown { t with gateway := t.gateway.shutdown }

theorem after_effect (t : Tenancy) (act : Act) : Effect t act (t.after act) := by
  cases act with
  | subscribe connector id name =>
    have hopening := t.gateway.opening_of_subscribe connector id name
    simp only [after]
    split
    · next session g h =>
      rw [h] at hopening
      exact .opened hopening name
    · next halt g h =>
      rw [h] at hopening
      exact .failed hopening name
  | close session =>
    simp only [after]
    split
    · next handle pump h =>
      obtain ⟨before, rest, hheld, herase, -⟩ := split_of_getElem? h
      rw [t.gateway.release_release handle, herase]
      exact .ended (by simp) before rest (handle, pump) hheld
    · exact .idle (by simp)
  | drop session =>
    simp only [after]
    split
    · next handle pump h =>
      obtain ⟨before, rest, hheld, herase, -⟩ := split_of_getElem? h
      rw [herase]
      exact .ended (by simp) before rest (handle, pump) hheld
    · exact .idle (by simp)
  | pump session move =>
    simp only [after]
    split
    · next handle pump h =>
      obtain ⟨before, rest, hheld, -, hset⟩ := split_of_getElem? h
      split
      · next pump' tallies hmove =>
        rw [hset]
        exact .pumped (by simp) before rest handle hheld (Feed.Pump.made_of_move? hmove)
      · exact .idle (by simp)
    · exact .idle (by simp)
  | shutdown => exact .shutdown

theorem Effect.settings (h : Effect t act t') : t'.gateway.settings = t.gateway.settings := by
  cases h with
  | idle | pumped | shutdown => rfl
  | failed h | opened h => cases h <;> rfl
  | ended running before after session holds =>
    unfold Gateway.release
    split <;> rfl

theorem Effect.stopping_iff (h : Effect t act t') :
    t'.gateway.stopping = true ↔ t.gateway.stopping = true ∨ act = .shutdown := by
  cases h with
  | idle running => simp only [running, or_false]
  | pumped running =>
    simp only [running, or_false]
    rfl
  | failed h | opened h =>
    cases h <;> simp [Gateway.count, Gateway.closeSocket, Gateway.stopHeartbeat, Gateway.tried,
      Gateway.joined]
  | ended running before after session holds =>
    simp only [running, or_false]
    unfold Gateway.release
    split <;> rfl
  | shutdown => simp [Gateway.shutdown]

theorem Balanced.start (settings : Settings) (registry : Registry) :
    (start settings registry).Balanced where
  live := nofun
  nodup := List.nodup_nil
  listed := .refl []
  kept := ⟨nofun, List.nodup_nil, nofun, nofun⟩
  counted := rfl

theorem sessions_of_error {g g' : Gateway} {clock : Nat} {id : Uuid} {halt : Gateway.Halt}
    (h : g.Opening clock id (.error halt) g') :
    g'.settings = g.settings ∧ g'.telemetry.sessionsOpened = g.telemetry.sessionsOpened ∧
      g'.telemetry.sessionsClosed = g.telemetry.sessionsClosed := by
  cases h <;> exact ⟨rfl, rfl, rfl⟩

theorem Balanced.failed (ht : t.Balanced) {clock : Nat} {id : Uuid} {halt : Gateway.Halt} {g : Gateway}
    (h : t.gateway.Opening clock id (.error halt) g) : Balanced { t with gateway := g } := by
  obtain ⟨hsessions, spent, hconnections, -, hspent⟩ := h.of_error
  obtain ⟨hsettings, hopened, hclosed⟩ := sessions_of_error h
  refine ⟨ht.live, ht.nodup, ?_, ?_, ?_⟩
  · dsimp only
    rw [hsessions]
    exact ht.listed
  · dsimp only
    rw [hsettings, hconnections]
    refine ht.kept.left (fun c hc => (hspent c hc).2.1) fun hfits c hc => ?_
    have hcalm : halt ≠ .panicked := by
      rintro rfl
      exact Nat.not_lt.mpr hfits h.of_panicked.1
    exact (hspent c hc).2.2.trans (if_neg hcalm)
  · dsimp only
    rw [hopened, hclosed]
    exact ht.counted

theorem Balanced.opened (ht : t.Balanced) {clock : Nat} {id : Uuid}
    {session : SessionHandle × Feed.Pump} {g : Gateway}
    (hfresh : t.gateway.sessions.get? id = none)
    (h : t.gateway.Opening clock id (.ok session) g) : Balanced ⟨g, t.held ++ [session]⟩ := by
  cases h with
  | opened running fits rotation dialled url network index pump =>
    have hkept := ht.kept.opened (c := t.gateway.fresh url clock) rfl rfl
    have hid : id ∉ t.ids := by
      rw [← ht.listed.mem_iff]
      exact (Table.get?_eq_none_iff _ _).mp hfresh
    have hkeys := Table.keys_put_of_fresh hfresh (⟨network.id, index⟩ : SessionInfo)
    refine ⟨?_, ?_, ?_, ?_, ?_⟩
    · intro h hh
      rw [handles, List.map_append] at hh
      rcases List.mem_append.mp hh with hh | hh
      · exact ht.live h hh
      · rw [List.mem_singleton.mp hh]
    · rw [ids, handles, List.map_append, List.map_append, List.nodup_append]
      refine ⟨ht.nodup, List.nodup_singleton _, fun a ha b hb he => ?_⟩
      rw [he, List.mem_singleton.mp hb] at ha
      exact hid ha
    · rw [ids, handles, List.map_append, List.map_append]
      exact (List.Perm.of_eq hkeys).trans (ht.listed.append_right [id])
    · rw [sockets, handles, List.map_append, List.map_append]
      exact hkept
    · rw [List.length_append, List.length_singleton, UInt64.ofNat_add, ← UInt64.add_assoc]
      exact congrArg (· + 1) ht.counted

theorem Balanced.ended (ht : t.Balanced) {before after : List (SessionHandle × Feed.Pump)}
    {session : SessionHandle × Feed.Pump} (holds : t.held = before ++ session :: after) :
    Balanced ⟨(t.gateway.release session.1).2, before ++ after⟩ := by
  have hhandles : t.handles = before.map (·.1) ++ session.1 :: after.map (·.1) := by
    rw [handles, holds, List.map_append, List.map_cons]
  have hlive := ht.live
  have hnodup := ht.nodup
  have hlisted := ht.listed
  have hkept := ht.kept
  have hcounted := ht.counted
  rw [ids, hhandles, List.map_append, List.map_cons] at hnodup hlisted
  rw [sockets, hhandles, List.map_append, List.map_cons] at hkept
  rw [hhandles] at hlive
  rw [holds, List.length_append, List.length_cons, ← Nat.add_assoc, UInt64.ofNat_add] at hcounted
  have hopen : session.1.closed = false := hlive session.1 (by simp)
  rw [Gateway.release, if_neg (Bool.not_eq_true _ ▸ hopen)]
  refine ⟨?_, ?_, ?_, ?_, ?_⟩
  · intro h hh
    rw [handles, List.map_append] at hh
    apply hlive h
    rw [List.perm_middle.mem_iff]
    exact List.mem_cons_of_mem _ hh
  · rw [ids, handles, List.map_append, List.map_append]
    exact (List.nodup_cons.mp (List.nodup_middle.mp hnodup)).2
  · rw [ids, handles, List.map_append, List.map_append, ← filter_ne_of_nodup hnodup]
    exact (List.Perm.of_eq (Table.keys_erase _ _)).trans (hlisted.filter _)
  · rw [sockets, handles, List.map_append, List.map_append]
    exact hkept.closed
  · rw [List.length_append]
    change t.gateway.telemetry.sessionsOpened = t.gateway.telemetry.sessionsClosed + 1 + _
    rw [hcounted, UInt64.add_assoc]
    exact congrArg _ (UInt64.add_comm ..)

theorem Balanced.pumped (ht : t.Balanced) {before after : List (SessionHandle × Feed.Pump)}
    {handle : SessionHandle} {pump pump' : Feed.Pump} {move : Feed.Move} {tallies : List Tally}
    (holds : t.held = before ++ (handle, pump) :: after)
    (h : Feed.Pump.Made pump move pump' tallies) :
    Balanced ⟨t.gateway.countAll tallies, before ++ (handle, pump') :: after⟩ := by
  obtain ⟨hopened, hclosed⟩ := h.sessions t.gateway.telemetry
  have hhandles :
      handles ⟨t.gateway.countAll tallies, before ++ (handle, pump') :: after⟩ = t.handles := by
    rw [handles, handles, holds, List.map_append, List.map_append, List.map_cons, List.map_cons]
  refine ⟨?_, ?_, ?_, ?_, ?_⟩
  · rw [hhandles]
    exact ht.live
  · rw [ids, hhandles]
    exact ht.nodup
  · rw [ids, hhandles]
    exact ht.listed
  · rw [sockets, hhandles]
    exact ht.kept
  · have hlength := congrArg List.length hhandles
    rw [handles, handles, List.length_map, List.length_map] at hlength
    change (t.gateway.telemetry.recordAll tallies).sessionsOpened =
      (t.gateway.telemetry.recordAll tallies).sessionsClosed + _
    rw [hopened, hclosed, hlength]
    exact ht.counted

theorem Balanced.after (ht : t.Balanced) (hfresh : t.IsFresh act) : (t.after act).Balanced := by
  have heffect := t.after_effect act
  revert heffect
  generalize t.after act = t'
  intro heffect
  cases heffect with
  | idle => exact ht
  | failed h => exact ht.failed h
  | opened h => exact ht.opened hfresh h
  | ended running before after session holds => exact ht.ended holds
  | pumped running before after handle holds h => exact ht.pumped holds h
  | shutdown => exact ⟨ht.live, ht.nodup, ht.listed, ht.kept, ht.counted⟩

theorem Balanced.run {acts : List Act} (ht : t.Balanced) (hfresh : t.FreshRun acts) :
    (t.run acts).Balanced := by
  induction acts generalizing t with
  | nil => exact ht
  | cons act acts ih => exact ih (ht.after hfresh.1) hfresh.2

theorem settings_run (t : Tenancy) (acts : List Act) :
    (t.run acts).gateway.settings = t.gateway.settings := by
  induction acts generalizing t with
  | nil => rfl
  | cons act acts ih => exact (ih (t.after act)).trans (t.after_effect act).settings

theorem stopping_run (t : Tenancy) (acts : List Act) :
    (t.run acts).gateway.stopping = true ↔ t.gateway.stopping = true ∨ .shutdown ∈ acts := by
  induction acts generalizing t with
  | nil => simp [run]
  | cons act acts ih =>
    have hrest := ih (t.after act)
    rw [(t.after_effect act).stopping_iff] at hrest
    rw [List.mem_cons, ← or_assoc, eq_comm (a := Act.shutdown)]
    exact hrest

theorem Balanced.size (ht : t.Balanced) : t.gateway.sessions.size = t.held.length := by
  rw [← Table.length_keys, ht.listed.length_eq, ids, handles, List.length_map, List.length_map]

theorem length_sockets (t : Tenancy) : t.sockets.length = t.held.length := by
  rw [sockets, handles, List.length_map, List.length_map]

theorem map_openedAt_modify {f : Connection → Connection} (hf : ∀ c, (f c).openedAt = c.openedAt)
    (l : List Connection) (i : Nat) : (l.modify i f).map (·.openedAt) = l.map (·.openedAt) := by
  refine List.ext_getElem? fun j => ?_
  rw [List.getElem?_map, List.getElem?_map, List.getElem?_modify]
  cases l[j]? with
  | none => rfl
  | some c =>
    simp only [Option.map_eq_map, Option.map_some]
    split
    · rw [hf]
    · rfl

theorem Effect.openedAt (h : Effect t act t') : ∀ c ∈ t'.gateway.connections,
    c.openedAt ∈ t.gateway.connections.map (·.openedAt) ∨
      ∃ connector id name, act = .subscribe connector id name ∧ connector.clock = c.openedAt := by
  intro c hc
  cases h with
  | idle | pumped | shutdown => exact .inl (List.mem_map_of_mem hc)
  | @failed connector id halt g h name =>
    obtain ⟨-, spent, hconnections, -, hspent⟩ := h.of_error
    dsimp only at hc
    rw [hconnections] at hc
    rcases List.mem_append.mp hc with hc | hc
    · exact .inl (List.mem_map_of_mem hc)
    · exact .inr ⟨connector, id, name, rfl, (hspent c hc).1.symm⟩
  | @opened connector id session g h name =>
    cases h with
    | opened running fits rotation dialled url network index pump =>
      rcases List.mem_append.mp hc with hc | hc
      · exact .inl (List.mem_map_of_mem hc)
      · rw [List.mem_singleton.mp hc]
        exact .inr ⟨connector, id, name, rfl, rfl⟩
  | ended running before after session holds =>
    -- a session that ends changes sockets, but not when they were opened
    left
    have hmem : c.openedAt ∈ ((t.gateway.release session.1).2.connections).map (·.openedAt) :=
      List.mem_map_of_mem hc
    unfold Gateway.release at hmem
    split at hmem
    · exact hmem
    · simp only [Gateway.closeSocket, Gateway.count] at hmem
      rw [map_openedAt_modify] at hmem
      · exact hmem
      · exact fun _ => rfl

theorem openedAt_run (t : Tenancy) (acts : List Act) : ∀ c ∈ (t.run acts).gateway.connections,
    c.openedAt ∈ t.gateway.connections.map (·.openedAt) ∨
      ∃ connector id name, .subscribe connector id name ∈ acts ∧ connector.clock = c.openedAt := by
  induction acts generalizing t with
  | nil => exact fun c hc => .inl (List.mem_map_of_mem hc)
  | cons act acts ih =>
    intro c hc
    rcases ih (t.after act) c hc with hbefore | ⟨connector, id, name, hmem, hclock⟩
    · obtain ⟨c', hc', hsame⟩ := List.mem_map.mp hbefore
      rw [← hsame]
      refine ((t.after_effect act).openedAt c' hc').imp_right ?_
      rintro ⟨connector, id, name, rfl, hclock⟩
      exact ⟨connector, id, name, List.mem_cons_self, hclock⟩
    · exact .inr ⟨connector, id, name, List.mem_cons_of_mem _ hmem, hclock⟩

theorem counted_of_failed {g g' : Gateway} {clock : Nat} {id : Uuid} {e : GatewayError}
    (h : g.Opening clock id (.error (.failed e)) g') (hrunning : g.stopping ≠ true) :
    g'.telemetry =
      { g.telemetry with sessionOpenFailures := g.telemetry.sessionOpenFailures + 1 } := by
  cases h with
  | refused stopping => exact absurd stopping hrunning
  | unreached | unsubscribed => rfl

/-- Whatever happens to the sessions of a gateway, what is listed, held and counted comes to the same. A
held session beats if its heartbeat could start when it was opened, so that the heartbeats come to the
same too if each could. So do the open sockets, and each one was closed once if it is not held and never
if it is, if channels can be made so wide. Before the gateway shuts down an opening that fails is counted
and leaves behind what was there; after that it changes nothing. An opening that panics is not counted,
and leaves an open socket behind. -/
theorem resources_run (settings : Settings) (registry : Registry) (acts : List Act)
    (hfresh : (start settings registry).FreshRun acts) :
    let t := (start settings registry).run acts
    t.gateway.sessions.size = t.held.length ∧
    t.gateway.telemetry.sessionsOpened - t.gateway.telemetry.sessionsClosed =
      UInt64.ofNat t.held.length ∧
    (∀ i c, t.gateway.connections[i]? = some c →
      c.beating = (decide (i ∈ t.sockets) && settings.heartbeatBeats c.openedAt)) ∧
    ((∀ connector id name, .subscribe connector id name ∈ acts →
      settings.heartbeatBeats connector.clock = true) → t.gateway.liveHeartbeats = t.held.length) ∧
    (settings.channelCapacity ≤ Feed.maxCapacity → t.gateway.openConnections = t.held.length ∧
      (∀ i c, t.gateway.connections[i]? = some c → c.closes = if i ∈ t.sockets then 0 else 1) ∧
      ∀ connector id name, (t.gateway.subscribe connector id name).1 ≠ .error .panicked) ∧
    (.shutdown ∈ acts → ∀ connector id name, t.gateway.subscribe connector id name =
      (.error (.failed { code := .apiUnavailable, message := "Gateway is shutting down" }),
        t.gateway)) ∧
    (.shutdown ∉ acts → ∀ connector id name e g,
      t.gateway.subscribe connector id name = (.error (.failed e), g) →
        g.sessions = t.gateway.sessions ∧ g.openConnections = t.gateway.openConnections ∧
        g.liveHeartbeats = t.gateway.liveHeartbeats ∧
        t.gateway.connections <+: g.connections ∧
        (∀ i c, t.gateway.connections.length ≤ i → g.connections[i]? = some c → c.closes = 1) ∧
        g.telemetry = { t.gateway.telemetry with
          sessionOpenFailures := t.gateway.telemetry.sessionOpenFailures + 1 }) ∧
    (∀ connector id name g, t.gateway.subscribe connector id name = (.error .panicked, g) →
      g.sessions = t.gateway.sessions ∧ g.openConnections = t.gateway.openConnections + 1 ∧
      g.liveHeartbeats = t.gateway.liveHeartbeats ∧ g.telemetry = t.gateway.telemetry) := by
  intro t
  have ht : t.Balanced := (Balanced.start settings registry).run hfresh
  have hsettings : t.gateway.settings = settings := settings_run _ acts
  have hstopping : t.gateway.stopping = true ↔ .shutdown ∈ acts :=
    (stopping_run (start settings registry) acts).trans (or_iff_right Bool.false_ne_true)
  have hkept : Kept settings t.sockets t.gateway.connections := hsettings ▸ ht.kept
  refine ⟨ht.size, ?_, hkept.beating, fun hbeats => ?_, fun hfits => ⟨?_, hkept.closes hfits, ?_⟩, ?_, ?_,
    ?_⟩
  · rw [ht.counted, UInt64.add_comm, UInt64.add_sub_cancel]
  · rw [hkept.liveHeartbeats, t.length_sockets]
    intro c hc
    rcases openedAt_run (start settings registry) acts c hc with hnone | ⟨connector, id, name, hmem, hclock⟩
    · cases hnone
    · rw [← hclock]
      exact hbeats connector id name hmem
  · rw [hkept.openConnections hfits, t.length_sockets]
  · intro connector id name hpanics
    have hopening := t.gateway.opening_of_subscribe connector id name
    rw [hpanics] at hopening
    obtain ⟨hwide, -⟩ := hopening.of_panicked
    rw [hsettings] at hwide
    exact Nat.not_lt.mpr hfits hwide
  · intro hshutdown connector id name
    rw [Gateway.subscribe, if_pos (hstopping.mpr hshutdown)]
  · intro hshutdown connector id name e g hsubscribe
    have hopening := t.gateway.opening_of_subscribe connector id name
    rw [hsubscribe] at hopening
    obtain ⟨hsessions, spent, hconnections, -, hspent⟩ := hopening.of_error
    have htelemetry := counted_of_failed hopening fun hstop => hshutdown (hstopping.mp hstop)
    dsimp only at hconnections hsessions
    refine ⟨hsessions, hopening.openConnections, hopening.liveHeartbeats, ?_, fun i c hi hc => ?_,
      htelemetry⟩
    · rw [hconnections]
      exact List.prefix_append _ _
    · rw [hconnections, List.getElem?_append_right hi] at hc
      exact (hspent c (List.mem_of_getElem? hc)).2.2
  · intro connector id name g hsubscribe
    have hopening := t.gateway.opening_of_subscribe connector id name
    rw [hsubscribe] at hopening
    obtain ⟨hsessions, -⟩ := hopening.of_error
    obtain ⟨-, htelemetry⟩ := hopening.of_panicked
    exact ⟨hsessions, hopening.openConnections, hopening.liveHeartbeats, htelemetry⟩

def sampleConnector (subscribes : Bool) : Connector where
  connect _ := .ok ()
  subscribe url := if subscribes then .ok () else .error (Connector.unreached url)
  clock := 0

def sampleRegistry : Registry :=
  ⟨[⟨"sepolia", 11155111, "Sepolia", "ETH", "", ["wss://a", "wss://b"], ""⟩], "sepolia"⟩

/-- Of three sessions one is closed and one dropped; other openings fail, the last one for good. -/
def sampleActs : List Act :=
  [.subscribe (sampleConnector true) (.filled 16 1) "sepolia",
    .subscribe .unreachable (.filled 16 2) "sepolia",
    .subscribe (sampleConnector true) (.filled 16 2) "11155111",
    .subscribe (sampleConnector false) (.filled 16 3) "sepolia", .pump 0 .receive, .pump 0 .endSource,
    .pump 0 .close, .close 0, .subscribe (sampleConnector true) (.filled 16 3) "sepolia", .drop 0,
    .shutdown, .subscribe (sampleConnector true) (.filled 16 4) "sepolia"]

theorem resources_run_sampleActs :
    (start {} sampleRegistry).FreshRun sampleActs ∧
      let t := (start {} sampleRegistry).run sampleActs
      t.held.length = 1 ∧ t.gateway.sessions.size = 1 ∧ t.gateway.openConnections = 1 ∧
        t.gateway.liveHeartbeats = 1 ∧ t.gateway.telemetry.sessionOpenFailures = 2 ∧
        t.gateway.connections.map (·.closes) = [1, 1, 1, 0] := by
  have hfresh : (start {} sampleRegistry).FreshRun sampleActs := by decide +kernel
  have hheld : ((start {} sampleRegistry).run sampleActs).held.length = 1 := by decide +kernel
  obtain ⟨hsize, -, -, hheartbeats, hfits, -⟩ := resources_run {} sampleRegistry sampleActs hfresh
  obtain ⟨hconnections, -⟩ := hfits (by decide)
  have hbeats : ∀ connector id name, .subscribe connector id name ∈ sampleActs →
      Settings.heartbeatBeats {} connector.clock = true := by
    intro connector id name hmem
    simp only [sampleActs, List.mem_cons, Act.subscribe.injEq, reduceCtorEq, false_or,
      List.not_mem_nil, or_false] at hmem
    rcases hmem with ⟨rfl, -⟩ | ⟨rfl, -⟩ | ⟨rfl, -⟩ | ⟨rfl, -⟩ | ⟨rfl, -⟩ | ⟨rfl, -⟩ <;> decide
  rw [hheld] at hsize hconnections hheartbeats
  exact ⟨hfresh, hheld, hsize, hconnections, hheartbeats hbeats, by decide +kernel, by decide +kernel⟩

/-- With a period past the end of the clock no heartbeat lives, though the session does. With a channel
wider than can be made a socket is left open that belongs to no session. -/
theorem resources_astray :
    (let t := (start { heartbeatSecs := 18446744073709551615 } sampleRegistry).run
      [.subscribe (sampleConnector true) (.filled 16 1) "sepolia"]
    t.held.length = 1 ∧ t.gateway.sessions.size = 1 ∧ t.gateway.openConnections = 1 ∧
      t.gateway.liveHeartbeats = 0) ∧
    let t := (start { channelCapacity := 2305843009213693952 } sampleRegistry).run
      [.subscribe (sampleConnector true) (.filled 16 1) "sepolia"]
    t.held.length = 0 ∧ t.gateway.sessions.size = 0 ∧ t.gateway.openConnections = 1 ∧
      t.gateway.liveHeartbeats = 0 ∧ t.gateway.telemetry.sessionOpenFailures = 0 := by
  decide +kernel

end Tenancy

end MempoolGate
