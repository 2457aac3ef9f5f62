import MempoolGate.Gateway.Session

namespace MempoolGate.Gateway

theorem selectEndpoint_settings (g : Gateway) (name : String) :
    (g.selectEndpoint name).2.settings = g.settings := by
  simp only [selectEndpoint]
  split <;> rfl

theorem openSocket_settings (g : Gateway) (connector : Connector) (name : String) :
    (g.openSocket connector name).2.settings = g.settings := by
  have hselect := g.selectEndpoint_settings name
  simp only [openSocket]
  split
  · next hs =>
    rw [hs] at hselect
    exact hselect
  · next hs =>
    rw [hs] at hselect
    split <;> exact hselect

theorem pump_of_subscribe {g g' : Gateway} {connector : Connector} {id : Uuid} {name : String}
    {handle : SessionHandle} {pump : Feed.Pump}
    (h : g.subscribe connector id name = (.ok (handle, pump), g')) :
    pump = .start handle.network g.limits id handle.endpointIndex := by
  unfold subscribe at h
  split at h
  · cases h
  · split at h
    · cases h
    · next opened g1 hopen =>
      have hsettings := g.openSocket_settings connector name
      rw [hopen] at hsettings
      split at h
      · cases h
      · split at h <;> cases h
        simp only [limits, count]
        rw [hsettings]

def tried (g : Gateway) (rotation : Rotation) (dialled : List String) : Gateway :=
  { g with rotation := rotation, dialled := dialled }

def fresh (g : Gateway) (url : String) (clock : Nat) : Connection :=
  { url := url, openedAt := clock, beating := g.settings.heartbeatBeats clock }

def joined (g : Gateway) (url : String) (clock : Nat) : Gateway :=
  { g with connections := g.connections ++ [g.fresh url clock] }

/-- What opening a feed comes to: it is refused, no socket is opened, the socket cannot be subscribed on,
no channel can be made for it, or the feed is there. -/
inductive Opening (g : Gateway) (clock : Nat) (id : Uuid) :
    Except Halt (SessionHandle × Feed.Pump) → Gateway → Prop
  | refused (stopping : g.stopping = true) :
      Opening g clock id
        (.error (.failed { code := .apiUnavailable, message := "Gateway is shutting down" })) g
  | unreached (running : g.stopping = false) (e : GatewayError) (rotation : Rotation)
      (dialled : List String) :
      Opening g clock id (.error (.failed e)) ((g.tried rotation dialled).count .sessionOpenFailed)
  | unsubscribed (running : g.stopping = false) (e : GatewayError) (rotation : Rotation)
      (dialled : List String) (url : String) :
      Opening g clock id (.error (.failed (subscriptionError e)))
        ((((g.tried rotation dialled).joined url clock).count .sessionOpenFailed).closeSocket
          g.connections.length)
  | panicked (running : g.stopping = false) (wide : Feed.maxCapacity < g.limits.capacity)
      (rotation : Rotation) (dialled : List String) (url : String) :
      Opening g clock id (.error .panicked)
        (((g.tried rotation dialled).joined url clock).stopHeartbeat g.connections.length)
  | opened (running : g.stopping = false) (fits : g.limits.capacity ≤ Feed.maxCapacity)
      (rotation : Rotation) (dialled : List String) (url : String) (network : Network)
      (index : UInt64) (pump : Feed.Pump) :
      Opening g clock id (.ok (⟨⟨network, index, g.connections.length⟩, id, false⟩, pump))
        ({ (g.tried rotation dialled).joined url clock with
            sessions := g.sessions.put id ⟨network.id, index⟩ }.count .sessionOpened)

theorem fits_iff (g : Gateway) :
    g.limits.capacity ≤ Feed.maxCapacity ↔ g.settings.channelCapacity ≤ Feed.maxCapacity := by
  have hone : 1 ≤ Feed.maxCapacity := by decide
  exact ⟨Nat.le_trans (Nat.le_max_right ..), fun hfits => Nat.max_le.mpr ⟨hone, hfits⟩⟩

theorem selectEndpoint_tried (g : Gateway) (name : String) :
    ∃ rotation, (g.selectEndpoint name).2 = g.tried rotation g.dialled := by
  simp only [selectEndpoint]
  split
  · exact ⟨g.rotation, rfl⟩
  · exact ⟨_, rfl⟩

theorem openSocket_cases (g : Gateway) (connector : Connector) (name : String) :
    (∃ e rotation dialled, g.openSocket connector name = (.error e, g.tried rotation dialled)) ∨
    ∃ network index rotation dialled url, g.openSocket connector name =
      (.ok ⟨network, index, g.connections.length⟩,
        (g.tried rotation dialled).joined url connector.clock) := by
  obtain ⟨rotation, hrotation⟩ := g.selectEndpoint_tried name
  simp only [openSocket]
  split
  · next e g1 hselect =>
    rw [hselect] at hrotation
    exact .inl ⟨e, rotation, g.dialled, by rw [← hrotation]⟩
  · next network index g1 hselect =>
    rw [hselect] at hrotation
    obtain rfl : g1 = g.tried rotation g.dialled := hrotation
    split
    · next e _ => exact .inl ⟨e, rotation, _, rfl⟩
    · let url := network.wsUrls.getD index.toNat ""
      exact .inr ⟨network, index, rotation, g.dialled ++ [url], url, rfl⟩

theorem opening_of_subscribe (g : Gateway) (connector : Connector) (id : Uuid) (name : String) :
    Opening g connector.clock id (g.subscribe connector id name).1
      (g.subscribe connector id name).2 := by
  unfold subscribe
  split
  · next hstopping => exact .refused hstopping
  · next hstopping =>
    have hrunning : g.stopping = false := Bool.eq_false_iff.mpr hstopping
    rcases g.openSocket_cases connector name with ⟨e, rotation, dialled, h⟩ |
      ⟨network, index, rotation, dialled, url, h⟩
    · simp only [h]
      exact .unreached hrunning e rotation dialled
    · simp only [h]
      split
      · next e _ => exact .unsubscribed hrunning e rotation dialled url
      · split
        · next hfits => exact .opened hrunning hfits rotation dialled url network index _
        · next hwide => exact .panicked hrunning (Nat.not_le.mp hwide) rotation dialled url

/-- An opening without a feed lists none. If it leaves a socket behind, this one does not beat; it was
closed once, unless the opening panicked. -/
theorem Opening.of_error {g g' : Gateway} {clock : Nat} {id : Uuid} {halt : Halt}
    (h : g.Opening clock id (.error halt) g') :
    g'.sessions = g.sessions ∧ ∃ spent, g'.connections = g.connections ++ spent ∧
      (halt = .panicked → spent.length = 1) ∧
      ∀ c ∈ spent, c.openedAt = clock ∧ c.beating = false ∧
        c.closes = if halt = .panicked then 0 else 1 := by
  have hmodify : ∀ f (c : Connection),
      (g.connections ++ [c]).modify g.connections.length f = g.connections ++ [f c] := by
    intro f c
    rw [List.modify_eq_take_cons_drop (by simp), List.take_left]
    simp
  cases h with
  | refused | unreached => exact ⟨rfl, [], (List.append_nil _).symm, nofun, nofun⟩
  | unsubscribed running e rotation dialled url =>
    refine ⟨rfl, _, hmodify _ _, nofun, fun c hc => ?_⟩
    rw [List.mem_singleton.mp hc]
    exact ⟨rfl, rfl, rfl⟩
  | panicked running wide rotation dialled url =>
    refine ⟨rfl, _, hmodify _ _, fun _ => rfl, fun c hc => ?_⟩
    rw [List.mem_singleton.mp hc]
    exact ⟨rfl, rfl, rfl⟩

theorem Opening.liveHeartbeats {g g' : Gateway} {clock : Nat} {id : Uuid} {halt : Halt}
    (h : g.Opening clock id (.error halt) g') : g'.liveHeartbeats = g.liveHeartbeats := by
  obtain ⟨-, spent, hconnections, -, hspent⟩ := h.of_error
  have hstill : spent.filter (·.beating) = [] :=
    List.filter_eq_nil_iff.mpr fun c hc => by simp [(hspent c hc).2.1]
  rw [Gateway.liveHeartbeats, hconnections, List.filter_append, hstill, List.append_nil]
  rfl

theorem Opening.openConnections {g g' : Gateway} {clock : Nat} {id : Uuid} {halt : Halt}
    (h : g.Opening clock id (.error halt) g') :
    g'.openConnections = g.openConnections + if halt = .panicked then 1 else 0 := by
  obtain ⟨-, spent, hconnections, hlength, hspent⟩ := h.of_error
  rw [Gateway.openConnections, hconnections, List.filter_append, List.length_append]
  refine congrArg (g.openConnections + ·) ?_
  by_cases hhalt : halt = .panicked
  · have hopen : spent.filter (·.closes = 0) = spent :=
      List.filter_eq_self.mpr fun c hc => by simp [(hspent c hc).2.2, hhalt]
    rw [hopen, hlength hhalt, if_pos hhalt]
  · have hopen : spent.filter (·.closes = 0) = [] :=
      List.filter_eq_nil_iff.mpr fun c hc => by simp [(hspent c hc).2.2, hhalt]
    rw [hopen, if_neg hhalt]
    rfl

theorem Opening.of_panicked {g g' : Gateway} {clock : Nat} {id : Uuid}
    (h : g.Opening clock id (.error .panicked) g') :
    Feed.maxCapacity < g.settings.channelCapacity ∧ g'.telemetry = g.telemetry := by
  cases h with
  | panicked running wide => exact ⟨Nat.not_le.mp (mt g.fits_iff.mpr (Nat.not_le.mpr wide)), rfl⟩

theorem release_of_closed (g : Gateway) {h : SessionHandle} (hclosed : h.closed = true) :
    g.release h = (h, g) := by
  rw [release, if_pos hclosed]

theorem release_release (g : Gateway) (h : SessionHandle) :
    (g.release h).2.release (g.release h).1 = g.release h := by
  have hclosed : (g.release h).1.closed = true := by
    unfold release
    split
    · next hclosed => exact hclosed
    · rfl
  exact release_of_closed _ hclosed

end MempoolGate.Gateway
