import MempoolGate.Proofs.Gateway.Session
import MempoolGate.Proofs.Registry
import MempoolGate.Proofs.Session.Rotation

namespace MempoolGate.Gateway

def turnOf (g : Gateway) (net : Network) : UInt64 :=
  (g.rotation.next net.id net.wsUrls.length).1

def urlOf (g : Gateway) (net : Network) : String :=
  net.wsUrls.getD (g.turnOf net).toNat ""

def turned (g : Gateway) (net : Network) : Gateway :=
  g.tried (g.rotation.next net.id net.wsUrls.length).2 (g.dialled ++ [g.urlOf net])

variable {g g' : Gateway} {connector : Connector} {name : String} {net : Network}

theorem openSocket_of_noEndpoints (h : (g.registry.resolve name).wsUrls = [])
    (connector : Connector) : ∃ e, g.openSocket connector name = (.error e, g) := by
  simp only [openSocket, selectEndpoint, if_pos h]
  exact ⟨_, rfl⟩

theorem openSocket_of_endpoints (h : (g.registry.resolve name).wsUrls ≠ [])
    (connector : Connector) :
    g.openSocket connector name =
      match connector.connect (g.urlOf (g.registry.resolve name)) with
      | .error e => (.error e, g.turned (g.registry.resolve name))
      | .ok () =>
        (.ok ⟨g.registry.resolve name, g.turnOf (g.registry.resolve name), g.connections.length⟩,
          (g.turned (g.registry.resolve name)).joined (g.urlOf (g.registry.resolve name))
            connector.clock) := by
  simp only [openSocket, selectEndpoint, if_neg h]
  rfl

theorem openSocket_ok {opened : Opened} (h : g.openSocket connector name = (.ok opened, g')) :
    (g.registry.resolve name).wsUrls ≠ [] ∧ opened.network = g.registry.resolve name ∧
      opened.endpointIndex = g.turnOf (g.registry.resolve name) := by
  by_cases hurls : (g.registry.resolve name).wsUrls = []
  · obtain ⟨e, he⟩ := openSocket_of_noEndpoints hurls connector
    rw [he] at h
    cases h
  · rw [openSocket_of_endpoints hurls] at h
    split at h <;> cases h
    exact ⟨hurls, rfl, rfl⟩

theorem subscribe_ok {id : Uuid} {handle : SessionHandle} {pump : Feed.Pump}
    (h : g.subscribe connector id name = (.ok (handle, pump), g')) :
    (g.registry.resolve name).wsUrls ≠ [] ∧ handle.network = g.registry.resolve name ∧
      handle.endpointIndex = g.turnOf (g.registry.resolve name) ∧
      g'.sessions.get? id =
        some ⟨(g.registry.resolve name).id, g.turnOf (g.registry.resolve name)⟩ := by
  unfold subscribe at h
  split at h
  · cases h
  · split at h
    · cases h
    · next opened g₁ hopen =>
      obtain ⟨hurls, hnetwork, hindex⟩ := openSocket_ok hopen
      split at h
      · cases h
      · split at h <;> cases h
        refine ⟨hurls, hnetwork, hindex, ?_⟩
        rw [← hindex, ← hnetwork]
        exact Table.get?_put_self ..

/-- Whoever asks next for a socket of the network is given one on this endpoint, or none, and told so. Who
asks for a feed is told nothing if no channel can be made for it. -/
structure Dials (g : Gateway) (name : String) (net : Network) (index : UInt64) (url : String) :
    Prop where
  dialled : ∀ connector id, (g.openSocket connector name).2.dialled = g.dialled ++ [url] ∧
    (g.subscribe connector id name).2.dialled = g.dialled ++ [url]
  unreached : ∀ connector id e, connector.connect url = .error e →
    (g.openSocket connector name).1 = .error e ∧
      (g.subscribe connector id name).1 = .error (.failed e)
  opened : ∀ connector, connector.connect url = .ok () →
    (g.openSocket connector name).1 = .ok ⟨net, index, g.connections.length⟩
  subscribed : g.limits.capacity ≤ Feed.maxCapacity → ∀ connector id,
    connector.connect url = .ok () → connector.subscribe url = .ok () →
    ∃ handle pump g', g.subscribe connector id name = (.ok (handle, pump), g') ∧
      handle.network = net ∧ handle.endpointIndex = index ∧
      g'.sessions.get? id = some ⟨net.id, index⟩ ∧ ⟨net.id, index⟩ ∈ g'.listSessions ∧
      pump.channel = [.connected id net.id net.chainId index
        ("Connected to " ++ net.name ++ " mempool feed")]
  panicked : Feed.maxCapacity < g.limits.capacity → ∀ connector id,
    connector.connect url = .ok () → connector.subscribe url = .ok () →
    (g.subscribe connector id name).1 = .error .panicked

/-- What the turns of a gateway depend on, and the addresses it has dialled. -/
def course (g : Gateway) : Registry × Rotation × List String × Bool :=
  (g.registry, g.rotation, g.dialled, g.stopping)

theorem course_openSocket (h : (g.registry.resolve name).wsUrls ≠ []) (connector : Connector) :
    (g.openSocket connector name).2.course = (g.turned (g.registry.resolve name)).course := by
  rw [openSocket_of_endpoints h]
  split <;> rfl

theorem course_subscribe (h : g.stopping = false) (connector : Connector) (id : Uuid) (name : String) :
    (g.subscribe connector id name).2.course = (g.openSocket connector name).2.course := by
  unfold subscribe
  rw [if_neg (Bool.eq_false_iff.mp h)]
  split
  · next hopen =>
    rw [hopen]
    rfl
  · next hopen =>
    rw [hopen]
    split
    · rfl
    · split <;> rfl

theorem course_release (g : Gateway) (handle : SessionHandle) :
    (g.release handle).2.course = g.course := by
  unfold release
  split <;> rfl

theorem mem_listSessions {id : Uuid} {info : SessionInfo} (h : g.sessions.get? id = some info) :
    info ∈ g.listSessions :=
  List.mem_mergeSort.mpr (Table.mem_values_of_get? h)

theorem dials (hrunning : g.stopping = false) (hurls : (g.registry.resolve name).wsUrls ≠ []) :
    g.Dials name (g.registry.resolve name) (g.turnOf (g.registry.resolve name))
      (g.urlOf (g.registry.resolve name)) := by
  have hsocket := openSocket_of_endpoints hurls
  have hdialled : ∀ connector, (g.openSocket connector name).2.dialled =
      g.dialled ++ [g.urlOf (g.registry.resolve name)] := fun connector =>
    congrArg (·.2.2.1) (course_openSocket hurls connector)
  constructor
  case dialled =>
    intro connector id
    have hsame := congrArg (·.2.2.1) (course_subscribe hrunning connector id name)
    exact ⟨hdialled connector, hsame.trans (hdialled connector)⟩
  case unreached =>
    intro connector id e hconnect
    have hopen := hsocket connector
    rw [hconnect] at hopen
    refine ⟨congrArg Prod.fst hopen, ?_⟩
    unfold subscribe
    rw [if_neg (Bool.eq_false_iff.mp hrunning), hopen]
  case opened =>
    intro connector hconnect
    rw [hsocket, hconnect]
  case subscribed =>
    intro hfits connector id hconnect hsubscribe
    have hopen := hsocket connector
    rw [hconnect] at hopen
    have hfeed : ∃ handle pump g', g.subscribe connector id name = (.ok (handle, pump), g') := by
      unfold subscribe
      rw [if_neg (Bool.eq_false_iff.mp hrunning), hopen]
      change connector.subscribe ((g.registry.resolve name).wsUrls.getD _ "") = _ at hsubscribe
      simp only [hsubscribe]
      exact ⟨_, _, _, if_pos hfits⟩
    obtain ⟨handle, pump, g', hfeed⟩ := hfeed
    obtain ⟨-, hnetwork, hindex, hlisted⟩ := subscribe_ok hfeed
    refine ⟨handle, pump, g', hfeed, hnetwork, hindex, hlisted, mem_listSessions hlisted, ?_⟩
    rw [pump_of_subscribe hfeed, hnetwork, hindex]
    rfl
  case panicked =>
    intro hwide connector id hconnect hsubscribe
    have hopen := hsocket connector
    rw [hconnect] at hopen
    unfold subscribe
    rw [if_neg (Bool.eq_false_iff.mp hrunning), hopen]
    change connector.subscribe ((g.registry.resolve name).wsUrls.getD _ "") = _ at hsubscribe
    simp only [hsubscribe]
    exact congrArg Prod.fst (if_neg (Nat.not_le.mpr hwide))

inductive Errand
  | openSocket (connector : Connector) (name : String)
  | subscribe (connector : Connector) (id : Uuid) (name : String)
  | release (handle : SessionHandle)

def Errand.isOn (registry : Registry) (net : Network) : Errand → Bool
  | .openSocket _ name | .subscribe _ _ name => registry.resolve name = net
  | .release _ => false

def asked (g : Gateway) : Errand → Gateway
  | .openSocket connector name => (g.openSocket connector name).2
  | .subscribe connector id name => (g.subscribe connector id name).2
  | .release handle => (g.release handle).2

def askedAll (g : Gateway) (errands : List Errand) : Gateway :=
  errands.foldl asked g

/-- So many turns were taken of each network that has endpoints. -/
structure OnTurn (registry : Registry) (taken : Network → Nat) (g : Gateway) : Prop where
  serves : g.registry = registry
  running : g.stopping = false
  counters : ∀ name, (registry.resolve name).wsUrls ≠ [] →
    (g.rotation.counters.get? (registry.resolve name).id).getD 0 =
      UInt64.ofNat (taken (registry.resolve name))

namespace OnTurn

variable {registry : Registry} {taken : Network → Nat}

theorem of_course (h : OnTurn registry taken g) (hcourse : g'.course = g.course) :
    OnTurn registry taken g' := by
  simp only [course, Prod.mk.injEq] at hcourse
  obtain ⟨hregistry, hrotation, -, hstopping⟩ := hcourse
  refine ⟨hregistry.trans h.serves, hstopping.trans h.running, ?_⟩
  rw [hrotation]
  exact h.counters

theorem turned (h : OnTurn registry taken g) (hurls : (registry.resolve name).wsUrls ≠ []) :
    OnTurn registry (fun net => taken net + if registry.resolve name = net then 1 else 0)
      (g.turned (registry.resolve name)) := by
  refine ⟨h.serves, h.running, fun other hother => ?_⟩
  have hcount : (registry.resolve name).wsUrls.length ≠ 0 := fun hzero =>
    hurls (List.eq_nil_of_length_eq_zero hzero)
  simp only [Gateway.turned, tried, Rotation.next, if_neg hcount, Table.get?_put]
  by_cases hid : (registry.resolve name).id = (registry.resolve other).id
  · have hsame := Registry.resolve_eq_of_endpoints hurls hother hid
    rw [if_pos hid, if_pos hsame, Option.getD_some, hsame, h.counters other hother, UInt64.ofNat_add]
    rfl
  · have hne : registry.resolve name ≠ registry.resolve other := fun hsame => hid (congrArg (·.id) hsame)
    rw [if_neg hid, if_neg hne]
    exact h.counters other hother

theorem idle (h : OnTurn registry taken g) (hurls : (registry.resolve name).wsUrls = []) :
    OnTurn registry (fun net => taken net + if registry.resolve name = net then 1 else 0) g := by
  refine ⟨h.serves, h.running, fun other hother => ?_⟩
  have hne : registry.resolve name ≠ registry.resolve other := fun hsame => hother (hsame ▸ hurls)
  rw [if_neg hne]
  exact h.counters other hother

theorem openSocket (h : OnTurn registry taken g) (connector : Connector) (name : String) :
    OnTurn registry (fun net => taken net + if registry.resolve name = net then 1 else 0)
      (g.openSocket connector name).2 := by
  obtain rfl := h.serves
  by_cases hurls : (g.registry.resolve name).wsUrls = []
  · obtain ⟨e, he⟩ := openSocket_of_noEndpoints hurls connector
    rw [he]
    exact h.idle hurls
  · exact (h.turned hurls).of_course (course_openSocket hurls connector)

theorem asked (h : OnTurn registry taken g) (errand : Errand) :
    OnTurn registry (fun net => taken net + if errand.isOn registry net then 1 else 0)
      (g.asked errand) := by
  cases errand with
  | openSocket connector name =>
    simp only [Errand.isOn, decide_eq_true_eq]
    exact h.openSocket connector name
  | subscribe connector id name =>
    simp only [Errand.isOn, decide_eq_true_eq]
    exact (h.openSocket connector name).of_course (course_subscribe h.running connector id name)
  | release handle => exact h.of_course (g.course_release handle)

theorem askedAll (settings : Settings) (registry : Registry) (errands : List Errand) :
    OnTurn registry (fun net => errands.countP (·.isOn registry net))
      ((start settings registry).askedAll errands) := by
  induction errands using List.reverseRecOn with
  | nil => exact ⟨rfl, rfl, fun _ _ => rfl⟩
  | append_singleton errands errand ih =>
    have hcount : ∀ net, (errands ++ [errand]).countP (·.isOn registry net) =
        errands.countP (·.isOn registry net) + if errand.isOn registry net then 1 else 0 := by
      intro net
      rw [List.countP_append, List.countP_singleton]
    have hrun : (start settings registry).askedAll (errands ++ [errand]) =
        ((start settings registry).askedAll errands).asked errand := List.foldl_concat ..
    simp only [hcount, hrun]
    exact ih.asked errand

theorem toNat_turnOf (h : OnTurn registry taken g) (hurls : (registry.resolve name).wsUrls ≠ [])
    (hsize : taken (registry.resolve name) < UInt64.size) :
    (g.turnOf (registry.resolve name)).toNat =
      taken (registry.resolve name) % (registry.resolve name).wsUrls.length := by
  have hcount : (registry.resolve name).wsUrls.length ≠ 0 := fun hzero =>
    hurls (List.eq_nil_of_length_eq_zero hzero)
  rw [turnOf, Rotation.next, if_neg hcount, h.counters name hurls]
  simp only [UInt64.toNat_ofNat_of_lt' hsize]
  exact UInt64.toNat_ofNat_of_lt' ((Nat.mod_le _ _).trans_lt hsize)

end OnTurn

def askedNetworks (registry : Registry) (names : List String) : List String :=
  ((names.map registry.resolve).filter (·.wsUrls ≠ [])).map (·.id)

theorem count_askedNetworks {registry : Registry} (hurls : (registry.resolve name).wsUrls ≠ [])
    (names : List String) : (askedNetworks registry names).count (registry.resolve name).id =
      names.countP (registry.resolve · = registry.resolve name) := by
  rw [askedNetworks, List.count, List.countP_map, List.countP_filter, List.countP_map]
  refine List.countP_congr fun other _ => ?_
  simp only [Function.comp_apply, Bool.and_eq_true, beq_iff_eq, decide_eq_true_eq]
  constructor
  · rintro ⟨hid, hother⟩
    exact Registry.resolve_eq_of_endpoints hother hurls hid
  · intro hsame
    rw [hsame]
    exact ⟨rfl, hurls⟩

theorem succ_div_of_mod {m n : Nat} (h : 0 < m % n) (hn : 0 < n) : m / n + 1 = (m + n - 1) / n := by
  have hm := Nat.div_add_mod m n
  have hlt := Nat.mod_lt m hn
  have hsucc : n * (m / n + 1) = n * (m / n) + n := Nat.mul_succ n (m / n)
  symm
  apply Nat.div_eq_of_lt_le
  · rw [Nat.mul_comm, hsucc]
    omega
  · rw [Nat.mul_comm, Nat.mul_succ, hsucc]
    omega

/-- Every try for a socket of a network takes the turn that follows from the number of tries before it,
by whatever names and however they ended, and is told the endpoint. A pick takes three steps, which make
up a turn if nothing comes between them; of tries that are made at the same time every endpoint gets its
share. -/
theorem endpoints_in_turn (settings : Settings) (registry : Registry) (name : String) :
    let net := registry.resolve name
    let count := net.wsUrls.length
    (∀ errands : List Errand, errands.length < UInt64.size →
      let g := (start settings registry).askedAll errands
      let turn := errands.countP (·.isOn registry net)
      (net.wsUrls = [] → ∀ connector, ∃ e, g.openSocket connector name = (.error e, g)) ∧
      (net.wsUrls ≠ [] → ∃ url index, net.wsUrls[turn % count]? = some url ∧
        index.toNat = turn % count ∧ g.Dials name net index url)) ∧
    (∀ other, SameName name other → registry.resolve other = net) ∧
    (∀ other, registry.isKnown other = false → registry.resolve other = registry.defaultNetwork) ∧
    (net.wsUrls ≠ [] → ∀ rotation : Rotation,
      let (second, r₁) := Rotation.Phase.looking.next net.id rotation
      let (third, r₂) := second.next net.id r₁
      let (last, r₃) := third.next net.id r₂
      ∃ n, last = .picked n ∧ rotation.next net.id count = (UInt64.ofNat (n.toNat % count), r₃)) ∧
    (net.wsUrls ≠ [] → ∀ (names : List String) (turns : List Nat), names.length < UInt64.size →
      let contest := (Rotation.Contest.start (askedNetworks registry names)).run turns
      let picked := contest.endpoints net.id count
      (∀ j ∈ picked, j < count) ∧
      (∀ j < count, picked.count j = picked.length / count ∨
        picked.count j = (picked.length + count - 1) / count) ∧
      ((∀ i < names.length, 3 ≤ turns.count i) →
        picked.length = names.countP (registry.resolve · = net))) := by
  intro net count
  refine ⟨fun errands hsize => ?_, fun other hother => ?_, fun other hother => ?_,
    fun hurls rotation => ?_, ?_⟩
  · intro g turn
    have hturns := OnTurn.askedAll settings registry errands
    have hserves : g.registry = registry := hturns.serves
    refine ⟨fun hurls connector => ?_, fun hurls => ?_⟩
    · apply openSocket_of_noEndpoints
      rw [hserves]
      exact hurls
    · have hturn : turn < UInt64.size := List.countP_le_length.trans_lt hsize
      have hindex := hturns.toNat_turnOf hurls hturn
      have hbound : turn % count < count := Nat.mod_lt _ (List.length_pos_iff.mpr hurls)
      refine ⟨g.urlOf net, g.turnOf net, ?_, hindex, ?_⟩
      · have hurl : g.urlOf net = net.wsUrls.getD (turn % count) "" :=
          congrArg (net.wsUrls.getD · "") hindex
        rw [hurl, List.getD_eq_getElem?_getD, List.getElem?_eq_getElem hbound]
        rfl
      · have hdials : g.Dials name (g.registry.resolve name) _ _ :=
          dials hturns.running (by rw [hserves]; exact hurls)
        rwa [hserves] at hdials
  · exact (registry.resolve_of_sameName hother).symm
  · rw [Registry.isKnown, Option.isSome_eq_false_iff, Option.isNone_iff_eq_none] at hother
    rw [Registry.resolve, hother]
    rfl
  · exact Rotation.Phase.next_next_next net.id rotation (List.length_pos_iff.mpr hurls).ne'
  · intro hurls names turns hsize contest picked
    have hpositive : 0 < count := List.length_pos_iff.mpr hurls
    have hfair : contest.Fair net.id := (Rotation.Contest.fair_start _ net.id).run turns
    have hpicked : picked.length = (contest.numbers net.id).length := List.length_map _
    have hasked : (askedNetworks registry names).length ≤ names.length := by
      rw [askedNetworks, List.length_map, ← List.length_map registry.resolve]
      exact List.length_filter_le ..
    refine ⟨fun j hj => ?_, fun j hj => ?_, fun hturns => ?_⟩
    · obtain ⟨n, -, rfl⟩ := List.mem_map.mp hj
      exact Nat.mod_lt _ hpositive
    · have hnumbers : (contest.numbers net.id).length < UInt64.size :=
        (Rotation.Contest.length_numbers_run_le _ turns net.id).trans_lt (hasked.trans_lt hsize)
      rw [hfair.count_endpoints hnumbers hj, hpicked]
      split
      · next hmore => exact .inr (succ_div_of_mod (Nat.zero_lt_of_lt hmore) hpositive)
      · exact .inl rfl
    · have hthree : ∀ i < (askedNetworks registry names).length, 3 ≤ turns.count i := fun i hi =>
        hturns i (hi.trans_le hasked)
      rw [hpicked, Rotation.Contest.length_numbers_run hthree, count_askedNetworks hurls]

def catalogueRegistry : Registry :=
  .ofNetworks (catalogue.map (·.network)) ""

def sampleErrands : List Errand :=
  [.openSocket .unreachable "eth", .subscribe .unreachable (.filled 16 1) "137",
    .subscribe ⟨fun _ => .ok (), fun _ => .ok (), 0⟩ (.filled 16 2) " 1 ",
    .openSocket ⟨fun _ => .ok (), fun _ => .ok (), 0⟩ "ETHEREUM"]

/-- The fourth try for a socket of a network with two endpoints, and three tries at once. -/
theorem endpoints_in_turn_ethereum :
    (∃ index, index.toNat = 1 ∧ ((start {} catalogueRegistry).askedAll sampleErrands).Dials "mainnet"
      (catalogueRegistry.resolve "mainnet") index "wss://eth.drpc.org") ∧
    let contest := (Rotation.Contest.start
      (askedNetworks catalogueRegistry ["eth", "matic", "1", "mainnet"])).run
        [0, 2, 2, 0, 3, 1, 0, 2, 3, 1, 3, 1]
    let picked := contest.endpoints (catalogueRegistry.resolve "mainnet").id 2
    picked.length = 3 ∧ (picked.count 0 = 1 ∨ picked.count 0 = 2) := by
  have hcount : (catalogueRegistry.resolve "mainnet").wsUrls.length = 2 := by decide +kernel
  have hurls : (catalogueRegistry.resolve "mainnet").wsUrls ≠ [] := by
    intro hnone
    rw [hnone] at hcount
    cases hcount
  have hturn : sampleErrands.countP (·.isOn catalogueRegistry (catalogueRegistry.resolve "mainnet")) =
      3 := by decide +kernel
  have hthird : (catalogueRegistry.resolve "mainnet").wsUrls[1]? = some "wss://eth.drpc.org" := by
    decide +kernel
  have htries : ["eth", "matic", "1", "mainnet"].countP
      (fun name => catalogueRegistry.resolve name = catalogueRegistry.resolve "mainnet") = 3 := by
    decide +kernel
  obtain ⟨hnext, -, -, -, htogether⟩ := endpoints_in_turn {} catalogueRegistry "mainnet"
  refine ⟨?_, ?_⟩
  · obtain ⟨-, hdials⟩ := hnext sampleErrands (by decide)
    obtain ⟨url, index, hurl, hindex, hdials⟩ := hdials hurls
    rw [hturn, hcount] at hurl hindex
    cases hurl.symm.trans hthird
    exact ⟨index, hindex, hdials⟩
  · intro contest picked
    obtain ⟨-, hshare, hall⟩ := htogether hurls ["eth", "matic", "1", "mainnet"]
      [0, 2, 2, 0, 3, 1, 0, 2, 3, 1, 3, 1] (by decide)
    rw [hcount] at hshare hall
    have hlength : picked.length = 3 := (hall (by decide)).trans htries
    have hzero : picked.count 0 = picked.length / 2 ∨ picked.count 0 = (picked.length + 2 - 1) / 2 :=
      hshare 0 (by decide)
    rw [hlength] at hzero
    exact ⟨hlength, hzero⟩

end MempoolGate.Gateway
