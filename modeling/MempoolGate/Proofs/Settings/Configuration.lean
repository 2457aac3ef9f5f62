import MempoolGate.Proofs.Gateway.Listing
import MempoolGate.Proofs.Quota.History
import MempoolGate.Proofs.Settings.Endpoints
import MempoolGate.Simulation.Engine

namespace MempoolGate

theorem filter_getD {α : Type} {p : α → Bool} {d : α} (hd : p d = true) (o : Option α) :
    p ((o.filter p).getD d) = true := by
  cases hfilter : o.filter p with
  | none => exact hd
  | some a => exact (Option.filter_eq_some_iff.mp hfilter).2

theorem Simulation.Engine.exists_ofCommand_iff {command : String} {secs : Nat} :
    (∃ e, ofCommand command secs = .ok e ∧ e.program ≠ "" ∧ e.timeoutSecs = secs) ↔
      (Text.trimmed? command).isSome = true := by
  rw [Option.isSome_iff_ne_none, ne_eq, ← Text.words_eq_nil_iff, ofCommand]
  cases hwords : Text.words command with
  | nil =>
    refine iff_of_false ?_ fun hne => hne rfl
    rintro ⟨e, ⟨⟩, -⟩
  | cons program arguments =>
    refine iff_of_true ⟨_, rfl, ?_, rfl⟩ (List.cons_ne_nil _ _)
    refine Text.ne_empty_of_mem_words (s := command) ?_
    rw [hwords]
    exact List.mem_cons_self

/-- The text is a key that a store takes, unless one with the same digest is there already. -/
def Key.IsAcceptable (raw : String) : Prop :=
  ∃ key, Key.normalize? raw = some key ∧ ∀ (s : KeyStore) (r : Registration), r.raw = raw →
    s.registerAs r ≠ .error (.badRequest "API key must not be empty") ∧
      ((s.registerAs r).isOk = true ↔ s.byHash.get? (Key.hash key) = none)

theorem Key.isAcceptable_iff {raw : String} :
    Key.IsAcceptable raw ↔ (Text.trimmed? raw).isSome = true := by
  constructor
  · rintro ⟨key, hkey, -⟩
    exact Option.isSome_of_eq_some hkey
  · intro h
    obtain ⟨key, hkey⟩ := Option.isSome_iff_exists.mp h
    refine ⟨key, hkey, ?_⟩
    rintro s r rfl
    refine ⟨fun hrefused => ?_, KeyStore.isOk_registerAs_iff hkey⟩
    rw [s.registerAs_eq_badRequest_iff, Key.normalize?, hkey] at hrefused
    cases hrefused

namespace Settings

/-- Periods and bounds are at least one, the default network has a name, the command names an engine, and
if there is a key to start with, a store takes it. -/
structure IsUsable (s : Settings) : Prop where
  heartbeat : 1 ≤ s.heartbeatSecs
  rpcTimeout : 1 ≤ s.rpcTimeoutSecs
  simulationTimeout : 1 ≤ s.simulationTimeoutSecs
  concurrency : 1 ≤ s.resolveConcurrency
  capacity : 1 ≤ s.channelCapacity
  defaultNetwork : s.defaultNetwork ≠ ""
  engine : ∃ e, Simulation.Engine.ofCommand s.simulationCommand s.simulationTimeoutSecs = .ok e ∧
    e.program ≠ "" ∧ e.timeoutSecs = s.simulationTimeoutSecs
  bootstrapKey : ∀ raw ∈ s.bootstrapKey, Key.IsAcceptable raw

theorem one_le_seconds {fallback : Nat} (h : 1 ≤ fallback) (raw : Option String) :
    1 ≤ seconds fallback raw := by
  unfold seconds
  split
  · exact h
  · next hne => exact Nat.one_le_iff_ne_zero.mpr hne

theorem isUsable_ofEnvironment (env : Environment) : (ofEnvironment env).IsUsable := by
  constructor
  case heartbeat => exact one_le_seconds (by decide) _
  case rpcTimeout => exact one_le_seconds (by decide) _
  case simulationTimeout => exact one_le_seconds (by decide) _
  case concurrency => exact Nat.le_max_left 1 _
  case capacity => exact Nat.le_max_left 1 _
  case defaultNetwork =>
    exact of_decide_eq_true (filter_getD (p := (· ≠ "")) (by decide) _)
  case engine =>
    rw [Simulation.Engine.exists_ofCommand_iff]
    exact filter_getD (p := fun v => (Text.trimmed? v).isSome) (by decide +kernel) _
  case bootstrapKey =>
    intro raw hraw
    exact Key.isAcceptable_iff.mpr (Option.filter_eq_some_iff.mp hraw).2

end Settings

structure Network.IsServed (net : Network) : Prop where
  httpUrl_ne_empty : net.httpUrl ≠ ""
  httpUrl_stripped : Text.IsStripped net.httpUrl.toList
  wsUrls_ne_nil : net.wsUrls ≠ []
  wsUrls_all : ∀ url ∈ net.wsUrls, IsEndpoint url

def isPlain (c : Char) : Bool :=
  Nat.blt 0x20 c.toNat && Nat.blt c.toNat 0x7F && !Nat.beq c.toNat 0x2C

theorem isBlank_of_isPlain {c : Char} (h : isPlain c = true) : Text.isBlank c = false ∧ c ≠ ',' := by
  simp only [isPlain, Bool.and_eq_true, Nat.blt_eq, Bool.not_eq_true'] at h
  obtain ⟨⟨hlo, hhi⟩, hcomma⟩ := h
  constructor
  · simp only [Text.isBlank, Bool.or_eq_false_iff, Bool.and_eq_false_iff, decide_eq_false_iff_not,
      beq_eq_false_iff_ne]
    omega
  · rintro rfl
    exact absurd hcomma (by decide)

theorem isEndpoint_of_isPlain {url : String} (hne : url.toList ≠ [])
    (hplain : url.toList.all isPlain = true) : IsEndpoint url := by
  rw [List.all_eq_true] at hplain
  refine ⟨?_, Text.isStripped_of_notBlank fun c hc => (isBlank_of_isPlain (hplain c hc)).1,
    fun hcomma => (isBlank_of_isPlain (hplain ',' hcomma)).2 rfl⟩
  rintro rfl
  exact hne rfl

theorem isServed_of_mem_catalogue {entry : CatalogueEntry} (h : entry ∈ catalogue) :
    entry.network.IsServed := by
  -- on characters, because trimming and comparing texts takes the kernel several times as long
  have hplain : ∀ entry ∈ catalogue, ∀ url ∈ entry.network.httpUrl :: entry.network.wsUrls,
      url.toList ≠ [] ∧ url.toList.all isPlain = true := by decide +kernel
  have hurls : ∀ entry ∈ catalogue, entry.network.wsUrls ≠ [] := by decide
  have hall : ∀ url ∈ entry.network.httpUrl :: entry.network.wsUrls, IsEndpoint url :=
    fun url hurl => isEndpoint_of_isPlain (hplain entry h url hurl).1 (hplain entry h url hurl).2
  rw [List.forall_mem_cons] at hall
  exact ⟨hall.1.ne_empty, hall.1.stripped, hurls entry h, hall.2⟩

theorem Network.IsServed.configure {entry : CatalogueEntry} (h : entry.network.IsServed)
    (env : Environment) : (entry.configure env).IsServed := by
  have hhttp : (entry.configure env).httpUrl ≠ "" ∧
      Text.IsStripped (entry.configure env).httpUrl.toList := by
    unfold CatalogueEntry.configure
    cases hurl : (env (entry.envStem ++ "_HTTP_URL")).bind Text.trimmed? with
    | none => exact ⟨h.httpUrl_ne_empty, h.httpUrl_stripped⟩
    | some url =>
      obtain ⟨raw, -, hraw⟩ := Option.bind_eq_some_iff.mp hurl
      obtain ⟨rfl, hne⟩ := Text.trimmed?_eq_some_iff.mp hraw
      exact ⟨hne, Text.isStripped_trim raw⟩
  have hws : (entry.configure env).wsUrls ≠ [] ∧
      ∀ url ∈ (entry.configure env).wsUrls, IsEndpoint url := by
    unfold CatalogueEntry.configure
    cases hurls : ((env (entry.envStem ++ "_WSS_URL")).map endpointList).filter (· ≠ []) with
    | none => exact ⟨h.wsUrls_ne_nil, h.wsUrls_all⟩
    | some urls =>
      obtain ⟨hmap, hne⟩ := Option.filter_eq_some_iff.mp hurls
      obtain ⟨raw, -, rfl⟩ := Option.map_eq_some_iff.mp hmap
      exact ⟨of_decide_eq_true hne, fun _ => isEndpoint_of_mem⟩
  exact ⟨hhttp.1, hhttp.2, hws.1, hws.2⟩

namespace Registry

theorem networks_ofEnvironment (defaultName : String) (env : Environment) :
    (ofEnvironment defaultName env).networks = catalogue.map (·.configure env) := by
  refine List.filter_eq_self.mpr fun net hmem => ?_
  obtain ⟨entry, hentry, rfl⟩ := List.mem_map.mp hmem
  exact decide_eq_true ((isServed_of_mem_catalogue hentry).configure env).wsUrls_ne_nil

theorem list_ofEnvironment (defaultName : String) (env : Environment) :
    (ofEnvironment defaultName env).list = catalogue.map fun entry => (entry.configure env).summary := by
  have hnodup : ((ofEnvironment defaultName env).networks.map (·.id)).Nodup := by
    rw [networks_ofEnvironment, List.map_map]
    exact (by decide +kernel : (catalogue.map (·.network.id)).Nodup)
  rw [list_of_nodup hnodup, networks_ofEnvironment, List.map_map]
  rfl

theorem leadsBack_ofEnvironment {defaultName : String} {env : Environment} {entry : NetworkSummary}
    (h : entry ∈ (ofEnvironment defaultName env).list) :
    (ofEnvironment defaultName env).LeadsBack entry ∧
      ((ofEnvironment defaultName env).resolve entry.id).IsServed := by
  have hback := (namesBack_ofEnvironment defaultName env).back entry h
  refine ⟨hback, ?_⟩
  have hmem := mem_of_find? hback.2.1
  rw [networks_ofEnvironment] at hmem
  obtain ⟨entry', hentry', heq⟩ := List.mem_map.mp hmem
  rw [← heq]
  exact (isServed_of_mem_catalogue hentry').configure env

end Registry

/-- Whatever the environment says, the settings can be used, and the networks of the catalogue are listed
in its order, whichever of them is wanted as the default: each with the endpoints that its variables give
or its own, under an id that leads back to it, and the default is one of them. -/
theorem usable_ofEnvironment (env : Environment) :
    (Settings.ofEnvironment env).IsUsable ∧ ∀ defaultName,
      let r := Registry.ofEnvironment defaultName env
      r.list = catalogue.map (fun entry => (entry.configure env).summary) ∧
      r.list.map (·.id) = ["sepolia", "ethereum", "polygon", "bsc", "arbitrum", "base"] ∧
      (∀ entry ∈ r.list, r.LeadsBack entry ∧ (r.resolve entry.id).IsServed) ∧
      r.find? r.defaultId = some r.defaultNetwork ∧ r.defaultNetwork.summary ∈ r.list := by
  refine ⟨Settings.isUsable_ofEnvironment env, fun defaultName => ?_⟩
  intro r
  have hlist := Registry.list_ofEnvironment defaultName env
  have hsound : r.Sound := Registry.sound_ofNetworks _ defaultName
  have hsome : r.networks ≠ [] := by
    rw [Registry.networks_ofEnvironment]
    exact List.cons_ne_nil _ _
  have hdefault := hsound.find?_defaultId hsome
  refine ⟨hlist, ?_, fun _ => Registry.leadsBack_ofEnvironment, hdefault, ?_⟩
  · rw [hlist, List.map_map]
    rfl
  · refine Registry.mem_list_iff.mpr ⟨r.defaultNetwork, ?_, rfl⟩
    exact Registry.find?_self hdefault

/-- Values that are zero, negative, too great or blank, and among them a key and the endpoints of one
network. -/
def spoiltEnvironment : Environment
  | "SHADOWGUARD_HEARTBEAT_SECS" => some " 0 "
  | "RPC_TIMEOUT_SECS" => some "-5"
  | "SIMULATION_TIMEOUT" => some "18446744073709551616"
  | "SHADOWGUARD_RESOLVE_CONCURRENCY" => some "+0"
  | "SHADOWGUARD_CHANNEL_CAPACITY" => some "0"
  | "SHADOWGUARD_DEFAULT_NETWORK" => some "\u2003"
  | "SIMULATION_COMMAND" => some "\u00a0\t"
  | "GATEWAY_BOOTSTRAP_KEY" => some " sg_key\n"
  | "SEPOLIA_HTTP_URL" => some "\t"
  | "SEPOLIA_WSS_URL" => some " , ,"
  | "BSC_WSS_URL" => some "wss://a,,\twss://b , wss://a"
  | _ => none

theorem usable_ofEnvironment_spoilt :
    let s := Settings.ofEnvironment spoiltEnvironment
    let r := Registry.ofEnvironment s.defaultNetwork spoiltEnvironment
    let bsc : NetworkSummary := ⟨"bsc", "BNB Smart Chain", 56, "BNB", "https://bscscan.com", 3⟩
    s.IsUsable ∧ s.bootstrapKey = some " sg_key\n" ∧ Key.IsAcceptable " sg_key\n" ∧
      s.defaultNetwork = "sepolia" ∧ bsc ∈ r.list ∧ r.LeadsBack bsc ∧ (r.resolve "bsc").IsServed := by
  intro s r bsc
  obtain ⟨husable, hregistry⟩ := usable_ofEnvironment spoiltEnvironment
  obtain ⟨hlist, -, hserved, -⟩ := hregistry s.defaultNetwork
  have hkey : s.bootstrapKey = some " sg_key\n" := by decide +kernel
  have hbsc : bsc ∈ r.list := by
    rw [hlist]
    decide +kernel
  have hdefault : s.defaultNetwork = "sepolia" := by decide +kernel
  exact ⟨husable, hkey, husable.bootstrapKey _ hkey, hdefault, hbsc, hserved bsc hbsc⟩

end MempoolGate
