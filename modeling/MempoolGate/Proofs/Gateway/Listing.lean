import Mathlib.Data.List.Dedup
import MempoolGate.Proofs.Gateway.Resolution

namespace MempoolGate

/-- An id that means itself when it is taken as a name: folding leaves it alone, and it is not the name
of another network of the catalogue. -/
def IsOwnName (id : String) : Prop :=
  foldName id = id ∧ ∀ other, (id, other) ∈ networkAliases → other = id

theorem foldName_of_mem : ∀ id ∈ (networkAliases.map Prod.snd).dedup,
    foldName id = id ∧ (id, id) ∈ networkAliases := by
  decide +kernel

theorem networkKey_of_alias {name id : String} (h : (name, id) ∈ networkAliases) :
    networkKey name = id :=
  networkKey_of_mem (name, id) h

theorem alias_self {name id : String} (h : (name, id) ∈ networkAliases) :
    foldName id = id ∧ (id, id) ∈ networkAliases :=
  foldName_of_mem id (List.mem_dedup.mpr (List.mem_map_of_mem h))

theorem networkKey_cases (name : String) :
    (foldName name, networkKey name) ∈ networkAliases ∨
      networkKey name = foldName name ∧ ∀ other, (foldName name, other) ∉ networkAliases := by
  unfold networkKey canonicalNetworkId?
  cases hlookup : networkAliases.lookup (foldName name) with
  | some id =>
    obtain ⟨before, after, hsplit, -⟩ := List.lookup_eq_some_iff.mp hlookup
    left
    rw [hsplit, Option.getD_some]
    exact List.mem_append_right _ List.mem_cons_self
  | none =>
    refine .inr ⟨rfl, fun other hmem => ?_⟩
    have hne := List.lookup_eq_none_iff.mp hlookup (foldName name, other) hmem
    simp at hne

theorem networkKey_eq_self_iff (id : String) : networkKey id = id ↔ IsOwnName id := by
  rcases networkKey_cases id with hmem | ⟨hkey, hnone⟩
  · constructor
    · intro hself
      rw [hself] at hmem
      refine ⟨(alias_self hmem).1, fun other hother => ?_⟩
      rw [← networkKey_of_alias hother, hself]
    · rintro ⟨hfold, hown⟩
      rw [hfold] at hmem
      exact hown _ hmem
  · rw [hkey]
    refine ⟨fun hfold => ⟨hfold, fun other hother => ?_⟩, And.left⟩
    rw [hfold] at hnone
    exact absurd hother (hnone other)

/-- What a name stands for stands for itself. -/
theorem networkKey_networkKey (name : String) : networkKey (networkKey name) = networkKey name := by
  rcases networkKey_cases name with hmem | ⟨hkey, -⟩
  · exact networkKey_of_alias (alias_self hmem).2
  · rw [hkey, networkKey_foldName, hkey]

namespace Registry

variable {r : Registry} {name id : String} {net : Network} {entry : NetworkSummary}

theorem exists_find?_of_mem (h : net ∈ r.networks) :
    ∃ found, r.find? net.id = some found ∧ found.id = net.id := by
  have hsome : (r.find? net.id).isSome = true := by
    rw [isSome_find?, List.any_eq_true]
    exact ⟨net, h, decide_eq_true rfl⟩
  obtain ⟨found, hfound⟩ := Option.isSome_iff_exists.mp hsome
  exact ⟨found, hfound, id_of_find? hfound⟩

theorem map_id_list (r : Registry) : r.list.map (·.id) = r.networks.map (·.id) := by
  have hentry : ∀ net ∈ r.networks,
      ((r.find? net.id).map Network.summary).map NetworkSummary.id = some net.id := by
    intro net hmem
    obtain ⟨found, hfound, hid⟩ := exists_find?_of_mem hmem
    rw [hfound, Option.map_some, Option.map_some, ← hid]
    rfl
  rw [list, List.map_filterMap, List.filterMap_congr hentry]
  exact congrFun List.filterMap_eq_map' _

/-- What is listed under an id is told of the network that is registered under it. -/
theorem mem_list_iff : entry ∈ r.list ↔ ∃ net, r.find? entry.id = some net ∧ entry = net.summary := by
  rw [list, List.mem_filterMap]
  constructor
  · rintro ⟨net, -, hentry⟩
    obtain ⟨found, hfound, rfl⟩ := Option.map_eq_some_iff.mp hentry
    exact ⟨found, find?_self hfound, rfl⟩
  · rintro ⟨net, hfind, hentry⟩
    refine ⟨net, mem_of_find? hfind, ?_⟩
    rw [find?_self hfind, hentry]
    rfl

theorem mem_list_of_mem (h : net ∈ r.networks) : ∃ entry ∈ r.list, entry.id = net.id := by
  obtain ⟨found, hfound, hid⟩ := exists_find?_of_mem h
  exact ⟨found.summary, mem_list_iff.mpr ⟨found, find?_self hfound, rfl⟩, hid⟩

theorem find?_of_nodup (hnodup : (r.networks.map (·.id)).Nodup) (h : net ∈ r.networks) :
    r.find? net.id = some net := by
  obtain ⟨found, hfound, hid⟩ := exists_find?_of_mem h
  rw [hfound, List.inj_on_of_nodup_map hnodup (mem_of_find? hfound) h hid]

theorem list_of_nodup (hnodup : (r.networks.map (·.id)).Nodup) :
    r.list = r.networks.map Network.summary := by
  have hentry : ∀ net ∈ r.networks, (r.find? net.id).map Network.summary = some net.summary := by
    intro net hmem
    rw [find?_of_nodup hnodup hmem, Option.map_some]
  rw [list, List.filterMap_congr hentry]
  exact congrFun List.filterMap_eq_map' _

/-- The id of an entry is known and leads to the network that the entry tells of. -/
def LeadsBack (r : Registry) (entry : NetworkSummary) : Prop :=
  r.isKnown entry.id = true ∧ r.find? entry.id = some (r.resolve entry.id) ∧
    (r.resolve entry.id).summary = entry

theorem leadsBack_iff (h : entry ∈ r.list) : r.LeadsBack entry ↔ IsOwnName entry.id := by
  rw [← networkKey_eq_self_iff]
  constructor
  · rintro ⟨hknown, hfind, -⟩
    rw [← id_resolve_of_isKnown hknown, id_of_find? hfind]
  · intro hkey
    obtain ⟨net, hfind, hentry⟩ := mem_list_iff.mp h
    have hresolve : r.resolve entry.id = net := by
      rw [resolve_eq, hkey, hfind, Option.getD_some]
    refine ⟨?_, ?_, ?_⟩
    · rw [isKnown_eq, hkey, hfind, Option.isSome_some]
    · rw [hresolve, hfind]
    · rw [hresolve, hentry]

theorem resolve_id_of_isKnown (h : r.isKnown name = true) :
    r.resolve (r.resolve name).id = r.resolve name := by
  rw [id_resolve_of_isKnown h, resolve_eq, resolve_eq, networkKey_networkKey]

theorem Sound.resolve_defaultNetwork_iff (h : r.Sound) :
    r.resolve r.defaultNetwork.id = r.defaultNetwork ↔
      IsOwnName r.defaultNetwork.id ∨ r.isKnown r.defaultNetwork.id = false := by
  rw [← networkKey_eq_self_iff]
  constructor
  · intro hself
    cases hknown : r.isKnown r.defaultNetwork.id with
    | false => exact .inr rfl
    | true =>
      left
      rw [← id_resolve_of_isKnown hknown, hself]
  · rintro (hkey | hunknown)
    · rw [resolve_eq, hkey]
      by_cases hempty : r.networks = []
      · rw [find?, hempty]
        rfl
      · rw [find?_self (h.find?_defaultId hempty), Option.getD_some]
    · exact resolve_of_isKnown_eq_false hunknown

theorem Sound.resolve_id_resolve_iff (h : r.Sound) (name : String) :
    r.resolve (r.resolve name).id = r.resolve name ↔
      r.isKnown name = true ∨ IsOwnName r.defaultNetwork.id ∨
        r.isKnown r.defaultNetwork.id = false := by
  cases hknown : r.isKnown name with
  | true => exact iff_of_true (resolve_id_of_isKnown hknown) (.inl rfl)
  | false =>
    rw [resolve_of_isKnown_eq_false hknown, h.resolve_defaultNetwork_iff]
    exact (or_iff_right Bool.false_ne_true).symm

/-- The list can be taken at its word. -/
structure NamesBack (r : Registry) : Prop where
  once : ∀ net ∈ r.networks, (r.list.map (·.id)).count net.id = 1
  back : ∀ entry ∈ r.list, r.LeadsBack entry
  again : ∀ name, r.resolve (r.resolve name).id = r.resolve name

theorem Sound.namesBack_iff (h : r.Sound) :
    r.NamesBack ↔ (r.list.map (·.id)).Nodup ∧ ∀ entry ∈ r.list, IsOwnName entry.id := by
  have honce : (r.list.map (·.id)).Nodup ↔
      ∀ net ∈ r.networks, (r.list.map (·.id)).count net.id = 1 := by
    have hids : ∀ id, id ∈ r.list.map (·.id) ↔ ∃ net ∈ r.networks, net.id = id := by
      intro id
      rw [map_id_list, List.mem_map]
    simp only [List.nodup_iff_count_eq_one, hids, forall_exists_index, and_imp,
      forall_apply_eq_imp_iff₂]
  have hback : (∀ entry ∈ r.list, r.LeadsBack entry) ↔ ∀ entry ∈ r.list, IsOwnName entry.id :=
    forall₂_congr fun _ => leadsBack_iff
  constructor
  · rintro ⟨hcount, hleads, -⟩
    exact ⟨honce.mpr hcount, hback.mp hleads⟩
  · rintro ⟨hnodup, hown⟩
    refine ⟨honce.mp hnodup, hback.mpr hown, fun name => (h.resolve_id_resolve_iff name).mpr (.inr ?_)⟩
    by_cases hempty : r.networks = []
    · -- without networks the placeholder stands in, and nobody knows it by name
      right
      rw [isKnown_eq, find?, hempty]
      rfl
    · left
      obtain ⟨entry, hentry, hid⟩ := mem_list_of_mem (mem_of_find? (h.find?_defaultId hempty))
      rw [← hid]
      exact hown entry hentry

theorem namesBack_ofEnvironment (defaultName : String) (env : Environment) :
    (ofEnvironment defaultName env).NamesBack := by
  have halias : ∀ id ∈ catalogue.map (·.network.id), (id, id) ∈ networkAliases := by decide +kernel
  have hnodup : (catalogue.map (·.network.id)).Nodup := by decide +kernel
  have hsub : ((ofEnvironment defaultName env).list.map (·.id)).Sublist
      (catalogue.map (·.network.id)) := by
    have hids : (catalogue.map (·.configure env)).map (·.id) = catalogue.map (·.network.id) := by
      rw [List.map_map]
      rfl
    rw [map_id_list, ← hids]
    exact List.filter_sublist.map _
  refine (sound_ofNetworks _ _).namesBack_iff.mpr ⟨hnodup.sublist hsub, fun entry hentry => ?_⟩
  rw [← networkKey_eq_self_iff]
  exact networkKey_of_alias (halias entry.id (hsub.subset (List.mem_map_of_mem hentry)))

/-- The networks with endpoints are listed in the order in which they were given, each entry with what is
registered under its id. Such an id leads back to the network exactly if it means itself as a name. What a
name leads to is found again under its id if the name is known; for all other names that depends on the id
of the default network. So the list can be taken at its word exactly if its ids are distinct and mean
themselves. -/
theorem list_ofNetworks (networks : List Network) (defaultName : String) :
    let r := ofNetworks networks defaultName
    r.list.map (·.id) = (networks.filter (·.wsUrls ≠ [])).map (·.id) ∧
    (∀ entry, entry ∈ r.list ↔ ∃ net, r.find? entry.id = some net ∧ entry = net.summary) ∧
    (∀ entry ∈ r.list, r.LeadsBack entry ↔ IsOwnName entry.id) ∧
    (∀ name, r.resolve (r.resolve name).id = r.resolve name ↔
      r.isKnown name = true ∨ IsOwnName r.defaultNetwork.id ∨
        r.isKnown r.defaultNetwork.id = false) ∧
    (r.NamesBack ↔ (r.list.map (·.id)).Nodup ∧ ∀ entry ∈ r.list, IsOwnName entry.id) := by
  intro r
  have hsound : r.Sound := sound_ofNetworks networks defaultName
  refine ⟨r.map_id_list, fun _ => mem_list_iff, fun _ => leadsBack_iff,
    hsound.resolve_id_resolve_iff, hsound.namesBack_iff⟩

def capitalNets : List Network :=
  [{ Network.placeholder with id := "sepolia", wsUrls := ["wss://a"] },
    { Network.placeholder with id := "Devnet", wsUrls := ["wss://b"] }]

/-- A network with capitals in its id is listed and cannot be named; if it is given twice it is listed
twice; and if it is the default, another network may be found under its id. -/
theorem not_namesBack_capitalNets :
    let r := ofNetworks capitalNets "sepolia"
    let twice := ofNetworks (capitalNets ++ capitalNets) "sepolia"
    let mixed := ofNetworks (capitalNets.tail ++ devnets) "nowhere"
    ¬r.NamesBack ∧ r.list.map (·.id) = ["sepolia", "Devnet"] ∧ r.isKnown "Devnet" = false ∧
      (r.resolve "Devnet").id = "sepolia" ∧
    twice.list.map (·.id) = ["sepolia", "Devnet", "sepolia", "Devnet"] ∧
    (mixed.resolve "nowhere").id = "Devnet" ∧
      (mixed.resolve (mixed.resolve "nowhere").id).id = "devnet" := by
  intro r twice mixed
  have hlist : r.list.map (·.id) = ["sepolia", "Devnet"] := by decide +kernel
  have hunknown : r.isKnown "Devnet" = false := by decide +kernel
  refine ⟨fun hback => ?_, hlist, hunknown, by decide +kernel, by decide +kernel,
    by decide +kernel, by decide +kernel⟩
  have hmem : "Devnet" ∈ r.list.map (·.id) := by rw [hlist]; decide
  obtain ⟨entry, hentry, hid⟩ := List.mem_map.mp hmem
  obtain ⟨hknown, -⟩ := hback.back entry hentry
  rw [hid, hunknown] at hknown
  cases hknown

end Registry

end MempoolGate
