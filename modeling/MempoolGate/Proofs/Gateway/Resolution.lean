import MempoolGate.Gateway.Session
import MempoolGate.Proofs.Registry
import MempoolGate.Proofs.Text.Folding

namespace MempoolGate

theorem networkKey_foldName (name : String) : networkKey (foldName name) = networkKey name := by
  simp only [networkKey, canonicalNetworkId?, foldName_foldName]

namespace Registry

variable {r : Registry} {name id : String} {net : Network} {networks : List Network}

theorem resolve_eq (r : Registry) (name : String) :
    r.resolve name = (r.find? (networkKey name)).getD r.defaultNetwork := by
  rw [resolve, networkKey_foldName]

theorem isKnown_eq (r : Registry) (name : String) :
    r.isKnown name = (r.find? (networkKey name)).isSome := by
  rw [isKnown, networkKey_foldName]

theorem resolve_of_isKnown_eq_false (h : r.isKnown name = false) :
    r.resolve name = r.defaultNetwork := by
  rw [isKnown_eq, Option.isSome_eq_false_iff, Option.isNone_iff_eq_none] at h
  rw [resolve_eq, h, Option.getD_none]

theorem id_resolve_of_isKnown (h : r.isKnown name = true) :
    (r.resolve name).id = networkKey name := by
  rw [isKnown_eq, Option.isSome_iff_exists] at h
  obtain ⟨net, hnet⟩ := h
  rw [resolve_eq, hnet, Option.getD_some, id_of_find? hnet]

theorem mem_of_find? (h : r.find? id = some net) : net ∈ r.networks :=
  List.mem_reverse.mp (List.mem_of_find?_eq_some h)

/-- A name leads to a network that is registered, as long as there is one. -/
theorem Sound.find?_resolve (h : r.Sound) (hsome : r.networks ≠ []) (name : String) :
    r.find? (r.resolve name).id = some (r.resolve name) :=
  (h.resolve_cases name).resolve_right fun hnone => hsome hnone.1

theorem Sound.find?_defaultId (h : r.Sound) (hsome : r.networks ≠ []) :
    r.find? r.defaultId = some r.defaultNetwork := by
  obtain ⟨net, hnet⟩ := h.resolve_left hsome
  rw [defaultNetwork, hnet, Option.getD_some]

theorem Sound.isKnown_iff (h : r.Sound) (hsome : r.networks ≠ []) :
    r.isKnown name = true ↔ (r.resolve name).id = networkKey name := by
  refine ⟨id_resolve_of_isKnown, fun hid => ?_⟩
  rw [isKnown_eq, ← hid, h.find?_resolve hsome]
  rfl

theorem mem_ofNetworks {defaultName : String} :
    net ∈ (ofNetworks networks defaultName).networks ↔ net ∈ networks ∧ net.wsUrls ≠ [] := by
  rw [ofNetworks, List.mem_filter, decide_eq_true_iff]

end Registry

theorem Gateway.selectEndpoint_of_endpoints {g : Gateway} {name : String}
    (h : (g.registry.resolve name).wsUrls ≠ []) :
    ∃ index : UInt64, (g.selectEndpoint name).1 = .ok (g.registry.resolve name, index) ∧
      index.toNat < (g.registry.resolve name).wsUrls.length := by
  refine ⟨_, by rw [selectEndpoint, if_neg h], ?_⟩
  have hcount : 0 < (g.registry.resolve name).wsUrls.length := List.length_pos_iff.mpr h
  generalize (g.registry.resolve name).wsUrls.length = count at hcount ⊢
  rw [Rotation.next, if_neg (Nat.ne_of_gt hcount)]
  dsimp only
  generalize (g.rotation.counters.get? (g.registry.resolve name).id).getD 0 = n
  have hsize : n.toNat % count < UInt64.size := (Nat.mod_le _ _).trans_lt n.toNat_lt_size
  rw [UInt64.toNat_ofNat_of_lt' hsize]
  exact Nat.mod_lt _ hcount

namespace Registry

/-- If any network has an endpoint, then every name leads to a network that is registered and has one:
the network that its key names, if there is such a network, and otherwise the default. -/
theorem resolve_ofNetworks {networks : List Network} (h : ∃ net ∈ networks, net.wsUrls ≠ [])
    (defaultName : String) :
    let r := ofNetworks networks defaultName
    (∀ name, r.find? (r.resolve name).id = some (r.resolve name) ∧ r.resolve name ∈ networks ∧
      (r.resolve name).wsUrls ≠ []) ∧
    (∀ name, r.isKnown name = true ↔ (r.resolve name).id = networkKey name) ∧
    (∀ name, r.isKnown name = false → r.resolve name = r.defaultNetwork) ∧
    (∀ name other, networkKey name = networkKey other → r.resolve name = r.resolve other) ∧
    r.resolve defaultName = r.defaultNetwork ∧
    some r.defaultNetwork =
      ((r.find? (networkKey defaultName)).or (r.find? defaultNetworkId)).or r.first? ∧
    ∀ g : Gateway, g.registry = r → ∀ name, ∃ index,
      (g.selectEndpoint name).1 = .ok (r.resolve name, index) ∧
        index.toNat < (r.resolve name).wsUrls.length := by
  intro r
  obtain ⟨net, hmem, hurls⟩ := h
  have hsome : r.networks ≠ [] := List.ne_nil_of_mem (mem_ofNetworks.mpr ⟨hmem, hurls⟩)
  have hsound : r.Sound := sound_ofNetworks networks defaultName
  have hresolve : ∀ name, r.resolve name ∈ networks ∧ (r.resolve name).wsUrls ≠ [] := fun name =>
    mem_ofNetworks.mp (mem_of_find? (hsound.find?_resolve hsome name))
  have hdefault : some r.defaultNetwork =
      ((r.find? (networkKey defaultName)).or (r.find? defaultNetworkId)).or r.first? := by
    obtain ⟨net, hnet⟩ := hsound.resolve_left hsome
    rw [← find?_defaultId, hnet, defaultNetwork, hnet, Option.getD_some]
  refine ⟨fun name => ⟨hsound.find?_resolve hsome name, hresolve name⟩,
    fun name => hsound.isKnown_iff hsome, fun name => resolve_of_isKnown_eq_false,
    fun name other hkey => ?_, ?_, hdefault, ?_⟩
  · rw [resolve_eq, resolve_eq, hkey]
  · rw [resolve_eq]
    cases hwanted : r.find? (networkKey defaultName) with
    | none => rfl
    | some net =>
      rw [hwanted, Option.some_or, Option.some_or] at hdefault
      exact (Option.some.inj hdefault).symm
  · rintro g hg name
    rw [← hg]
    refine Gateway.selectEndpoint_of_endpoints ?_
    rw [hg]
    exact (hresolve name).2

def devnets : List Network :=
  [{ Network.placeholder with id := "sepolia" },
    { Network.placeholder with id := "devnet", wsUrls := ["wss://a"] },
    { Network.placeholder with id := "devnet", wsUrls := ["wss://b", "wss://c"] }]

theorem resolve_ofNetworks_devnets :
    (∃ net ∈ devnets, net.wsUrls ≠ []) ∧
      let r := ofNetworks devnets "nowhere"
      r.isKnown " DevNet\t" = true ∧ (r.resolve " DevNet\t").id = "devnet" ∧
        r.isKnown "11155111" = false ∧ r.resolve "11155111" = r.resolve "DEVNET" ∧
        r.resolve "nowhere" = r.defaultNetwork ∧ r.defaultNetwork.wsUrls = ["wss://b", "wss://c"] := by
  have hurls : ∃ net ∈ devnets, net.wsUrls ≠ [] := by decide
  obtain ⟨-, hknown, hdefault, -, hnamed, -, -⟩ := resolve_ofNetworks hurls "nowhere"
  have hdevnet : (ofNetworks devnets "nowhere").isKnown " DevNet\t" = true := by decide +kernel
  have hsepolia : (ofNetworks devnets "nowhere").isKnown "11155111" = false := by decide +kernel
  have hlast : (ofNetworks devnets "nowhere").resolve "DEVNET" =
      (ofNetworks devnets "nowhere").defaultNetwork := by decide +kernel
  refine ⟨hurls, hdevnet, ?_, hsepolia, ?_, hnamed, ?_⟩
  · rw [(hknown " DevNet\t").mp hdevnet]
    decide +kernel
  · rw [hdefault "11155111" hsepolia, hlast]
  · decide +kernel

end Registry

end MempoolGate
