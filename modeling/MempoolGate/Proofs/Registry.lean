import MempoolGate.Registry

namespace MempoolGate

/-- The names differ in case and white space only, or both stand in the list of names with the same id. -/
def SameName (name other : String) : Prop :=
  foldName name = foldName other ∨
    ∃ id, (foldName name, id) ∈ networkAliases ∧ (foldName other, id) ∈ networkAliases

theorem networkKey_of_mem : ∀ entry ∈ networkAliases, networkKey entry.1 = entry.2 := by
  decide +kernel

theorem SameName.networkKey_eq {name other : String} (h : SameName name other) :
    networkKey (foldName name) = networkKey (foldName other) := by
  rcases h with h | ⟨id, hname, hother⟩
  · rw [h]
  · rw [networkKey_of_mem _ hname, networkKey_of_mem _ hother]

namespace Registry

variable {r : Registry} {name other id : String} {net : Network}

theorem resolve_of_sameName (r : Registry) (h : SameName name other) :
    r.resolve name = r.resolve other := by
  rw [resolve, resolve, h.networkKey_eq]

theorem id_of_find? (h : r.find? id = some net) : net.id = id := by
  simpa using List.find?_some h

theorem find?_self (h : r.find? id = some net) : r.find? net.id = some net := by
  rw [id_of_find? h]
  exact h

theorem find?_resolve (h : (r.resolve name).wsUrls ≠ []) :
    r.find? (r.resolve name).id = some (r.resolve name) := by
  unfold resolve at h ⊢
  cases hkey : r.find? (networkKey (foldName name)) with
  | some net => exact find?_self hkey
  | none =>
    rw [hkey, Option.getD_none, defaultNetwork] at h
    rw [Option.getD_none, defaultNetwork]
    cases hdefault : r.find? r.defaultId with
    | some net => exact find?_self hdefault
    | none =>
      rw [hdefault] at h
      exact absurd rfl h

theorem resolve_eq_of_endpoints (h : (r.resolve name).wsUrls ≠ []) (h' : (r.resolve other).wsUrls ≠ [])
    (hid : (r.resolve name).id = (r.resolve other).id) : r.resolve name = r.resolve other := by
  have hname := find?_resolve h
  rw [hid, find?_resolve h'] at hname
  exact (Option.some.inj hname).symm

/-- The default network is registered, or none is. -/
def Sound (r : Registry) : Prop :=
  r.networks = [] ∨ ∃ net, r.find? r.defaultId = some net

theorem isSome_find? (r : Registry) (id : String) :
    (r.find? id).isSome = r.networks.any (·.id = id) := by
  rw [Bool.eq_iff_iff, find?, List.find?_isSome, List.any_eq_true]
  simp only [List.mem_reverse]

def first? (r : Registry) : Option Network :=
  r.networks.head?.bind fun net => r.find? net.id

theorem isSome_first? (h : r.networks ≠ []) : r.first?.isSome = true := by
  obtain ⟨net, rest, hnetworks⟩ := List.exists_cons_of_ne_nil h
  rw [first?, hnetworks, List.head?_cons, Option.bind_some, isSome_find?, hnetworks, List.any_cons,
    decide_eq_true rfl, Bool.true_or]

theorem find?_defaultId (networks : List Network) (defaultName : String) :
    let r := ofNetworks networks defaultName
    r.find? r.defaultId =
      ((r.find? (networkKey defaultName)).or (r.find? defaultNetworkId)).or r.first? := by
  intro r
  have hid : r.defaultId =
      if (r.find? (networkKey defaultName)).isSome then networkKey defaultName
      else if (r.find? defaultNetworkId).isSome then defaultNetworkId
      else (r.networks.head?.map (·.id)).getD "" := by
    rw [isSome_find?, isSome_find?]
    rfl
  rw [hid]
  cases hwanted : r.find? (networkKey defaultName) with
  | some net => rw [Option.isSome_some, if_pos rfl, hwanted, Option.some_or, Option.some_or]
  | none =>
    rw [Option.isSome_none, if_neg Bool.false_ne_true, Option.none_or]
    cases hfallback : r.find? defaultNetworkId with
    | some net => rw [Option.isSome_some, if_pos rfl, hfallback, Option.some_or]
    | none =>
      rw [Option.isSome_none, if_neg Bool.false_ne_true, Option.none_or, first?]
      cases hnetworks : r.networks with
      | nil =>
        rw [find?, hnetworks]
        rfl
      | cons net rest => rfl

theorem sound_ofNetworks (networks : List Network) (defaultName : String) :
    (ofNetworks networks defaultName).Sound := by
  by_cases hnone : (ofNetworks networks defaultName).networks = []
  · exact .inl hnone
  · right
    rw [find?_defaultId, ← Option.isSome_iff_exists, Option.isSome_or, isSome_first? hnone,
      Bool.or_true]

/-- Looking a name up gives a registered network, or the placeholder when none is registered. -/
theorem Sound.resolve_cases (h : r.Sound) (name : String) :
    r.find? (r.resolve name).id = some (r.resolve name) ∨
      r.networks = [] ∧ r.resolve name = .placeholder := by
  unfold resolve
  cases hkey : r.find? (networkKey (foldName name)) with
  | some net => exact .inl (find?_self hkey)
  | none =>
    rw [Option.getD_none, defaultNetwork]
    rcases h with hempty | ⟨net, hdefault⟩
    · right
      rw [find?, hempty]
      exact ⟨rfl, rfl⟩
    · rw [hdefault]
      exact .inl (find?_self hdefault)

theorem Sound.resolve_eq_of_id (h : r.Sound) (hid : (r.resolve name).id = (r.resolve other).id) :
    r.resolve name = r.resolve other := by
  rcases h.resolve_cases name with hname | ⟨hempty, hname⟩
  · rcases h.resolve_cases other with hother | ⟨hempty, -⟩
    · rw [hid, hother] at hname
      exact (Option.some.inj hname).symm
    · rw [find?, hempty] at hname
      cases hname
  · rcases h.resolve_cases other with hother | ⟨-, hother⟩
    · rw [find?, hempty] at hother
      cases hother
    · rw [hname, hother]

end Registry

end MempoolGate
