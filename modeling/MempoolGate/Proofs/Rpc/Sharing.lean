import Mathlib.Data.List.Induction
import Mathlib.Data.Set.Card
import Mathlib.Logic.Function.Basic
import MempoolGate.Proofs.Gateway.Resolution
import MempoolGate.Proofs.Rpc.Client

namespace MempoolGate.Rpc

theorem Client.Same.refl (c : Client) : c.Same c :=
  ⟨rfl, rfl⟩

namespace Clients

variable {registry : Registry} {cs : Clients} {name : String} {client kept : Client}

theorem get_of_some (h : cs.table.get? (registry.resolve name).id = some client) :
    cs.get registry name = (client, cs) := by
  simp only [get, h]

def fresh (cs : Clients) (network : Network) : Client :=
  { serial := cs.size, network := network }

theorem get_of_none (h : cs.table.get? (registry.resolve name).id = none) :
    cs.get registry name =
      (cs.fresh (registry.resolve name), cs.keep (cs.fresh (registry.resolve name))) := by
  simp only [get, h]
  rfl

/-- One client for each network, and no two with the same serial. -/
structure Apart (registry : Registry) (cs : Clients) : Prop where
  faithful : cs.Faithful registry
  nodup : cs.table.keys.Nodup
  below : ∀ id client, cs.table.get? id = some client → client.serial < cs.size
  distinct : ∀ id id' client client', cs.table.get? id = some client →
    cs.table.get? id' = some client' → client.serial = client'.serial → id = id'

theorem apart_empty (registry : Registry) : Apart registry {} :=
  ⟨faithful_empty registry, List.nodup_nil, nofun, nofun⟩

theorem Apart.put (h : cs.Apart registry) (hclient : client.network = registry.resolve name)
    (hsize : cs.size ≤ (cs.keep client).size) (hbelow : client.serial < (cs.keep client).size)
    (hserial : ∀ id other, cs.table.get? id = some other → other.serial = client.serial →
      id = client.network.id) : (cs.keep client).Apart registry := by
  refine ⟨h.faithful.put client hclient, Table.nodup_keys_put h.nodup _ _, ?_, ?_⟩
  · intro id found hfound
    rw [keep, Table.get?_put] at hfound
    split at hfound
    · cases hfound
      exact hbelow
    · exact (h.below id found hfound).trans_le hsize
  · intro id id' found found' hfound hfound' hsame
    rw [keep, Table.get?_put] at hfound hfound'
    split at hfound
    · next hid =>
      split at hfound'
      · next hid' => exact hid.symm.trans hid'
      · cases hfound
        exact hid.symm.trans (hserial id' found' hfound' hsame.symm).symm
    · split at hfound'
      · next hid' =>
        cases hfound'
        exact (hserial id found hfound hsame).trans hid'
      · exact h.distinct id id' found found' hfound hfound' hsame

theorem Apart.make (h : cs.Apart registry)
    (hnone : cs.table.get? (registry.resolve name).id = none) :
    (cs.keep (cs.fresh (registry.resolve name))).Apart registry := by
  have hsize : (cs.keep (cs.fresh (registry.resolve name))).size = cs.size + 1 :=
    Table.size_put_of_fresh hnone _
  refine h.put rfl (by omega) (hsize ▸ Nat.lt_succ_self _) fun id other hother hserial => ?_
  exact absurd hserial (Nat.ne_of_lt (h.below id other hother))

theorem Apart.use (h : cs.Apart registry) (hkept : cs.table.get? client.network.id = some kept)
    (hsame : kept.Same client) : (cs.keep client).Apart registry := by
  have hsize : (cs.keep client).size = cs.size := Table.size_put_of_some hkept _
  obtain ⟨-, name, hname⟩ := h.faithful _ kept hkept
  refine h.put (hsame.1.trans hname) hsize.ge ?_ fun id other hother hserial => ?_
  · rw [hsize, hsame.2]
    exact h.below _ kept hkept
  · exact h.distinct id _ other kept hother hkept (hserial.trans hsame.2)

inductive Phase
  | waiting
  | missed
  | answered (client : Client)

namespace Phase

def next (registry : Registry) (name : String) (cs : Clients) : Phase → Phase × Clients
  | waiting =>
    match cs.table.get? (registry.resolve name).id with
    | some client => (answered client, cs)
    | none => (missed, cs)
  | missed =>
    let (client, cs) := cs.get registry name
    (answered client, cs)
  | answered client => (answered client, cs)

def client? : Phase → Option Client
  | answered client => some client
  | waiting | missed => none

def left : Phase → Nat
  | waiting => 2
  | missed => 1
  | answered _ => 0

theorem left_next (registry : Registry) (name : String) (cs : Clients) (phase : Phase) :
    (phase.next registry name cs).1.left ≤ phase.left - 1 := by
  cases phase with
  | waiting =>
    simp only [next]
    split
    · exact Nat.zero_le 1
    · exact Nat.le_refl 1
  | missed | answered client => exact Nat.le_refl 0

theorem eq_answered {phase : Phase} {client : Client} (h : phase.client? = some client) :
    phase = answered client := by
  cases phase with
  | answered other =>
    cases h
    rfl
  | waiting | missed => cases h

theorem exists_client_of_left {phase : Phase} (h : phase.left = 0) :
    ∃ client, phase.client? = some client := by
  cases phase with
  | answered client => exact ⟨client, rfl⟩
  | waiting | missed => cases h

/-- A caller that nothing interrupts gets what `get` gives, and leaves the same clients. -/
theorem next_next (registry : Registry) (name : String) (cs : Clients) :
    let (phase, cs') := waiting.next registry name cs
    phase.next registry name cs' =
      (answered (cs.get registry name).1, (cs.get registry name).2) := by
  cases hfound : cs.table.get? (registry.resolve name).id with
  | some client =>
    rw [get_of_some hfound]
    simp only [next, hfound]
  | none => simp only [next, hfound]

/-- A step goes without an answer and changes nothing, or it comes to what `get` gives. -/
theorem next_cases (registry : Registry) (name : String) (cs : Clients) {phase : Phase}
    (hphase : phase.client? = none) :
    phase.next registry name cs = (missed, cs) ∨
      phase.next registry name cs =
        (answered (cs.get registry name).1, (cs.get registry name).2) := by
  cases phase with
  | waiting =>
    cases hfound : cs.table.get? (registry.resolve name).id with
    | some client =>
      rw [get_of_some hfound]
      simp only [next, hfound, or_true]
    | none => simp only [next, hfound, true_or]
  | missed => exact .inr rfl
  | answered client => cases hphase

end Phase

/-- Any number of callers, told apart by numbers. Who asks again counts as another caller. -/
structure Contest where
  clients : Clients := {}
  phase : Nat → Phase := fun _ => .waiting

inductive Turn
  | advance (caller : Nat)
  | use (caller : Nat) (nextId : UInt64)
deriving DecidableEq

namespace Contest

def moved (c : Contest) (clients : Clients) (i : Nat) (phase : Phase) : Contest :=
  ⟨clients, Function.update c.phase i phase⟩

def turn (registry : Registry) (names : Nat → String) (c : Contest) : Turn → Contest
  | .advance i =>
    let (phase, clients) := (c.phase i).next registry (names i) c.clients
    c.moved clients i phase
  | .use i nextId =>
    match (c.phase i).client? with
    | some client => { c with clients := c.clients.keep { client with nextId := nextId } }
    | none => c

def run (registry : Registry) (names : Nat → String) (c : Contest) (turns : List Turn) : Contest :=
  turns.foldl (turn registry names) c

def served (registry : Registry) (names : Nat → String) (c : Contest) : Set String :=
  {id | ∃ i client, (c.phase i).client? = some client ∧ (registry.resolve (names i)).id = id}

/-- The clients that are kept are those that callers were given. -/
structure Shared (registry : Registry) (names : Nat → String) (c : Contest) : Prop where
  apart : c.clients.Apart registry
  asked : ∀ id kept, c.clients.table.get? id = some kept → id ∈ c.served registry names
  given : ∀ i client, (c.phase i).client? = some client →
    ∃ kept, c.clients.table.get? (registry.resolve (names i)).id = some kept ∧ client.Same kept

variable {names : Nat → String} {c : Contest} {turns : List Turn} {clients : Clients} {i j : Nat}
  {phase : Phase}

@[simp]
theorem phase_moved_self : (c.moved clients i phase).phase i = phase :=
  Function.update_self ..

theorem phase_moved_of_ne (h : j ≠ i) : (c.moved clients i phase).phase j = c.phase j :=
  Function.update_of_ne h ..

theorem moved_self : c.moved c.clients i (c.phase i) = c :=
  congrArg (Contest.mk c.clients) (Function.update_eq_self ..)

theorem shared_start (registry : Registry) (names : Nat → String) : Shared registry names {} :=
  ⟨apart_empty registry, nofun, nofun⟩

theorem served_subset_moved (hi : (c.phase i).client? = none) :
    c.served registry names ⊆ (c.moved clients i phase).served registry names := by
  rintro id ⟨j, client, hj, hid⟩
  have hne : j ≠ i := by
    rintro rfl
    cases hi.symm.trans hj
  refine ⟨j, client, ?_, hid⟩
  rw [phase_moved_of_ne hne]
  exact hj

namespace Shared

theorem moved (h : c.Shared registry names) (hi : (c.phase i).client? = none)
    (hapart : clients.Apart registry)
    (hold : ∀ id kept, c.clients.table.get? id = some kept → clients.table.get? id = some kept)
    (hnew : ∀ id kept, clients.table.get? id = some kept → c.clients.table.get? id = some kept ∨
      (registry.resolve (names i)).id = id ∧ ∃ client, phase.client? = some client)
    (hgiven : ∀ client, phase.client? = some client →
      ∃ kept, clients.table.get? (registry.resolve (names i)).id = some kept ∧ client.Same kept) :
    (c.moved clients i phase).Shared registry names := by
  refine ⟨hapart, fun id kept hkept => ?_, fun j client hj => ?_⟩
  · rcases hnew id kept hkept with hkept | ⟨hid, client, hclient⟩
    · exact served_subset_moved hi (h.asked id kept hkept)
    · refine ⟨i, client, ?_, hid⟩
      rw [phase_moved_self, hclient]
  · by_cases hne : j = i
    · subst j
      rw [phase_moved_self] at hj
      exact hgiven client hj
    · rw [phase_moved_of_ne hne] at hj
      obtain ⟨kept, hkept, hsame⟩ := h.given j client hj
      exact ⟨kept, hold _ kept hkept, hsame⟩

theorem miss (h : c.Shared registry names) (hi : (c.phase i).client? = none) :
    (c.moved c.clients i .missed).Shared registry names :=
  h.moved hi h.apart (fun _ _ => id) (fun _ _ => .inl) nofun

theorem answer (h : c.Shared registry names) (hi : (c.phase i).client? = none) :
    (c.moved (c.clients.get registry (names i)).2 i
      (.answered (c.clients.get registry (names i)).1)).Shared registry names := by
  cases hfound : c.clients.table.get? (registry.resolve (names i)).id with
  | some found =>
    rw [get_of_some hfound]
    refine h.moved hi h.apart (fun _ _ => id) (fun _ _ => .inl) fun client hclient => ?_
    cases hclient
    exact ⟨found, hfound, .refl found⟩
  | none =>
    -- nobody was quicker, and the client is made here
    rw [get_of_none hfound]
    refine h.moved hi (h.apart.make hfound) (fun id kept hkept => ?_) (fun id kept hkept => ?_)
      fun client hclient => ?_
    · refine (Table.get?_put_of_ne c.clients.table ?_ _).trans hkept
      intro hid
      rw [← hid] at hkept
      cases hfound.symm.trans hkept
    · change (c.clients.table.put _ _).get? id = some kept at hkept
      rw [Table.get?_put] at hkept
      split at hkept
      · next hid => exact .inr ⟨hid, _, rfl⟩
      · exact .inl hkept
    · cases hclient
      exact ⟨_, Table.get?_put_self c.clients.table _ _, .refl _⟩

theorem use (h : c.Shared registry names) {client : Client}
    (hi : (c.phase i).client? = some client) (nextId : UInt64) :
    Shared registry names { c with clients := c.clients.keep { client with nextId := nextId } } := by
  obtain ⟨kept, hkept, hsame⟩ := h.given i client hi
  obtain ⟨hid, -⟩ := h.apart.faithful _ kept hkept
  have hclient : client.network.id = (registry.resolve (names i)).id := by rw [← hsame.1, hid]
  have hheld : c.clients.table.get? client.network.id = some kept := by rw [hclient, hkept]
  refine ⟨h.apart.use hheld ⟨hsame.1.symm, hsame.2.symm⟩, fun id found hfound => ?_,
    fun j other hj => ?_⟩
  · change (c.clients.table.put _ _).get? id = some found at hfound
    rw [Table.get?_put] at hfound
    split at hfound
    · next hid' => exact ⟨i, client, hi, hclient.symm.trans hid'⟩
    · exact h.asked id found hfound
  · obtain ⟨found, hfound, hsame'⟩ := h.given j other hj
    by_cases hid' : client.network.id = (registry.resolve (names j)).id
    · rw [← hid', hheld] at hfound
      cases hfound
      refine ⟨{ client with nextId := nextId }, ?_, hsame'.trans ⟨hsame.1.symm, hsame.2.symm⟩⟩
      rw [← hid']
      exact Table.get?_put_self c.clients.table _ _
    · exact ⟨found, (Table.get?_put_of_ne c.clients.table hid' _).trans hfound, hsame'⟩

theorem turn (h : c.Shared registry names) (t : Turn) :
    (c.turn registry names t).Shared registry names := by
  cases t with
  | advance i =>
    cases hi : (c.phase i).client? with
    | none =>
      rcases Phase.next_cases registry (names i) c.clients hi with hnext | hnext
      · simp only [Contest.turn, hnext]
        exact h.miss hi
      · simp only [Contest.turn, hnext]
        exact h.answer hi
    | some client =>
      have hnext : (c.phase i).next registry (names i) c.clients = (c.phase i, c.clients) := by
        rw [Phase.eq_answered hi]
        rfl
      simp only [Contest.turn, hnext, moved_self]
      exact h
  | use i nextId =>
    simp only [Contest.turn]
    split
    · next client hi => exact h.use hi nextId
    · exact h

theorem run (h : c.Shared registry names) (turns : List Turn) :
    (c.run registry names turns).Shared registry names := by
  induction turns generalizing c with
  | nil => exact h
  | cons t turns ih => exact ih (h.turn t)

end Shared

theorem left_turn (registry : Registry) (names : Nat → String) (c : Contest) (t : Turn) (i : Nat) :
    ((c.turn registry names t).phase i).left ≤ (c.phase i).left - [t].count (.advance i) := by
  cases t with
  | use j nextId =>
    have hphase : (c.turn registry names (.use j nextId)).phase = c.phase := by
      simp only [turn]
      split <;> rfl
    rw [hphase, List.count_singleton, if_neg (by simp)]
    exact Nat.le_refl _
  | advance j =>
    simp only [turn]
    by_cases hj : i = j
    · subst j
      rw [phase_moved_self, List.count_singleton_self]
      exact Phase.left_next ..
    · rw [phase_moved_of_ne hj, List.count_singleton, if_neg (by simpa using Ne.symm hj)]
      exact Nat.le_refl _

theorem left_run (registry : Registry) (names : Nat → String) (c : Contest) (turns : List Turn)
    (i : Nat) :
    ((c.run registry names turns).phase i).left ≤ (c.phase i).left - turns.count (.advance i) := by
  induction turns generalizing c with
  | nil => exact Nat.le_refl _
  | cons t turns ih =>
    have hturn := left_turn registry names c t i
    have hcount : ([t] ++ turns).count (.advance i) =
        [t].count (.advance i) + turns.count (.advance i) := List.count_append
    refine (ih (c.turn registry names t)).trans ?_
    rw [List.singleton_append] at hcount
    omega

theorem client?_run {client : Client} (h : (c.phase i).client? = some client)
    (turns : List Turn) : ((c.run registry names turns).phase i).client? = some client := by
  induction turns generalizing c with
  | nil => exact h
  | cons t turns ih =>
    refine ih ?_
    cases t with
    | use j nextId =>
      simp only [turn]
      split <;> exact h
    | advance j =>
      simp only [turn]
      by_cases hj : i = j
      · subst j
        rw [phase_moved_self, Phase.eq_answered h]
        rfl
      · rw [phase_moved_of_ne hj]
        exact h

namespace Shared

theorem network_eq (h : c.Shared registry names) (hsound : registry.Sound) {client : Client}
    (hi : (c.phase i).client? = some client) :
    client.network = registry.resolve (names i) := by
  obtain ⟨kept, hkept, hsame⟩ := h.given i client hi
  obtain ⟨hid, other, hother⟩ := h.apart.faithful _ kept hkept
  rw [hother] at hid
  rw [← hsame.1, hother, hsound.resolve_eq_of_id hid]

theorem serial_eq_iff (h : c.Shared registry names) {client client' : Client}
    (hi : (c.phase i).client? = some client) (hj : (c.phase j).client? = some client') :
    client.serial = client'.serial ↔
      (registry.resolve (names i)).id = (registry.resolve (names j)).id := by
  obtain ⟨kept, hkept, hsame⟩ := h.given i client hi
  obtain ⟨kept', hkept', hsame'⟩ := h.given j client' hj
  rw [← hsame.2, ← hsame'.2]
  constructor
  · exact h.apart.distinct _ _ kept kept' hkept hkept'
  · intro hid
    rw [hid, hkept'] at hkept
    cases hkept
    rfl

theorem mem_keys_iff (h : c.Shared registry names) (id : String) :
    id ∈ c.clients.table.keys ↔ id ∈ c.served registry names := by
  constructor
  · intro hmem
    cases hkept : c.clients.table.get? id with
    | some kept => exact h.asked id kept hkept
    | none => exact absurd hmem ((Table.get?_eq_none_iff _ _).mp hkept)
  · rintro ⟨i, client, hi, rfl⟩
    obtain ⟨kept, hkept, -⟩ := h.given i client hi
    refine Classical.byContradiction fun hnot => ?_
    cases hkept.symm.trans ((Table.get?_eq_none_iff _ _).mpr hnot)

theorem size_eq (h : c.Shared registry names) :
    c.clients.size = (c.served registry names).ncard := by
  have hserved : c.served registry names = (c.clients.table.keys.toFinset : Set String) := by
    ext id
    rw [Finset.mem_coe, List.mem_toFinset, h.mem_keys_iff]
  rw [hserved, Set.ncard_coe_finset, List.toFinset_card_of_nodup h.apart.nodup, Table.length_keys]
  rfl

end Shared

theorem ncard_served_le (hsound : registry.Sound) (c : Contest) :
    (c.served registry names).ncard ≤ max 1 {id | ∃ net ∈ registry.networks, net.id = id}.ncard := by
  by_cases hnone : registry.networks = []
  · have hone : c.served registry names ⊆ {Network.placeholder.id} := by
      rintro id ⟨i, client, -, rfl⟩
      rcases hsound.resolve_cases (names i) with hfind | ⟨-, hplaceholder⟩
      · rw [Registry.find?, hnone] at hfind
        cases hfind
      · rw [hplaceholder]
        rfl
    have hle := Set.ncard_le_ncard hone (Set.finite_singleton _)
    rw [Set.ncard_singleton] at hle
    exact hle.trans (Nat.le_max_left _ _)
  · have hfinite : {id | ∃ net ∈ registry.networks, net.id = id}.Finite :=
      (List.finite_toSet (registry.networks.map (·.id))).subset <| by
        rintro id ⟨net, hmem, rfl⟩
        exact List.mem_map_of_mem hmem
    refine (Set.ncard_le_ncard ?_ hfinite).trans (Nat.le_max_right _ _)
    rintro id ⟨i, client, -, rfl⟩
    exact ⟨_, Registry.mem_of_find? (hsound.find?_resolve hnone (names i)), rfl⟩

end Contest

/-- Any number of callers with any names, each in two steps that nothing ties together. A caller whose
steps are not interrupted gets what `get` gives. After any turns, everyone who was answered has a client
of the network that the name means, and two have the same one exactly if their names mean the same
network; they keep it whatever comes. There are as many clients as networks were asked for, and no more
than there are networks, or one. Two turns are enough for an answer. -/
theorem shared_run (networks : List Network) (defaultName : String) (names : Nat → String) :
    let registry := Registry.ofNetworks networks defaultName
    (∀ name cs, let (phase, cs') := Phase.waiting.next registry name cs
      phase.next registry name cs' =
        (.answered (cs.get registry name).1, (cs.get registry name).2)) ∧
    ∀ turns, let last := ({} : Contest).run registry names turns
      (∀ i client, (last.phase i).client? = some client →
        client.network = registry.resolve (names i) ∧
        (∀ j client', (last.phase j).client? = some client' → (client.serial = client'.serial ↔
          (registry.resolve (names i)).id = (registry.resolve (names j)).id)) ∧
        ∀ more, ((last.run registry names more).phase i).client? = some client) ∧
      last.clients.size = (last.served registry names).ncard ∧
      last.clients.size ≤ max 1 {id | ∃ net ∈ registry.networks, net.id = id}.ncard ∧
      ∀ i, 2 ≤ turns.count (.advance i) → ∃ client, (last.phase i).client? = some client := by
  intro registry
  have hsound : registry.Sound := Registry.sound_ofNetworks networks defaultName
  refine ⟨Phase.next_next registry, fun turns => ?_⟩
  intro last
  have hlast : last.Shared registry names := (Contest.shared_start registry names).run turns
  refine ⟨fun i client hi => ⟨hlast.network_eq hsound hi, fun j client' => hlast.serial_eq_iff hi,
    Contest.client?_run hi⟩, hlast.size_eq, ?_, fun i hturns => ?_⟩
  · rw [hlast.size_eq]
    exact Contest.ncard_served_le hsound last
  · have hleft : (last.phase i).left ≤ 2 - turns.count (.advance i) :=
      Contest.left_run registry names {} turns i
    exact Phase.exists_client_of_left (by omega)

end Clients

end MempoolGate.Rpc
