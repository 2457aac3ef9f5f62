import MempoolGate.Proofs.List
import MempoolGate.Proofs.Table
import MempoolGate.Session.Rotation
import Mathlib.Data.Int.CardIntervalMod

namespace MempoolGate.Rotation

inductive Phase
  | looking
  | entering
  | adding
  | picked (number : UInt64)

namespace Phase

/-- The next step of a pick for a network. A counter that came in meanwhile is left as it is. -/
def next (network : String) (r : Rotation) : Phase → Phase × Rotation
  | looking => (if r.counters.contains network then adding else entering, r)
  | entering => (adding, if r.counters.contains network then r else ⟨r.counters.put network 0⟩)
  | adding =>
    let n := (r.counters.get? network).getD 0
    (picked n, ⟨r.counters.put network (n + 1)⟩)
  | picked n => (picked n, r)

def left : Phase → Nat
  | looking => 3
  | entering => 2
  | adding => 1
  | picked _ => 0

def number? : Phase → Option UInt64
  | picked n => some n
  | _ => none

theorem left_next (network : String) (r : Rotation) (phase : Phase) :
    (phase.next network r).1.left ≤ phase.left - 1 := by
  cases phase with
  | looking =>
    simp only [next]
    split <;> decide
  | entering | adding | picked n => exact Nat.le_refl _

theorem number?_of_left {phase : Phase} (h : phase.left = 0) : ∃ n, phase.number? = some n := by
  cases phase with
  | picked n => exact ⟨n, rfl⟩
  | looking | entering | adding => cases h

/-- A pick that nothing interrupts is the next one of the rotation. -/
theorem next_next_next (network : String) (r : Rotation) {count : Nat} (hcount : count ≠ 0) :
    let (second, r₁) := looking.next network r
    let (third, r₂) := second.next network r₁
    let (last, r₃) := third.next network r₂
    ∃ n, last = picked n ∧ r.next network count = (UInt64.ofNat (n.toNat % count), r₃) := by
  rw [Rotation.next, if_neg hcount]
  by_cases h : r.counters.contains network = true
  · simp only [next, if_pos h]
    exact ⟨_, rfl, rfl⟩
  · have hnone : r.counters.get? network = none := by
      rwa [Table.contains, Option.not_isSome_iff_eq_none] at h
    simp only [next, if_neg h, hnone, Table.get?_put_self, Table.put_put]
    exact ⟨_, rfl, rfl⟩

end Phase

structure Contest where
  rotation : Rotation
  picks : List (String × Phase)

namespace Contest

def start (networks : List String) : Contest :=
  ⟨{}, networks.map fun network => (network, .looking)⟩

def turn (c : Contest) (pick : Nat) : Contest :=
  match c.picks[pick]? with
  | none => c
  | some (network, phase) =>
    let (phase', rotation) := phase.next network c.rotation
    ⟨rotation, c.picks.set pick (network, phase')⟩

def run (c : Contest) (turns : List Nat) : Contest :=
  turns.foldl turn c

def numberOn? (network : String) (pick : String × Phase) : Option UInt64 :=
  if pick.1 = network then pick.2.number? else none

def numbers (c : Contest) (network : String) : List UInt64 :=
  c.picks.filterMap (numberOn? network)

def endpoints (c : Contest) (network : String) (count : Nat) : List Nat :=
  (c.numbers network).map fun n => n.toNat % count

/-- The counter tells how many numbers it gave out, and these are the first ones. -/
structure Fair (c : Contest) (network : String) : Prop where
  counter : (c.rotation.counters.get? network).getD 0 = UInt64.ofNat (c.numbers network).length
  numbers : (c.numbers network).Perm
    ((List.range (c.numbers network).length).map UInt64.ofNat)

variable {c : Contest} {network : String} {picks : List (String × Phase)}

theorem numbers_set (rotation : Rotation) {i : Nat} {pick : String × Phase} (h : picks[i]? = some pick)
    (network : String) : ∃ numbers,
      ((Contest.mk rotation picks).numbers network).Perm ((numberOn? network pick).toList ++ numbers) ∧
      ∀ rotation' pick', ((Contest.mk rotation' (picks.set i pick')).numbers network).Perm
        ((numberOn? network pick').toList ++ numbers) := by
  obtain ⟨rest, hbefore, hafter⟩ := exists_rest h
  refine ⟨rest.filterMap (numberOn? network), ?_, fun rotation' pick' => ?_⟩
  · rw [← filterMap_cons_toList]
    exact hbefore.filterMap _
  · rw [← filterMap_cons_toList]
    exact (hafter pick').filterMap _

theorem fair_start (networks : List String) (network : String) : (start networks).Fair network := by
  have hnone : (start networks).numbers network = [] := by
    simp [numbers, start, List.filterMap_map, numberOn?, Phase.number?, Function.comp_def]
  constructor
  · rw [hnone]
    rfl
  · rw [hnone]
    exact .nil

namespace Fair

theorem of_numbers_perm (h : c.Fair network) {c' : Contest}
    (hnumbers : (c'.numbers network).Perm (c.numbers network))
    (hcounter : (c'.rotation.counters.get? network).getD 0 =
      (c.rotation.counters.get? network).getD 0) : c'.Fair network := by
  constructor
  · rw [hcounter, hnumbers.length_eq]
    exact h.counter
  · rw [hnumbers.length_eq]
    exact hnumbers.trans h.numbers

theorem of_taken (h : c.Fair network) {c' : Contest}
    (hnumbers : (c'.numbers network).Perm
      ((c.rotation.counters.get? network).getD 0 :: c.numbers network))
    (hcounter : (c'.rotation.counters.get? network).getD 0 =
      (c.rotation.counters.get? network).getD 0 + 1) : c'.Fair network := by
  constructor
  · rw [hcounter, hnumbers.length_eq, h.counter, List.length_cons, UInt64.ofNat_add]
    rfl
  · rw [hnumbers.length_eq, List.length_cons, List.range_succ, List.map_append, List.map_singleton,
      ← h.counter]
    exact hnumbers.trans ((h.numbers.cons _).trans (List.perm_append_singleton _ _).symm)

theorem turn (h : c.Fair network) (i : Nat) : (c.turn i).Fair network := by
  obtain ⟨rotation, picks⟩ := c
  unfold Contest.turn
  split
  · exact h
  · next owner phase hpick =>
    obtain ⟨rest, hbefore, hafter⟩ := numbers_set rotation hpick network
    -- a step that takes no number
    have hsame : ∀ rotation' phase', phase'.number? = phase.number? →
        (rotation'.counters.get? network).getD 0 = (rotation.counters.get? network).getD 0 →
        Fair ⟨rotation', picks.set i (owner, phase')⟩ network := by
      intro rotation' phase' hnumber hcounter
      refine h.of_numbers_perm ((hafter rotation' (owner, phase')).trans ?_) hcounter
      have hon : numberOn? network (owner, phase') = numberOn? network (owner, phase) := by
        rw [numberOn?, numberOn?, hnumber]
      rw [hon]
      exact hbefore.symm
    cases phase with
    | looking =>
      refine hsame rotation _ ?_ rfl
      dsimp only
      split <;> rfl
    | entering =>
      refine hsame _ .adding rfl ?_
      by_cases hcontains : rotation.counters.contains owner = true
      · rw [if_pos hcontains]
      · rw [if_neg hcontains, Table.get?_put]
        split
        · next howner =>
          rw [Table.contains, Option.not_isSome_iff_eq_none, howner] at hcontains
          rw [hcontains]
          rfl
        · rfl
    | adding =>
      by_cases howner : owner = network
      · subst owner
        refine h.of_taken ?_ ?_
        · have hone := hafter ⟨rotation.counters.put network
            ((rotation.counters.get? network).getD 0 + 1)⟩
            (network, .picked ((rotation.counters.get? network).getD 0))
          rw [numberOn?, if_pos rfl] at hbefore hone
          exact hone.trans (hbefore.symm.cons _)
        · simp only [Phase.next, Table.get?_put_self, Option.getD_some]
      · -- the number is taken from another counter
        refine h.of_numbers_perm ((hafter _ _).trans ?_) ?_
        · rw [numberOn?, if_neg howner] at hbefore ⊢
          exact hbefore.symm
        · exact congrArg (Option.getD · 0) (Table.get?_put_of_ne _ howner _)
    | picked n => exact hsame rotation (.picked n) rfl rfl

theorem run (h : c.Fair network) (turns : List Nat) : (c.run turns).Fair network := by
  induction turns generalizing c with
  | nil => exact h
  | cons i turns ih => exact ih (h.turn i)

end Fair

/-- Each turn of its own brings a pick nearer to its number, whatever the others do. -/
theorem left_run {i : Nat} {phase : Phase} (h : c.picks[i]? = some (network, phase))
    (turns : List Nat) : ∃ phase', (c.run turns).picks[i]? = some (network, phase') ∧
      phase'.left ≤ phase.left - turns.count i := by
  induction turns generalizing c phase with
  | nil => exact ⟨phase, h, Nat.le_refl _⟩
  | cons j turns ih =>
    by_cases hj : j = i
    · subst j
      obtain ⟨hlt, -⟩ := List.getElem?_eq_some_iff.mp h
      have hturn : (c.turn i).picks[i]? = some (network, (phase.next network c.rotation).1) := by
        simp only [turn, h]
        exact List.getElem?_set_self hlt
      obtain ⟨phase', hphase', hleft⟩ := ih hturn
      have hstep := phase.left_next network c.rotation
      rw [List.count_cons_self]
      exact ⟨phase', hphase', by omega⟩
    · have hturn : (c.turn j).picks[i]? = some (network, phase) := by
        unfold turn
        split
        · exact h
        · rwa [List.getElem?_set_ne hj]
      rw [List.count_cons_of_ne hj]
      exact ih hturn

theorem networks_turn (c : Contest) (i : Nat) : (c.turn i).picks.map (·.1) = c.picks.map (·.1) := by
  unfold turn
  split
  · rfl
  · next network phase h =>
    have hnetwork : (c.picks.map (·.1))[i]? = some network := by
      rw [List.getElem?_map, h, Option.map_some]
    obtain ⟨hlt, rfl⟩ := List.getElem?_eq_some_iff.mp hnetwork
    rw [List.map_set, List.set_getElem_self]

theorem networks_run (c : Contest) (turns : List Nat) :
    (c.run turns).picks.map (·.1) = c.picks.map (·.1) := by
  induction turns generalizing c with
  | nil => rfl
  | cons i turns ih => exact (ih (c.turn i)).trans (c.networks_turn i)

theorem networks_start (networks : List String) : (start networks).picks.map (·.1) = networks := by
  rw [start, List.map_map]
  exact List.map_id networks

theorem length_numbers_run_le (networks : List String) (turns : List Nat) (network : String) :
    (((start networks).run turns).numbers network).length ≤ networks.length := by
  have hnetworks := ((start networks).networks_run turns).trans (networks_start networks)
  have hlength := congrArg List.length hnetworks
  rw [List.length_map] at hlength
  exact hlength ▸ List.length_filterMap_le ..

theorem length_numbers_run {networks : List String} {turns : List Nat}
    (hturns : ∀ i < networks.length, 3 ≤ turns.count i) (network : String) :
    (((start networks).run turns).numbers network).length = networks.count network := by
  have hnetworks := ((start networks).networks_run turns).trans (networks_start networks)
  have hpicked : ∀ pick ∈ ((start networks).run turns).picks, ∃ n, pick.2.number? = some n := by
    rintro ⟨owner, phase⟩ hpick
    obtain ⟨i, hi⟩ := List.mem_iff_getElem?.mp hpick
    have howner : networks[i]? = some owner := by
      rw [← hnetworks, List.getElem?_map, hi, Option.map_some]
    obtain ⟨hlt, -⟩ := List.getElem?_eq_some_iff.mp howner
    have hstart : (start networks).picks[i]? = some (owner, .looking) := by
      rw [start, List.getElem?_map, howner, Option.map_some]
    obtain ⟨phase', hphase, hleft⟩ := left_run hstart turns
    cases hi.symm.trans hphase
    have hthree : Phase.looking.left ≤ turns.count i := hturns i hlt
    have hdone : phase.left = 0 := by omega
    exact Phase.number?_of_left hdone
  have hcount : networks.count network =
      (((start networks).run turns).picks.map (·.1)).count network := by
    rw [hnetworks]
  rw [hcount, List.count, List.countP_map, numbers, List.length_filterMap_eq_countP]
  refine List.countP_congr fun pick hpick => ?_
  obtain ⟨n, hn⟩ := hpicked pick hpick
  simp [numberOn?, hn]

/-- Of the first numbers every endpoint gets its share. -/
theorem count_range_mod (m : Nat) {n j : Nat} (hj : j < n) :
    ((List.range m).map (· % n)).count j = m / n + if j < m % n then 1 else 0 := by
  have hcount : ((List.range m).map (· % n)).count j = Nat.count (· ≡ j [MOD n]) m := by
    induction m with
    | zero => rfl
    | succ m ih =>
      rw [List.range_succ, List.map_append, List.count_append, ih, Nat.count_succ, List.map_singleton,
        List.count_singleton]
      simp [Nat.ModEq, Nat.mod_eq_of_lt hj]
  rw [hcount, Nat.count_modEq_card m (Nat.zero_lt_of_lt hj) j, Nat.mod_eq_of_lt hj]

/-- At every moment the endpoints of a network were picked equally often, but for one pick. -/
theorem Fair.count_endpoints (h : c.Fair network) (hsize : (c.numbers network).length < UInt64.size)
    {count j : Nat} (hj : j < count) :
    (c.endpoints network count).count j =
      (c.numbers network).length / count +
        if j < (c.numbers network).length % count then 1 else 0 := by
  have hendpoints : (c.endpoints network count).Perm
      ((List.range (c.numbers network).length).map (· % count)) := by
    refine (h.numbers.map fun n => n.toNat % count).trans (List.Perm.of_eq ?_)
    rw [List.map_map]
    refine List.map_congr_left fun m hm => ?_
    have hlt := (List.mem_range.mp hm).trans hsize
    simp only [Function.comp_apply, UInt64.toNat_ofNat_of_lt' hlt]
  rw [hendpoints.count_eq, count_range_mod _ hj]

end Contest

end MempoolGate.Rotation
