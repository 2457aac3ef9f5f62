import Mathlib.Data.List.Induction
import Mathlib.Logic.Function.Basic
import MempoolGate.Proofs.List
import MempoolGate.Proofs.Rpc.Retry

namespace MempoolGate.Rpc

/-- How far a call has got. -/
inductive Phase (α : Type)
  | waiting
  | trying (id : UInt64) (attempts : List Request)
  | answered (id : UInt64) (call : Call α)

namespace Phase

variable {α : Type}

def next (c : Client) (node : Node) (q : Query α) : Phase α → Phase α × Client
  | waiting => (trying c.nextId [], { c with nextId := c.nextId + 1 })
  | trying id attempts =>
    match checkEndpoint c.network.httpUrl with
    | .error fault =>
      (answered id ⟨attempts, .error { code := .rpcError, message := fault.message }⟩, c)
    | .ok () =>
      let request : Request := ⟨c.network.httpUrl, id, q.method, q.params, attempts.length + 1⟩
      let made := attempts ++ [request]
      match (node request).outcome q.decode with
      | .ok a => (answered id ⟨made, .ok a⟩, c)
      | .error e =>
        if isTransient e.code ∧ made.length < maxAttempts then (trying id made, c)
        else (answered id ⟨made, .error e⟩, c)
  | answered id call => (answered id call, c)

def id? : Phase α → Option UInt64
  | waiting => none
  | trying id _ | answered id _ => some id

def attempts : Phase α → List Request
  | waiting => []
  | trying _ attempts => attempts
  | answered _ call => call.attempts

def left : Phase α → Nat
  | waiting => 4
  | trying _ attempts => 3 - attempts.length
  | answered _ _ => 0

theorem left_next (c : Client) (node : Node) (q : Query α) (phase : Phase α) :
    (phase.next c node q).1.left ≤ phase.left - 1 := by
  cases phase with
  | waiting => exact Nat.le_refl 3
  | answered id call => exact Nat.le_refl 0
  | trying id attempts =>
    unfold next
    cases checkEndpoint c.network.httpUrl with
    | error fault => exact Nat.zero_le _
    | ok _ =>
      dsimp only
      split
      · exact Nat.zero_le _
      · split
        · simp only [left, List.length_append, List.length_singleton]
          omega
        · exact Nat.zero_le _

end Phase

def Client.resume {α : Type} (c : Client) (node : Node) (q : Query α) (id : UInt64)
    (attempts : List Request) : Call α :=
  match checkEndpoint c.network.httpUrl with
  | .error fault => ⟨attempts, .error { code := .rpcError, message := fault.message }⟩
  | .ok () =>
    let rest := tryCall node q.decode ⟨c.network.httpUrl, id, q.method, q.params, 1⟩
      (maxAttempts - attempts.length) (attempts.length + 1)
    ⟨attempts ++ rest.attempts, rest.outcome⟩

namespace Client

variable {α : Type} {c : Client} {node : Node} {q : Question α} {id : UInt64}
  {attempts : List Request}

theorem resume_nil (c : Client) (node : Node) (q : Query α) (id : UInt64) :
    c.resume node q id [] = (({ c with nextId := id } : Client).ask node q).1 := by
  unfold resume ask call
  dsimp only
  cases checkEndpoint c.network.httpUrl <;> rfl

theorem resume_of_ends (hurl : checkEndpoint c.network.httpUrl = .ok ())
    (hlength : attempts.length < maxAttempts)
    (h : (node (q.request c.network.httpUrl id (attempts.length + 1))).Passes q.reader →
      maxAttempts ≤ attempts.length + 1) :
    c.resume node q.query id attempts =
      ⟨attempts ++ [q.request c.network.httpUrl id (attempts.length + 1)],
        (node (q.request c.network.httpUrl id (attempts.length + 1))).outcome q.query.decode⟩ := by
  have hbudget : maxAttempts - attempts.length = maxAttempts - (attempts.length + 1) + 1 := by omega
  have hlast := q.tryCall_of_ends node c.network.httpUrl id
    (maxAttempts - (attempts.length + 1)) (attempts.length + 1) fun hpasses =>
      Nat.sub_eq_zero_of_le (h hpasses)
  simp only [resume, hurl, hbudget]
  exact congrArg (fun rest : Call α => Call.mk (attempts ++ rest.attempts) rest.outcome) hlast

theorem resume_of_passes (hurl : checkEndpoint c.network.httpUrl = .ok ())
    (hmore : attempts.length + 1 < maxAttempts)
    (h : (node (q.request c.network.httpUrl id (attempts.length + 1))).Passes q.reader) :
    c.resume node q.query id attempts =
      c.resume node q.query id
        (attempts ++ [q.request c.network.httpUrl id (attempts.length + 1)]) := by
  have hbudget : maxAttempts - attempts.length = maxAttempts - (attempts.length + 2) + 2 := by omega
  have hbudget' : maxAttempts - (attempts.length + 1) = maxAttempts - (attempts.length + 2) + 1 := by
    omega
  have hfirst := q.tryCall_of_passes node c.network.httpUrl id
    (maxAttempts - (attempts.length + 2)) (attempts.length + 1) h
  simp only [resume, hurl, List.length_append, List.length_singleton, hbudget, hbudget',
    List.append_assoc]
  exact congrArg (fun rest : Call α => Call.mk (attempts ++ rest.attempts) rest.outcome) hfirst

end Client

namespace Phase

variable {α : Type} {c : Client} {node : Node} {q : Question α} {id : UInt64} {phase : Phase α}
  {attempts : List Request}

theorem next_of_ends (hurl : checkEndpoint c.network.httpUrl = .ok ())
    (h : (node (q.request c.network.httpUrl id (attempts.length + 1))).Passes q.reader →
      maxAttempts ≤ attempts.length + 1) :
    (trying id attempts).next c node q.query =
      (answered id ⟨attempts ++ [q.request c.network.httpUrl id (attempts.length + 1)],
        (node (q.request c.network.httpUrl id (attempts.length + 1))).outcome q.query.decode⟩,
        c) := by
  rw [q.passes_iff] at h
  have hrequest : (⟨c.network.httpUrl, id, q.query.method, q.query.params,
      attempts.length + 1⟩ : Request) = q.request c.network.httpUrl id (attempts.length + 1) := rfl
  simp only [next, hurl, hrequest, List.length_append, List.length_singleton]
  split
  · next a ha => rw [ha]
  · next e he =>
    have hlast : ¬(isTransient e.code = true ∧ attempts.length + 1 < maxAttempts) := fun hmore =>
      Nat.not_lt_of_le (h ⟨e, he, hmore.1⟩) hmore.2
    rw [if_neg hlast, he]

theorem next_of_passes (hurl : checkEndpoint c.network.httpUrl = .ok ())
    (hmore : attempts.length + 1 < maxAttempts)
    (h : (node (q.request c.network.httpUrl id (attempts.length + 1))).Passes q.reader) :
    (trying id attempts).next c node q.query =
      (trying id (attempts ++ [q.request c.network.httpUrl id (attempts.length + 1)]), c) := by
  obtain ⟨e, he, htransient⟩ := (q.passes_iff _).mp h
  have hrequest : (⟨c.network.httpUrl, id, q.query.method, q.query.params,
      attempts.length + 1⟩ : Request) = q.request c.network.httpUrl id (attempts.length + 1) := rfl
  simp only [next, hurl, hrequest, List.length_append, List.length_singleton, he]
  rw [if_pos ⟨htransient, hmore⟩]

/-- The call drew this number and is on its way to what it would come to alone. -/
def Heads (c : Client) (node : Node) (q : Query α) (id : UInt64) : Phase α → Prop
  | waiting => False
  | trying id' attempts => id' = id ∧ attempts.length < maxAttempts ∧
      c.resume node q id attempts = c.resume node q id []
  | answered id' call => id' = id ∧ call = c.resume node q id []

theorem heads_nextId_iff (c : Client) (n : UInt64) :
    phase.Heads { c with nextId := n } node q.query id ↔ phase.Heads c node q.query id :=
  .rfl

theorem Heads.next (h : phase.Heads c node q.query id) :
    (phase.next c node q.query).1.Heads c node q.query id ∧ (phase.next c node q.query).2 = c := by
  cases phase with
  | waiting => cases h
  | answered id' call => exact ⟨h, rfl⟩
  | trying id' attempts =>
    obtain ⟨rfl, hlength, halone⟩ := h
    cases hurl : checkEndpoint c.network.httpUrl with
    | error fault =>
      simp only [Client.resume, hurl] at halone
      simp only [Phase.next, hurl, Heads, Client.resume, halone, and_self]
    | ok _ =>
      by_cases hmore : attempts.length + 1 < maxAttempts ∧
          (node (q.request c.network.httpUrl id' (attempts.length + 1))).Passes q.reader
      · rw [next_of_passes hurl hmore.1 hmore.2]
        refine ⟨⟨rfl, ?_, ?_⟩, rfl⟩
        · rw [List.length_append, List.length_singleton]
          exact hmore.1
        · rw [← Client.resume_of_passes hurl hmore.1 hmore.2, halone]
      · have hends : (node (q.request c.network.httpUrl id' (attempts.length + 1))).Passes q.reader →
            maxAttempts ≤ attempts.length + 1 := fun hpasses =>
          Nat.le_of_not_lt fun hlt => hmore ⟨hlt, hpasses⟩
        rw [next_of_ends hurl hends]
        refine ⟨⟨rfl, ?_⟩, rfl⟩
        rw [← Client.resume_of_ends hurl hlength hends, halone]

theorem heads_draw (c : Client) (node : Node) (q : Query α) (id : UInt64) :
    (trying id []).Heads c node q id :=
  ⟨rfl, Nat.zero_lt_succ 2, rfl⟩

theorem Heads.answered (h : phase.Heads c node q.query id) (hleft : phase.left = 0) :
    phase = answered id (c.resume node q.query id []) := by
  cases phase with
  | waiting => cases h
  | trying id' attempts =>
    obtain ⟨-, hlength, -⟩ := h
    exact absurd hlength (Nat.not_lt_of_le (Nat.sub_eq_zero_iff_le.mp hleft))
  | answered id' call =>
    obtain ⟨rfl, rfl⟩ := h
    rfl

theorem Heads.id?_eq (h : phase.Heads c node q.query id) : phase.id? = some id := by
  cases phase with
  | waiting => cases h
  | trying id' attempts | answered id' call => exact congrArg some h.1

theorem Heads.prefix_attempts (h : phase.Heads c node q.query id) :
    phase.attempts <+: (c.resume node q.query id []).attempts := by
  cases phase with
  | waiting => cases h
  | answered id' call =>
    obtain ⟨-, rfl⟩ := h
    exact List.prefix_refl _
  | trying id' attempts =>
    obtain ⟨-, -, halone⟩ := h
    rw [← halone]
    unfold Client.resume
    cases checkEndpoint c.network.httpUrl with
    | error fault => exact List.prefix_refl _
    | ok _ => exact List.prefix_append _ _

end Phase

structure Contest (α : Nat → Type) where
  client : Client
  phase : (i : Nat) → Phase (α i)

namespace Contest

variable {α : Nat → Type} (node : Nat → Node) (question : (i : Nat) → Question (α i))

def start (client : Client) : Contest α :=
  ⟨client, fun _ => .waiting⟩

def turn (c : Contest α) (i : Nat) : Contest α :=
  let (phase, client) := (c.phase i).next c.client (node i) (question i).query
  ⟨client, Function.update c.phase i phase⟩

def run (c : Contest α) (turns : List Nat) : Contest α :=
  turns.foldl (turn node question) c

/-- After these turns, numbers are drawn in the order of the first turns, and every call that had one
is on its way. -/
structure Ordered (first : Client) (turns : List Nat) (c : Contest α) : Prop where
  client : c.client =
    { first with nextId := first.nextId + UInt64.ofNat turns.eraseDups.length }
  waiting : ∀ i, i ∉ turns → c.phase i = .waiting
  drawn : ∀ j i, turns.eraseDups[j]? = some i →
    (c.phase i).Heads first (node i) (question i).query (first.nextId + UInt64.ofNat j)
  left : ∀ i, (c.phase i).left ≤ 4 - turns.count i

variable {node question} {first : Client} {turns : List Nat} {c : Contest α}

theorem ordered_start (first : Client) : Ordered node question first [] (start first) := by
  refine ⟨?_, fun i _ => rfl, nofun, fun i => Nat.le_refl 4⟩
  simp [start]

theorem client_turn (c : Contest α) (i : Nat) : (c.turn node question i).client =
    ((c.phase i).next c.client (node i) (question i).query).2 :=
  rfl

theorem phase_turn_of_ne {i j : Nat} (h : j ≠ i) : (c.turn node question i).phase j = c.phase j :=
  Function.update_of_ne h _ _

theorem phase_turn_self (c : Contest α) (i : Nat) : (c.turn node question i).phase i =
    ((c.phase i).next c.client (node i) (question i).query).1 :=
  Function.update_self _ _ _

namespace Ordered

theorem left_turn (h : Ordered node question first turns c) (i j : Nat) :
    ((c.turn node question i).phase j).left ≤ 4 - (turns ++ [i]).count j := by
  have hleft := h.left j
  by_cases hj : j = i
  · subst j
    have hnext := (c.phase i).left_next c.client (node i) (question i).query
    rw [phase_turn_self, List.count_append, List.count_singleton_self]
    omega
  · rw [phase_turn_of_ne hj, List.count_append, List.count_singleton, if_neg (by simpa using Ne.symm hj)]
    exact hleft

theorem turn_of_notMem (h : Ordered node question first turns c) {i : Nat} (hi : i ∉ turns) :
    Ordered node question first (turns ++ [i]) (c.turn node question i) := by
  have hdups := eraseDups_concat_of_notMem hi
  refine ⟨?_, ?_, ?_, h.left_turn i⟩
  · rw [client_turn, h.waiting i hi, h.client, hdups, List.length_append, UInt64.ofNat_add,
      ← UInt64.add_assoc]
    rfl
  · intro j hj
    rw [List.mem_append, not_or, List.mem_singleton] at hj
    rw [phase_turn_of_ne hj.2]
    exact h.waiting j hj.1
  · intro j i' hplace
    rw [hdups] at hplace
    rcases Nat.lt_or_ge j turns.eraseDups.length with hj | hj
    · rw [List.getElem?_append_left hj] at hplace
      have hmem : i' ∈ turns := List.mem_eraseDups.mp (List.mem_of_getElem? hplace)
      have hne : i' ≠ i := by
        rintro rfl
        exact hi hmem
      rw [phase_turn_of_ne hne]
      exact h.drawn j i' hplace
    · rw [List.getElem?_append_right hj] at hplace
      obtain ⟨hlt, hself⟩ := List.getElem?_eq_some_iff.mp hplace
      rw [List.length_singleton] at hlt
      have hlast : j = turns.eraseDups.length := by omega
      subst hlast
      simp only [Nat.sub_self, List.getElem_cons_zero] at hself
      subst hself
      rw [phase_turn_self, h.waiting i hi, h.client]
      exact Phase.heads_draw ..

theorem turn_of_mem (h : Ordered node question first turns c) {i : Nat} (hi : i ∈ turns) :
    Ordered node question first (turns ++ [i]) (c.turn node question i) := by
  have hdups := eraseDups_concat_of_mem hi
  have hnext : ∀ j, turns.eraseDups[j]? = some i →
      ((c.phase i).next c.client (node i) (question i).query).1.Heads first (node i)
          (question i).query (first.nextId + UInt64.ofNat j) ∧
        ((c.phase i).next c.client (node i) (question i).query).2 = c.client := by
    intro j hj
    have hheads := h.drawn j i hj
    rw [h.client]
    rw [← Phase.heads_nextId_iff first (first.nextId + UInt64.ofNat turns.eraseDups.length)] at hheads ⊢
    exact hheads.next
  refine ⟨?_, ?_, ?_, h.left_turn i⟩
  · obtain ⟨j, hj⟩ := List.mem_iff_getElem?.mp (List.mem_eraseDups.mpr hi)
    rw [client_turn, (hnext j hj).2, hdups]
    exact h.client
  · intro j hj
    rw [List.mem_append, not_or, List.mem_singleton] at hj
    rw [phase_turn_of_ne hj.2]
    exact h.waiting j hj.1
  · intro j i' hplace
    rw [hdups] at hplace
    by_cases hi' : i' = i
    · subst i'
      rw [phase_turn_self]
      exact (hnext j hplace).1
    · rw [phase_turn_of_ne hi']
      exact h.drawn j i' hplace

theorem run (first : Client) (turns : List Nat) :
    Ordered node question first turns ((start first).run node question turns) := by
  -- from the end, because whether a turn is a first one depends on those before it
  induction turns using List.reverseRecOn with
  | nil => exact ordered_start first
  | append_singleton turns i ih =>
    have hrun : (start first).run node question (turns ++ [i]) =
        ((start first).run node question turns).turn node question i := List.foldl_append
    rw [hrun]
    by_cases hi : i ∈ turns
    · exact ih.turn_of_mem hi
    · exact ih.turn_of_notMem hi

theorem exists_place (h : Ordered node question first turns c) {i : Nat} {id : UInt64}
    (hid : (c.phase i).id? = some id) :
    ∃ j, turns.eraseDups[j]? = some i ∧ id = first.nextId + UInt64.ofNat j := by
  by_cases hi : i ∈ turns
  · obtain ⟨j, hj⟩ := List.mem_iff_getElem?.mp (List.mem_eraseDups.mpr hi)
    exact ⟨j, hj, Option.some.inj (hid.symm.trans (h.drawn j i hj).id?_eq)⟩
  · rw [h.waiting i hi] at hid
    cases hid

theorem eq_of_id? (h : Ordered node question first turns c)
    (hsize : turns.eraseDups.length ≤ UInt64.size) {i i' : Nat} {id : UInt64}
    (hid : (c.phase i).id? = some id) (hid' : (c.phase i').id? = some id) : i = i' := by
  obtain ⟨j, hj, rfl⟩ := h.exists_place hid
  obtain ⟨j', hj', hsame⟩ := h.exists_place hid'
  obtain ⟨hlt, -⟩ := List.getElem?_eq_some_iff.mp hj
  obtain ⟨hlt', -⟩ := List.getElem?_eq_some_iff.mp hj'
  have hplace : j = j' := by
    have hnat := congrArg UInt64.toNat ((UInt64.add_right_inj _).mp hsame)
    rwa [UInt64.toNat_ofNat_of_lt' (by omega), UInt64.toNat_ofNat_of_lt' (by omega)] at hnat
  subst hplace
  exact Option.some.inj (hj.symm.trans hj')

end Ordered

end Contest

section

variable {α : Nat → Type} (node : Nat → Node) (question : (i : Nat) → Question (α i))

def Client.after (c : Client) : Nat → Client
  | 0 => c
  | j + 1 => ((c.after j).ask (node j) (question j).query).2

theorem Client.ask_snd {β : Type} (c : Client) (node : Node) (q : Query β) :
    (c.ask node q).2 = { c with nextId := c.nextId + 1 } := by
  unfold ask call
  cases checkEndpoint c.network.httpUrl <;> rfl

theorem Client.after_eq (c : Client) (j : Nat) :
    c.after node question j = { c with nextId := c.nextId + UInt64.ofNat j } := by
  induction j with
  | zero => simp [after]
  | succ j ih =>
    rw [after, ask_snd, ih, UInt64.ofNat_add, ← UInt64.add_assoc]
    rfl

/-- Calls of a new client. Each that draws a number comes to what it would come to alone with it, and so
to at most three attempts. The numbers go up from one, in the order of the calls, or of the first turns
if they are made at the same time. -/
theorem ended_run (serial : Nat) (network : Network) :
    let client : Client := { serial := serial, network := network }
    let alone (i : Nat) (id : UInt64) : Call (α i) :=
      (({ client with nextId := id } : Client).ask (node i) (question i).query).1
    (∀ i id, (question i).Ended (node i) network.httpUrl id (alone i id)) ∧
    (∀ j, ((client.after node question j).ask (node j) (question j).query).1 =
      alone j (UInt64.ofNat (j + 1))) ∧
    ∀ turns, let last := (Contest.start client).run node question turns
      (∀ j i, turns.eraseDups[j]? = some i →
        (last.phase i).id? = some (UInt64.ofNat (j + 1)) ∧
        (last.phase i).attempts <+: (alone i (UInt64.ofNat (j + 1))).attempts ∧
        (∀ id call, last.phase i = .answered id call → call = alone i (UInt64.ofNat (j + 1))) ∧
        (4 ≤ turns.count i →
          last.phase i = .answered (UInt64.ofNat (j + 1)) (alone i (UInt64.ofNat (j + 1))))) ∧
      (∀ i, i ∉ turns → last.phase i = .waiting) ∧
      (turns.eraseDups.length ≤ UInt64.size → ∀ i i' id,
        (last.phase i).id? = some id → (last.phase i').id? = some id → i = i') := by
  intro client alone
  have hid : ∀ j : Nat, client.nextId + UInt64.ofNat j = UInt64.ofNat (j + 1) := by
    intro j
    rw [Nat.add_comm, UInt64.ofNat_add]
    rfl
  refine ⟨fun i id => (question i).ended_ask (node i) { client with nextId := id }, fun j => ?_,
    fun turns => ?_⟩
  · rw [Client.after_eq, hid]
  · intro last
    have hordered : Contest.Ordered node question client turns last := Contest.Ordered.run client turns
    refine ⟨fun j i hplace => ?_, hordered.waiting, fun hsize i i' id => hordered.eq_of_id? hsize⟩
    have hheads := hordered.drawn j i hplace
    rw [hid] at hheads
    have halone : client.resume (node i) (question i).query (UInt64.ofNat (j + 1)) [] =
        alone i (UInt64.ofNat (j + 1)) := client.resume_nil ..
    refine ⟨hheads.id?_eq, ?_, ?_, fun hturns => ?_⟩
    · rw [← halone]
      exact hheads.prefix_attempts
    · intro id call hanswered
      rw [hanswered] at hheads
      exact hheads.2.trans halone
    · have hleft := hordered.left i
      rw [← halone]
      exact hheads.answered (by omega)

end

/-- Slow at first, then too busy, and then broken. -/
def ailingNode : Node := fun request =>
  match request.attempt with
  | 1 => .stalled
  | 2 => .answered 429 none
  | _ => .answered 500 none

def localNetwork : Network :=
  { Network.placeholder with httpUrl := "http://[::1]" }

def Question.chainId : Question UInt64 :=
  ⟨String, "eth_chainId", .arr [], .text, none, quantityWord, lasts_quantityWord⟩

theorem ended_run_ailing :
    let turns := [1, 0, 0, 1, 1, 0, 1, 0]
    let last := (Contest.start { serial := 0, network := localNetwork }).run (fun _ => ailingNode)
      (fun _ => Question.chainId) turns
    turns.eraseDups[1]? = some 0 ∧ 4 ≤ turns.count 0 ∧
      ∃ call, last.phase 0 = .answered 2 call ∧
        call.attempts.map (fun request => (request.id, request.attempt)) = [(2, 1), (2, 2), (2, 3)] ∧
        call.outcome =
          .error { code := .rpcError, message := "HTTP error: 500 Internal Server Error" } := by
  intro turns last
  have hplace : turns.eraseDups[1]? = some 0 := by decide
  have hcount : 4 ≤ turns.count 0 := by decide
  obtain ⟨-, -, hrun⟩ := ended_run (fun _ => ailingNode) (fun _ => Question.chainId) 0 localNetwork
  obtain ⟨hdrawn, -, -⟩ := hrun turns
  obtain ⟨-, -, -, hanswered⟩ := hdrawn 1 0 hplace
  exact ⟨hplace, hcount, _, hanswered hcount, by decide +kernel, by decide +kernel⟩

/-- Where no request can be made to the address, none is. -/
theorem ask_unaddressed :
    let client : Client :=
      { serial := 0, network := { Network.placeholder with httpUrl := "127.0.0.1:8545" } }
    let call := (client.ask .unreachable .chainId).1
    ¬(1 ≤ call.attempts.length ∧ call.attempts.length ≤ 3) := by
  decide +kernel

end MempoolGate.Rpc
