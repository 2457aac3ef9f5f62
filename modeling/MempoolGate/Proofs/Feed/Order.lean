import MempoolGate.Proofs.Feed.Progress

namespace MempoolGate.Feed

namespace Subscription

/-- The events of items before which `n` notifications came. An error is told in any case, a notification
only if it is among the first ones and its look-up finds a transaction. -/
def eventsFrom (sub : Subscription) : Nat → List Item → List Event
  | _, [] => []
  | n, .hash _ :: items =>
    (if n < sub.limits.cap then (sub.lookup n).event? sub.network else none).toList ++
      sub.eventsFrom (n + 1) items
  | n, .fault e :: items =>
    .failure sub.network.id e.code.name e.message :: sub.eventsFrom n items

def closing (sub : Subscription) : Event :=
  .failure sub.network.id "WS_STREAM_CLOSED" "Upstream subscription ended"

/-- All that the client of a feed is told if the feed is left to run to its end. -/
def reference (sub : Subscription) : List Event :=
  Pump.greeting sub.network sub.sessionId sub.endpointIndex ::
    (sub.eventsFrom 0 sub.source ++ [sub.closing])

/-- Past the cap it does not matter how many notifications came before. -/
theorem eventsFrom_of_full (sub : Subscription) {n m : Nat} (hn : sub.limits.cap ≤ n)
    (hm : sub.limits.cap ≤ m) (items : List Item) : sub.eventsFrom n items = sub.eventsFrom m items := by
  induction items generalizing n m with
  | nil => rfl
  | cons item items ih =>
    cases item with
    | hash h =>
      simp only [eventsFrom, Nat.not_lt.mpr hn, Nat.not_lt.mpr hm, if_false]
      rw [ih (Nat.le_succ_of_le hn) (Nat.le_succ_of_le hm)]
    | fault e =>
      simp only [eventsFrom]
      rw [ih hn hm]

end Subscription

def Slot.eventOf? (sub : Subscription) : Slot → Option Event
  | looking ticket _ => (sub.lookup ticket).event? sub.network
  | settled event => event

@[simp]
theorem Slot.eventOf?_looking (sub : Subscription) (ticket : Nat) (h : TxHash) :
    (looking ticket h).eventOf? sub = (sub.lookup ticket).event? sub.network :=
  rfl

@[simp]
theorem Slot.eventOf?_settled (sub : Subscription) (event : Option Event) :
    (settled event).eventOf? sub = event :=
  rfl

namespace Delivery

def toCome (d : Delivery) : List Event :=
  match d.pump.stage with
  | .pumping =>
    d.pump.hand.toList ++ (d.pump.window.filterMap (Slot.eventOf? d.sub) ++
      (d.sub.eventsFrom d.pump.received d.coming ++ [d.sub.closing]))
  | .closing => d.pump.hand.toList
  | .ended => []

/-- The events that the client has and those that it will have if the feed runs to its end. -/
def foreseen (d : Delivery) : List Event :=
  d.got ++ (d.pump.channel ++ d.toCome)

variable {d d' : Delivery} {move : Move} {tallies : List Tally} {pump : Pump}

theorem toCome_pull (hd : d.Sound) {item : Item} (hallows : d.allows (.pull item))
    (hmade : Pump.Made d.pump (.pull item) pump tallies) :
    (d.after (.pull item) pump).toCome = d.toCome := by
  obtain ⟨rest, hcoming⟩ := coming_of_allows_pull hallows
  cases hmade with
  | accept h polling more room below =>
    obtain ⟨hstage, hhand⟩ := d.pump.isPolling_iff.mp polling
    rw [hd.limits] at below
    simp only [toCome, after, hstage, hhand, hcoming, List.tail_cons, List.filterMap_append,
      Subscription.eventsFrom, below, if_true]
    cases hlookup : (d.sub.lookup d.pump.received).event? d.sub.network <;>
      simp [hlookup]
  | refuse h polling more room full =>
    obtain ⟨hstage, hhand⟩ := d.pump.isPolling_iff.mp polling
    rw [hd.limits] at full
    simp only [toCome, after, hstage, hhand, hcoming, List.tail_cons, List.filterMap_append,
      Subscription.eventsFrom, Nat.not_lt.mpr full, if_false]
    rw [d.sub.eventsFrom_of_full full (Nat.le_succ_of_le full)]
    simp
  | fault e polling more room =>
    obtain ⟨hstage, hhand⟩ := d.pump.isPolling_iff.mp polling
    simp [toCome, after, hstage, hhand, hcoming, Subscription.eventsFrom,
      Pump.faultEvent, hd.network]

theorem toCome_settle (hd : d.Sound) {ticket : Nat} {lookup : Lookup}
    (hallows : d.allows (.settle ticket lookup))
    (hmade : Pump.Made d.pump (.settle ticket lookup) pump tallies) :
    (d.after (.settle ticket lookup) pump).toCome = d.toCome := by
  obtain rfl : lookup = d.sub.lookup ticket := of_decide_eq_true hallows
  cases hmade with
  | settle _ _ polling held =>
    have hslot : Slot.eventOf? d.sub ∘ Slot.settle d.pump.network ticket (d.sub.lookup ticket) =
        Slot.eventOf? d.sub := by
      funext slot
      cases slot with
      | settled event => rfl
      | looking other h =>
        by_cases ho : other = ticket
        · subst other
          simp [Slot.settle, Slot.holds, hd.network]
        · simp [Slot.settle, Slot.holds, ho]
    simp only [toCome, after, List.filterMap_map, hslot]

/-- What is foreseen changes only if the feed is given up. -/
theorem foreseen_step (hd : d.Sound) (hmove : move ≠ .abandon)
    (hstep : d.step? move = some (d', tallies)) : d'.foreseen = d.foreseen := by
  obtain ⟨hallows, pump, hmade, rfl⟩ := step?_eq_some_iff.mp hstep
  cases move with
  | pull item =>
    obtain ⟨slot, -, hchannel, -⟩ := hmade.exists_slot
    simp only [foreseen, toCome_pull hd hallows hmade]
    simp only [after, hchannel]
  | settle ticket lookup =>
    simp only [foreseen, toCome_settle hd hallows hmade]
    cases hmade
    rfl
  | take =>
    cases hmade with
    | take event rest polling oldest =>
      obtain ⟨hstage, hhand⟩ := d.pump.isPolling_iff.mp polling
      cases event <;> simp [foreseen, toCome, after, hstage, hhand, oldest, List.filterMap_cons]
  | send =>
    cases hmade with
    | send event held running room =>
      cases hstage : d.pump.stage with
      | pumping => simp [foreseen, toCome, after, hstage, held]
      | closing => simp [foreseen, toCome, after, hstage, held]
      | ended => exact absurd hstage running
  | endSource =>
    cases hmade
    rfl
  | close =>
    cases hmade with
    | close polling finished idle =>
      obtain ⟨hstage, hhand⟩ := d.pump.isPolling_iff.mp polling
      simp [foreseen, toCome, after, hstage, hhand, idle, hd.coming finished, Subscription.eventsFrom,
        Pump.faultEvent, Pump.sourceEnded, Subscription.closing, hd.network, ErrorCode.name]
  | abandon => exact absurd rfl hmove
  | receive =>
    cases hmade with
    | receive event rest oldest =>
      have hcome : (d.after .receive { d.pump with channel := rest }).toCome = d.toCome := rfl
      simp only [foreseen, hcome]
      simp [after, oldest]

theorem foreseen_abandon (hstep : d.step? .abandon = some (d', tallies)) :
    d'.foreseen <+: d.foreseen := by
  obtain ⟨-, pump, hmade, rfl⟩ := step?_eq_some_iff.mp hstep
  cases hmade
  simp only [foreseen, toCome, after, List.append_nil]
  rw [← List.append_assoc]
  exact List.prefix_append _ _

theorem foreseen_start (sub : Subscription) : (start sub).foreseen = sub.reference := by
  simp [foreseen, toCome, start, Pump.start, Subscription.reference]

theorem foreseen_run {moves : List Move} (hd : d.Sound) (hrun : d.run? moves = some d') :
    d'.foreseen <+: d.foreseen := by
  -- soundness goes along, since only of a sound feed a move leaves what is foreseen alone
  refine (run?_induction (P := fun e => e.Sound ∧ e.foreseen <+: d.foreseen) ?_ hrun
    ⟨hd, List.prefix_rfl⟩).2
  rintro e move e' tallies - ⟨he, hle⟩ hstep
  refine ⟨he.step hstep, ?_⟩
  by_cases hmove : move = .abandon
  · subst move
    exact (foreseen_abandon hstep).trans hle
  · rw [foreseen_step he hmove hstep]
    exact hle

theorem foreseen_run_eq {moves : List Move} (hd : d.Sound) (hkept : .abandon ∉ moves)
    (hrun : d.run? moves = some d') : d'.foreseen = d.foreseen := by
  refine (run?_induction (P := fun e => e.Sound ∧ e.foreseen = d.foreseen) ?_ hrun ⟨hd, rfl⟩).2
  rintro e move e' tallies hmem ⟨he, heq⟩ hstep
  have hmove : move ≠ .abandon := fun h => hkept (h ▸ hmem)
  exact ⟨he.step hstep, (foreseen_step he hmove hstep).trans heq⟩

theorem got_prefix (d : Delivery) : d.got <+: d.foreseen :=
  List.prefix_append _ _

theorem got_of_isDrained (h : d.pump.isDrained = true) : d.got = d.foreseen := by
  obtain ⟨hstage, hchannel⟩ := d.pump.isDrained_iff.mp h
  simp [foreseen, toCome, hstage, hchannel]

end Delivery

/-- Any number of feeds side by side, with their items, look-ups and clients in any order. The client of
a feed has received the first of the events that were settled when it was opened; all of them if the
feed was not given up and nothing more will come, which is so once the source is over, the look-ups have
ended, the channel is empty and the pump has made the moves left to it. This comes about: until then the
feed has a move to make, and it makes at most five for each item and six more. -/
theorem Fleet.got_run {acts : List Act} {f : Fleet} {feed : Nat} {sub : Subscription}
    (hrun : ({} : Fleet).run? acts = some f)
    (hsub : (acts.filterMap Act.subscription?)[feed]? = some sub)
    (hconcurrency : 1 ≤ sub.limits.concurrency) (hcapacity : 1 ≤ sub.limits.capacity) :
    ∃ d, f.feeds[feed]? = some d ∧ d.got <+: sub.reference ∧
      (.abandon ∉ movesOf feed acts → d.pump.isDrained = true → d.got = sub.reference) ∧
      (.abandon ∉ movesOf feed acts → d.pump.sourceOver = true →
        (∀ ticket h, .looking ticket h ∉ d.pump.window) → d.pump.channel = [] →
        (∀ move ∈ [Move.take, .send, .close], d.pump.move? move = none) →
        d.got = sub.reference) ∧
      (d.pump.isDrained = false →
        ∃ move, move ≠ .abandon ∧ (f.act? (.move feed move)).isSome = true) ∧
      (movesOf feed acts).length ≤ 5 * sub.source.length + 6 := by
  obtain ⟨d, hd, hmoves⟩ := feeds_run? hrun hsub
  have hsound := Delivery.Sound.run? hmoves (Delivery.Sound.start sub)
  have hstays : d.sub = sub := Delivery.run?_sub hmoves
  have hconcurrency' : 1 ≤ d.sub.limits.concurrency := hstays ▸ hconcurrency
  have hcapacity' : 1 ≤ d.sub.limits.capacity := hstays ▸ hcapacity
  have hwhole (hkept : .abandon ∉ movesOf feed acts) (hdrained : d.pump.isDrained = true) :
      d.got = sub.reference := by
    rw [d.got_of_isDrained hdrained,
      Delivery.foreseen_run_eq (Delivery.Sound.start sub) hkept hmoves]
    exact Delivery.foreseen_start sub
  refine ⟨d, hd, ?_, hwhole, ?_, ?_, ?_⟩
  · rw [← Delivery.foreseen_start sub]
    exact d.got_prefix.trans (Delivery.foreseen_run (Delivery.Sound.start sub) hmoves)
  · intro hkept hover hlooked hchannel hrest
    exact hwhole hkept
      (Delivery.isDrained_of_rest hsound hconcurrency' hcapacity' hover hlooked hchannel hrest)
  · intro hdrained
    obtain ⟨move, hmove, hstep⟩ :=
      Delivery.exists_step hsound hconcurrency' hcapacity' hdrained
    obtain ⟨⟨d', tallies⟩, hstep⟩ := Option.isSome_iff_exists.mp hstep
    refine ⟨move, hmove, ?_⟩
    rw [act?_move_eq_some_iff.mpr ⟨d, d', tallies, hd, hstep, rfl⟩]
    rfl
  · have hle := Delivery.length_add_weight_le hmoves
    rw [Delivery.weight_start] at hle
    omega

def sampleSubscription : Subscription :=
  { network := ⟨"sepolia", 11155111, "Sepolia", "ETH", "", [], ""⟩
    limits := ⟨2, 2, 1⟩
    sessionId := .filled 16 1
    endpointIndex := 0
    source := [.hash (.filled 32 1), .hash (.filled 32 2),
      .fault { code := .wsSubscribeFailed, message := "late" }, .hash (.filled 32 3)]
    lookup := fun
      | 1 => .found ⟨.filled 32 2, .filled 20 1, none, .zero, [], 21000⟩ 0
      | _ => .missing }

/-- The second look-up ends before the first, and another feed is opened and given up meanwhile. -/
def sampleActs : List Act :=
  [.subscribe sampleSubscription, .move 0 (.pull (.hash (.filled 32 1))),
    .move 0 (.pull (.hash (.filled 32 2))), .move 0 (.settle 1 (sampleSubscription.lookup 1)),
    .subscribe sampleSubscription, .move 1 .abandon, .move 0 (.settle 0 .missing), .move 0 .take,
    .move 0 (.pull (.fault { code := .wsSubscribeFailed, message := "late" })), .move 0 .take,
    .move 0 .receive, .move 0 .send, .move 0 (.pull (.hash (.filled 32 3))), .move 0 .take,
    .move 0 .receive, .move 0 .send, .move 0 .take, .move 0 .endSource, .move 0 .close,
    .move 0 .receive, .move 0 .send, .move 0 .receive]

theorem Fleet.got_run_sampleActs :
    ∃ f, ({} : Fleet).run? sampleActs = some f ∧
      (sampleActs.filterMap Act.subscription?)[0]? = some sampleSubscription ∧
      ∃ d, f.feeds[0]? = some d ∧ d.got = sampleSubscription.reference ∧
        d.got.map Event.kind = ["connected", "tx", "error", "error"] := by
  have hdrained : (({} : Fleet).run? sampleActs).map
      (fun f => f.feeds[0]?.map fun d => d.pump.isDrained) = some (some true) := by decide +kernel
  obtain ⟨f, hrun, hf⟩ := Option.map_eq_some_iff.mp hdrained
  obtain ⟨d, hd, hover⟩ := Option.map_eq_some_iff.mp hf
  have hsub : (sampleActs.filterMap Act.subscription?)[0]? = some sampleSubscription := rfl
  obtain ⟨d', hd', -, hwhole, -⟩ := got_run hrun hsub (by decide) (by decide)
  cases hd.symm.trans hd'
  have hgot := hwhole (by decide) hover
  refine ⟨f, hrun, hsub, d, hd, hgot, ?_⟩
  rw [hgot]
  rfl

end MempoolGate.Feed
