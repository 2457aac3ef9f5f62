import Mathlib.Data.List.ReduceOption
import MempoolGate.Proofs.Feed.Accounting

namespace MempoolGate.Feed

/-- Where the items are that were pulled. Of the events on the channel and with the client, the first and
the last one have no item. -/
structure Route where
  pulled : Nat := 0
  window : List Nat := []
  hand : Option Nat := none
  channel : List (Option Nat) := [none]
  got : List (Option Nat) := []
  discarded : List Nat := []
deriving DecidableEq

def Move.isPull : Move → Bool
  | pull _ => true
  | _ => false

namespace Route

/-- An item whose event is lost because the feed is given up stays where it is. -/
def after (r : Route) (p : Pump) : Move → Route
  | .pull _ => { r with pulled := r.pulled + 1, window := r.window ++ [r.pulled] }
  | .take =>
    if p.window.head? = some (.settled none) then
      { r with window := r.window.tail, discarded := r.discarded ++ r.window.head?.toList }
    else { r with window := r.window.tail, hand := r.window.head? }
  | .send => { r with hand := none, channel := r.channel ++ [r.hand] }
  | .receive => { r with channel := r.channel.tail, got := r.got ++ r.channel.head?.toList }
  | .settle .. | .endSource | .close | .abandon => r

def items (r : Route) : List Nat :=
  r.discarded ++ (r.got.reduceOption ++ (r.channel.reduceOption ++ (r.hand.toList ++ r.window)))

def outstanding (r : Route) : List Nat :=
  (List.range r.pulled).filter fun item => item ∉ r.discarded ∧ some item ∉ r.got

/-- The numbers stand where the pump has their items, and there are no more than it has room for. -/
structure Follows (r : Route) (d : Delivery) : Prop where
  window : r.window.length = d.pump.window.length
  channel : r.channel.length = d.pump.channel.length
  got : r.got.length = d.got.length
  polling : d.pump.isPolling = true → r.hand = none
  ahead : r.window.length + r.hand.toList.length ≤ d.pump.limits.concurrency
  queued : r.channel.reduceOption.length ≤ d.pump.limits.capacity
  items : (List.range r.pulled).Perm r.items

variable {r : Route} {d d' : Delivery} {move : Move} {tallies : List Tally} {pump : Pump}

theorem Follows.start (sub : Subscription) : Follows {} (.start sub) :=
  ⟨rfl, rfl, rfl, fun _ => rfl, Nat.zero_le _, Nat.zero_le _, .nil⟩

/-- An item that is pulled takes a place of the window, where one is free because no event waits. -/
theorem Follows.pull (h : r.Follows d) {item : Item}
    (hmade : Pump.Made d.pump (.pull item) pump tallies) :
    (r.after d.pump (.pull item)).Follows (d.after (.pull item) pump) := by
  obtain ⟨slot, hwindow, hchannel, -⟩ := hmade.exists_slot
  obtain ⟨hpolling, hroom⟩ : d.pump.isPolling = true ∧
      d.pump.window.length < d.pump.limits.concurrency := by
    cases hmade <;> exact ⟨‹_›, ‹_›⟩
  have hhand := h.polling hpolling
  refine ⟨?_, ?_, h.got, fun _ => hhand, ?_, ?_, ?_⟩
  · simp only [after, Delivery.after, hwindow, List.length_append, h.window]
    rfl
  · simp only [after, Delivery.after, hchannel, h.channel]
  · simp only [after, Delivery.after, hhand, hmade.fixed.2, List.length_append, h.window]
    exact hroom
  · simp only [after, Delivery.after, hmade.fixed.2]
    exact h.queued
  · simp only [after, Route.items, List.range_succ, ← List.append_assoc]
    refine List.Perm.append_right _ ?_
    simp only [List.append_assoc]
    exact h.items

theorem Follows.take (h : r.Follows d) (hmade : Pump.Made d.pump .take pump tallies) :
    (r.after d.pump .take).Follows (d.after .take pump) := by
  cases hmade with
  | take event rest polling oldest =>
    have hhand := h.polling polling
    have hwindow := h.window
    rw [oldest] at hwindow
    obtain ⟨item, items, hr⟩ := List.exists_cons_of_length_eq_add_one hwindow
    rw [hr] at hwindow
    have hlength : items.length = rest.length := Nat.succ.inj hwindow
    have hahead := h.ahead
    rw [hr, hhand] at hahead
    have hitems := h.items
    simp only [Route.items, hr, hhand, Option.toList_none, List.nil_append] at hitems
    cases event with
    | none =>
      simp only [after, oldest, List.head?_cons, if_true, hr, List.tail_cons]
      refine ⟨hlength, h.channel, h.got, fun _ => hhand, ?_, h.queued, ?_⟩
      · rw [hhand]
        exact Nat.le_of_succ_le hahead
      · simp only [Route.items, hhand, Option.toList_some, Option.toList_none, List.nil_append,
          List.append_assoc, List.singleton_append]
        refine hitems.trans (List.Perm.append_left _ ?_)
        rw [← List.append_assoc, ← List.append_assoc]
        exact List.perm_middle
    | some event =>
      simp only [after, oldest, List.head?_cons, hr, List.tail_cons]
      rw [if_neg (by simp)]
      refine ⟨hlength, h.channel, h.got, ?_, ?_, h.queued, hitems⟩
      · simp [Delivery.after, Pump.isPolling]
      · exact hahead

theorem Follows.send (h : r.Follows d) (hmade : Pump.Made d.pump .send pump tallies) :
    (r.after d.pump .send).Follows (d.after .send pump) := by
  cases hmade with
  | send event held running room =>
    have hchannel : (r.channel ++ [r.hand]).length = d.pump.channel.length + 1 := by
      rw [List.length_append, h.channel]
      rfl
    refine ⟨h.window, ?_, h.got, fun _ => rfl, ?_, ?_, ?_⟩
    · simp only [after, Delivery.after, hchannel, List.length_append, List.length_singleton]
    · exact (Nat.le_add_right _ _).trans h.ahead
    · refine (List.reduceOption_length_le _).trans ?_
      rw [after, hchannel]
      exact room
    · have hitems := h.items
      simp only [after, Route.items, List.reduceOption_append, List.reduceOption_singleton,
        Option.toList_none, List.nil_append, List.append_assoc] at hitems ⊢
      exact hitems

theorem Follows.receive (h : r.Follows d) (hmade : Pump.Made d.pump .receive pump tallies) :
    (r.after d.pump .receive).Follows (d.after .receive pump) := by
  cases hmade with
  | receive event rest oldest =>
    have hchannel := h.channel
    rw [oldest] at hchannel
    obtain ⟨item, items, hr⟩ := List.exists_cons_of_length_eq_add_one hchannel
    have hitems := h.items
    have hqueued := h.queued
    have hitem : r.channel.reduceOption = item.toList ++ items.reduceOption := by
      rw [hr, ← List.singleton_append, List.reduceOption_append, List.reduceOption_singleton]
    rw [hitem, List.length_append] at hqueued
    rw [hr] at hchannel
    simp only [after, hr, List.tail_cons, List.head?_cons, Option.toList_some]
    refine ⟨h.window, Nat.succ.inj hchannel, ?_, h.polling, h.ahead, ?_, ?_⟩
    · simp only [Delivery.after, oldest, List.head?_cons, Option.toList_some, List.length_append, h.got]
      rfl
    · exact (Nat.le_add_left _ _).trans hqueued
    · simp only [Route.items, hitem, List.reduceOption_append, List.reduceOption_singleton,
        List.append_assoc] at hitems ⊢
      exact hitems

theorem pulled_after (r : Route) (p : Pump) (move : Move) :
    (r.after p move).pulled = r.pulled + [move].countP Move.isPull := by
  cases move with
  | take =>
    rw [after]
    split <;> rfl
  | _ => rfl

theorem Follows.step (h : r.Follows d) (hstep : d.step? move = some (d', tallies)) :
    (r.after d.pump move).Follows d' := by
  obtain ⟨-, pump, hmade, rfl⟩ := Delivery.step?_eq_some_iff.mp hstep
  cases move with
  | pull item => exact h.pull hmade
  | take => exact h.take hmade
  | send => exact h.send hmade
  | receive => exact h.receive hmade
  | settle ticket lookup =>
    cases hmade
    exact ⟨h.window.trans (List.length_map _).symm, h.channel, h.got, h.polling, h.ahead, h.queued,
      h.items⟩
  | endSource =>
    cases hmade
    exact ⟨h.window, h.channel, h.got, h.polling, h.ahead, h.queued, h.items⟩
  | close | abandon =>
    -- the pump does not look at its source again
    cases hmade
    exact ⟨h.window, h.channel, h.got, nofun, h.ahead, h.queued, h.items⟩

end Route

namespace Delivery

open Route

def route (d : Delivery) (r : Route) : List Move → Route
  | [] => r
  | move :: moves =>
    match d.step? move with
    | some (next, _) => next.route (r.after d.pump move) moves
    | none => r

variable {d d' : Delivery} {r : Route} {moves : List Move}

theorem follows_route (hrun : d.run? moves = some d') (h : r.Follows d) :
    (d.route r moves).Follows d' := by
  induction moves generalizing d r with
  | nil =>
    cases hrun
    exact h
  | cons move moves ih =>
    obtain ⟨⟨next, tallies⟩, hmove, hrest⟩ := Option.bind_eq_some_iff.mp hrun
    simp only [route, hmove]
    exact ih hrest (h.step hmove)

theorem pulled_route (hrun : d.run? moves = some d') (r : Route) :
    (d.route r moves).pulled = r.pulled + moves.countP Move.isPull := by
  induction moves generalizing d r with
  | nil => rfl
  | cons move moves ih =>
    obtain ⟨⟨next, tallies⟩, hmove, hrest⟩ := Option.bind_eq_some_iff.mp hrun
    simp only [route, hmove]
    rw [ih hrest, Route.pulled_after, Nat.add_assoc, ← List.countP_append]
    rfl

end Delivery

namespace Route

variable {r : Route} {d : Delivery}

theorem Follows.looking_le (h : r.Follows d) :
    d.pump.looking.length ≤ d.pump.limits.concurrency := by
  have hlooking : d.pump.looking.length ≤ d.pump.window.length := List.length_filterMap_le _ _
  rw [← h.window] at hlooking
  exact hlooking.trans ((Nat.le_add_right _ _).trans h.ahead)

/-- The outstanding items are on the channel, in hand or in the window. -/
theorem Follows.outstanding_le (h : r.Follows d) :
    r.outstanding.length ≤ d.pump.limits.concurrency + d.pump.limits.capacity := by
  let onTheWay := r.channel.reduceOption ++ (r.hand.toList ++ r.window)
  have hnone (l : List Nat) (hl : ∀ item ∈ l, item ∈ r.discarded ∨ some item ∈ r.got) :
      l.filter (fun item => item ∉ r.discarded ∧ some item ∉ r.got) = [] := by
    refine List.filter_eq_nil_iff.mpr fun item hitem hout => ?_
    obtain ⟨hdiscarded, hgot⟩ := of_decide_eq_true hout
    exact (hl item hitem).elim hdiscarded hgot
  have hperm := h.items.filter fun item => decide (item ∉ r.discarded ∧ some item ∉ r.got)
  rw [Route.items, List.filter_append, List.filter_append, hnone _ fun _ => .inl,
    hnone _ fun _ hitem => .inr (List.reduceOption_mem_iff.mp hitem)] at hperm
  calc r.outstanding.length
      = (onTheWay.filter fun item => item ∉ r.discarded ∧ some item ∉ r.got).length := hperm.length_eq
    _ ≤ onTheWay.length := List.length_filter_le ..
    _ = r.window.length + r.hand.toList.length + r.channel.reduceOption.length := by
        rw [List.length_append, List.length_append]
        omega
    _ ≤ d.pump.limits.concurrency + d.pump.limits.capacity := Nat.add_le_add h.ahead h.queued

end Route

/-- Every session, with whatever its source brings, however its look-ups end and however slow its client
is: no more look-ups are under way than its limits allow, and the items that were pulled and neither came
to nothing nor have reached the client are no more than its window and its channel hold together. -/
theorem Fleet.backlog_run {acts : List Act} {f : Fleet} {feed : Nat} {d : Delivery}
    (hrun : ({} : Fleet).run? acts = some f) (hd : f.feeds[feed]? = some d) :
    let route := (Delivery.start d.sub).route {} (movesOf feed acts)
    d.pump.looking.length ≤ d.sub.limits.concurrency ∧
      route.pulled = (movesOf feed acts).countP Move.isPull ∧
      route.got.length = d.got.length ∧
      route.outstanding.length ≤ d.sub.limits.concurrency + d.sub.limits.capacity := by
  intro route
  have hmoves := run?_of_feed hrun hd
  have hroute : route.Follows d := Delivery.follows_route hmoves (.start d.sub)
  have hlimits : d.pump.limits = d.sub.limits :=
    (Delivery.Sound.run? hmoves (Delivery.Sound.start d.sub)).limits
  rw [← hlimits]
  refine ⟨hroute.looking_le, ?_, hroute.got, hroute.outstanding_le⟩
  exact (Delivery.pulled_route hmoves {}).trans (Nat.zero_add _)

def laggingActs : List Act :=
  [.subscribe sampleSubscription, .move 0 .receive, .move 0 (.pull (.hash (.filled 32 1))),
    .move 0 (.pull (.hash (.filled 32 2))), .move 0 (.settle 1 (sampleSubscription.lookup 1)),
    .move 0 (.settle 0 .missing), .move 0 .take,
    .move 0 (.pull (.fault { code := .wsSubscribeFailed, message := "late" })), .move 0 .take,
    .move 0 .send, .move 0 (.pull (.hash (.filled 32 3))), .move 0 .take]

/-- One event is on the channel, one in hand and one item in the window, which is all there is room for. -/
theorem Fleet.backlog_run_laggingActs :
    ∃ f d, ({} : Fleet).run? laggingActs = some f ∧ f.feeds[0]? = some d ∧
      d.pump.looking.length ≤ 2 ∧
      ((Delivery.start d.sub).route {} (movesOf 0 laggingActs)).outstanding = [1, 2, 3] ∧
      ((Delivery.start d.sub).route {} (movesOf 0 laggingActs)).outstanding.length ≤ 2 + 1 := by
  have hroutes : (({} : Fleet).run? laggingActs).map (fun f => f.feeds.map fun d =>
      (d.sub.limits, ((Delivery.start d.sub).route {} (movesOf 0 laggingActs)).outstanding)) =
        some [(⟨2, 2, 1⟩, [1, 2, 3])] := by decide +kernel
  obtain ⟨f, hrun, hf⟩ := Option.map_eq_some_iff.mp hroutes
  obtain ⟨d, hfeeds, hd⟩ := List.map_eq_singleton_iff.mp hf
  obtain ⟨hlimits, houtstanding⟩ := Prod.mk.inj hd
  have hfeed : f.feeds[0]? = some d := by
    rw [hfeeds]
    rfl
  obtain ⟨hlooking, -, -, hbound⟩ := backlog_run hrun hfeed
  rw [hlimits] at hlooking hbound
  exact ⟨f, d, hrun, hfeed, hlooking, houtstanding, hbound⟩

end MempoolGate.Feed
