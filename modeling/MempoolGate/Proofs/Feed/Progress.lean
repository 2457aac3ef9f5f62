import MempoolGate.Proofs.Feed.Delivery
import Mathlib.Algebra.Order.BigOperators.Group.List
import Mathlib.Algebra.Order.Ring.Nat

namespace MempoolGate.Feed

def Slot.weight : Slot → Nat
  | looking .. => 4
  | settled _ => 3

theorem Slot.weight_le (slot : Slot) : slot.weight ≤ 4 := by
  cases slot <;> simp [weight]

theorem Slot.weight_settle_le (net : Network) (ticket : Nat) (lookup : Lookup) (slot : Slot) :
    (slot.settle net ticket lookup).weight ≤ slot.weight := by
  cases slot with
  | settled event => exact Nat.le_refl _
  | looking other h => by_cases ho : other = ticket <;> simp [settle, holds, weight, ho]

theorem Slot.weight_settle_lt (net : Network) {ticket : Nat} (lookup : Lookup) {slot : Slot}
    (h : slot.holds ticket) : (slot.settle net ticket lookup).weight < slot.weight := by
  cases slot with
  | settled event => cases h
  | looking other hash =>
    rw [settle, if_pos h]
    exact Nat.lt_succ_self 3

def Stage.weight (sourceOver : Bool) : Stage → Nat
  | pumping => if sourceOver then 4 else 5
  | closing => 1
  | ended => 0

namespace Delivery

/-- The number of moves that a feed has left at the most. -/
def weight (d : Delivery) : Nat :=
  5 * d.coming.length + (d.pump.window.map Slot.weight).sum + 2 * d.pump.hand.toList.length +
    d.pump.channel.length + d.pump.stage.weight d.pump.sourceOver

variable {d d' : Delivery} {move : Move} {tallies : List Tally}

theorem weight_start (sub : Subscription) : (start sub).weight = 5 * sub.source.length + 6 :=
  rfl

theorem weight_step (hstep : d.step? move = some (d', tallies)) : d'.weight < d.weight := by
  -- an event weighs less at each place on its way from the source to the client
  obtain ⟨hallows, pump, hmade, rfl⟩ := step?_eq_some_iff.mp hstep
  cases move with
  | pull item =>
    obtain ⟨rest, hcoming⟩ := coming_of_allows_pull hallows
    obtain ⟨slot, hwindow, hchannel, hhand, hstage, hover⟩ := hmade.exists_slot
    have hslot := slot.weight_le
    simp only [weight, after, hcoming, hwindow, hchannel, hhand, hstage, hover, List.tail_cons,
      List.length_cons, List.map_append, List.map_cons, List.map_nil, List.sum_append,
      List.sum_singleton]
    omega
  | settle ticket lookup =>
    cases hmade with
    | settle _ _ polling held =>
      obtain ⟨slot, hslot, hholds⟩ := List.any_eq_true.mp held
      have hlt := List.sum_lt_sum (l := d.pump.window)
        (fun slot => (slot.settle d.pump.network ticket lookup).weight) Slot.weight
        (fun slot _ => slot.weight_settle_le d.pump.network ticket lookup)
        ⟨slot, hslot, Slot.weight_settle_lt d.pump.network lookup hholds⟩
      simp only [weight, after, List.map_map, Function.comp_def]
      omega
  | take =>
    cases hmade with
    | take event rest polling oldest =>
      obtain ⟨hstage, hhand⟩ := d.pump.isPolling_iff.mp polling
      have hevent : event.toList.length ≤ 1 := by cases event <;> simp
      simp only [weight, after, hhand, oldest, Slot.weight, Option.toList_none, List.length_nil,
        List.map_cons, List.sum_cons]
      omega
  | send =>
    cases hmade with
    | send event held running room =>
      have hstage : (if d.pump.stage = .closing then .ended else d.pump.stage).weight
          d.pump.sourceOver ≤ d.pump.stage.weight d.pump.sourceOver := by
        split
        · exact Nat.zero_le _
        · exact Nat.le_refl _
      simp only [weight, after, held, Option.toList_none, Option.toList_some, List.length_nil,
        List.length_append, List.length_singleton]
      omega
  | endSource =>
    cases hmade with
    | endSource polling room =>
      obtain ⟨hstage, -⟩ := d.pump.isPolling_iff.mp polling
      simp only [allows, Bool.and_eq_true, Bool.not_eq_true'] at hallows
      simp [weight, after, Stage.weight, hstage, hallows.2]
  | close =>
    cases hmade with
    | close polling finished idle =>
      obtain ⟨hstage, hhand⟩ := d.pump.isPolling_iff.mp polling
      simp [weight, after, Stage.weight, hstage, hhand, finished]
      omega
  | abandon =>
    cases hmade with
    | abandon running =>
      have hpos : 0 < d.pump.stage.weight d.pump.sourceOver := by
        cases hstage : d.pump.stage with
        | pumping => cases d.pump.sourceOver <;> decide
        | closing => exact Nat.one_pos
        | ended => exact absurd hstage running
      have hended : Stage.ended.weight d.pump.sourceOver = 0 := rfl
      simp only [weight, after, hended, Option.toList_none, List.length_nil]
      omega
  | receive =>
    cases hmade with
    | receive event rest oldest => simp [weight, after, oldest]

theorem length_add_weight_le {moves : List Move} (hrun : d.run? moves = some d') :
    moves.length + d'.weight ≤ d.weight := by
  induction moves generalizing d with
  | nil =>
    cases hrun
    rw [List.length_nil, Nat.zero_add]
  | cons move moves ih =>
    obtain ⟨⟨next, tallies⟩, hmove, hrest⟩ := Option.bind_eq_some_iff.mp hrun
    have hlt := weight_step hmove
    have hle := ih hrest
    rw [List.length_cons]
    omega

theorem isSome_step? {pump : Pump} (hallows : d.allows move)
    (hmade : Pump.Made d.pump move pump tallies) : (d.step? move).isSome := by
  rw [step?_eq_some_iff.mpr ⟨hallows, pump, hmade, rfl⟩]
  rfl

/-- A feed is never stuck: until its channel is drained for good something else than giving it up can
happen. -/
theorem exists_step (hd : d.Sound) (hconcurrency : 1 ≤ d.sub.limits.concurrency)
    (hcapacity : 1 ≤ d.sub.limits.capacity) (hdrained : d.pump.isDrained = false) :
    ∃ move, move ≠ .abandon ∧ (d.step? move).isSome := by
  -- Channel, hand, window and source in this order: the first that has something can pass it on.
  cases hchannel : d.pump.channel with
  | cons event rest => exact ⟨.receive, by simp, isSome_step? rfl (.receive event rest hchannel)⟩
  | nil =>
    have hfree : d.pump.channel.length < d.pump.limits.capacity := by
      rw [hchannel, hd.limits]
      exact hcapacity
    cases hhand : d.pump.hand with
    | some event =>
      have hrunning : d.pump.stage ≠ .ended := by
        intro hstage
        cases hhand.symm.trans (hd.ended hstage)
      exact ⟨.send, by simp, isSome_step? rfl (.send event hhand hrunning hfree)⟩
    | none =>
      have hstage : d.pump.stage = .pumping := by
        cases hstage : d.pump.stage with
        | pumping => rfl
        | closing => exact absurd hhand (hd.closing hstage)
        | ended =>
          rw [(d.pump.isDrained_iff).mpr ⟨hstage, hchannel⟩] at hdrained
          cases hdrained
      have hpolling := d.pump.isPolling_iff.mpr ⟨hstage, hhand⟩
      cases hwindow : d.pump.window with
      | cons slot rest =>
        cases slot with
        | settled event =>
          exact ⟨.take, by simp, isSome_step? rfl (.take event rest hpolling hwindow)⟩
        | looking ticket h =>
          have hheld : d.pump.window.any (·.holds ticket) := by simp [hwindow, Slot.holds]
          have hallows : d.allows (.settle ticket (d.sub.lookup ticket)) := by simp [allows]
          exact ⟨.settle ticket _, by simp, isSome_step? hallows (.settle ticket _ hpolling hheld)⟩
      | nil =>
        have hroom : d.pump.window.length < d.pump.limits.concurrency := by
          rw [hwindow, hd.limits]
          exact hconcurrency
        cases hover : d.pump.sourceOver with
        | true => exact ⟨.close, by simp, isSome_step? rfl (.close hpolling hover hwindow)⟩
        | false =>
          cases hcoming : d.coming with
          | nil =>
            have hallows : d.allows .endSource := by simp [allows, hcoming, hover]
            exact ⟨.endSource, by simp, isSome_step? hallows (.endSource hpolling hroom)⟩
          | cons item rest =>
            have hallows : d.allows (.pull item) := by simp [allows, hcoming]
            refine ⟨.pull item, by simp, ?_⟩
            cases item with
            | fault e => exact isSome_step? hallows (.fault e hpolling hover hroom)
            | hash h =>
              by_cases hcap : d.pump.received < d.pump.limits.cap
              · exact isSome_step? hallows (.accept h hpolling hover hroom hcap)
              · exact isSome_step? hallows
                  (.refuse h hpolling hover hroom (Nat.le_of_not_lt hcap))

/-- Once the source is over, all look-ups have ended and the client has emptied the channel, all that is
left are moves of the pump alone; without those the feed has come to its end. -/
theorem isDrained_of_rest (hd : d.Sound) (hconcurrency : 1 ≤ d.sub.limits.concurrency)
    (hcapacity : 1 ≤ d.sub.limits.capacity) (hover : d.pump.sourceOver = true)
    (hlooked : ∀ ticket h, .looking ticket h ∉ d.pump.window) (hchannel : d.pump.channel = [])
    (hrest : ∀ move ∈ [Move.take, .send, .close], d.pump.move? move = none) :
    d.pump.isDrained = true := by
  cases hdrained : d.pump.isDrained with
  | true => rfl
  | false =>
    obtain ⟨move, hmove, hstep⟩ := exists_step hd hconcurrency hcapacity hdrained
    obtain ⟨⟨d', tallies⟩, hstep⟩ := Option.isSome_iff_exists.mp hstep
    obtain ⟨hallows, pump, hmade, rfl⟩ := step?_eq_some_iff.mp hstep
    have hmoves := hmade.move?
    cases hmade with
    | accept h polling more => cases more.symm.trans hover
    | refuse h polling more => cases more.symm.trans hover
    | fault e polling more => cases more.symm.trans hover
    | settle ticket lookup polling held =>
      obtain ⟨slot, hslot, hholds⟩ := List.any_eq_true.mp held
      cases slot with
      | looking other h => exact absurd hslot (hlooked other h)
      | settled event => cases hholds
    | endSource =>
      simp only [allows, hover, Bool.not_true, Bool.and_false] at hallows
      cases hallows
    | abandon => exact absurd rfl hmove
    | receive event rest oldest => cases oldest.symm.trans hchannel
    | take | send | close => rw [hrest _ (by simp)] at hmoves; cases hmoves

end Delivery

end MempoolGate.Feed
