import MempoolGate.Feed.Pump

namespace MempoolGate.Feed

def Slot.settle (net : Network) (ticket : Nat) (lookup : Lookup) (slot : Slot) : Slot :=
  if slot.holds ticket then .settled (lookup.event? net) else slot

namespace Pump

variable {p p' : Pump} {move : Move} {tallies : List Tally}

theorem isPolling_iff (p : Pump) : p.isPolling = true ↔ p.stage = .pumping ∧ p.hand = none := by
  simp [isPolling]

theorem isDrained_iff (p : Pump) : p.isDrained = true ↔ p.stage = .ended ∧ p.channel = [] := by
  simp [isDrained]

/-- The pump makes the move to the state on the right, and these things are counted. -/
inductive Made (p : Pump) : Move → Pump → List Tally → Prop
  | accept (h : TxHash) (polling : p.isPolling) (more : p.sourceOver = false)
      (room : p.window.length < p.limits.concurrency) (below : p.received < p.limits.cap) :
      Made p (.pull (.hash h))
        { p with received := p.received + 1, window := p.window ++ [.looking p.received h] } []
  | refuse (h : TxHash) (polling : p.isPolling) (more : p.sourceOver = false)
      (room : p.window.length < p.limits.concurrency) (full : p.limits.cap ≤ p.received) :
      Made p (.pull (.hash h))
        { p with dropped := p.dropped + 1, window := p.window ++ [.settled none] } [.droppedByCap]
  | fault (e : GatewayError) (polling : p.isPolling) (more : p.sourceOver = false)
      (room : p.window.length < p.limits.concurrency) :
      Made p (.pull (.fault e)) { p with window := p.window ++ [.settled (some (p.faultEvent e))] }
        [.streamFailed]
  | settle (ticket : Nat) (lookup : Lookup) (polling : p.isPolling)
      (held : p.window.any (·.holds ticket)) :
      Made p (.settle ticket lookup)
        { p with window := p.window.map (.settle p.network ticket lookup) } [lookup.tally]
  | take (event : Option Event) (rest : List Slot) (polling : p.isPolling)
      (oldest : p.window = .settled event :: rest) :
      Made p .take { p with window := rest, hand := event } []
  | send (event : Event) (held : p.hand = some event) (running : p.stage ≠ .ended)
      (room : p.channel.length < p.limits.capacity) :
      Made p .send
        { p with
          stage := if p.stage = .closing then .ended else p.stage
          hand := none
          channel := p.channel ++ [event] } []
  | endSource (polling : p.isPolling) (room : p.window.length < p.limits.concurrency) :
      Made p .endSource { p with sourceOver := true } []
  | close (polling : p.isPolling) (finished : p.sourceOver) (idle : p.window = []) :
      Made p .close { p with stage := .closing, hand := some (p.faultEvent sourceEnded) }
        [.streamFailed]
  | abandon (running : p.stage ≠ .ended) : Made p .abandon { p with stage := .ended, hand := none } []
  | receive (event : Event) (rest : List Event) (oldest : p.channel = event :: rest) :
      Made p .receive { p with channel := rest } []

theorem made_of_move? (h : p.move? move = some (p', tallies)) : Made p move p' tallies := by
  cases move with
  | pull item =>
    simp only [move?, Option.ite_none_right_eq_some, Option.some.injEq, Bool.not_eq_true'] at h
    obtain ⟨⟨hpoll, hmore, hroom⟩, h⟩ := h
    cases item with
    | hash hash =>
      by_cases hcap : p.received < p.limits.cap
      · simp only [pull, hcap, if_true, Prod.mk.injEq] at h
        obtain ⟨rfl, rfl⟩ := h
        exact .accept hash hpoll hmore hroom hcap
      · simp only [pull, hcap, if_false, Prod.mk.injEq] at h
        obtain ⟨rfl, rfl⟩ := h
        exact .refuse hash hpoll hmore hroom (Nat.le_of_not_lt hcap)
    | fault e =>
      simp only [pull, Prod.mk.injEq] at h
      obtain ⟨rfl, rfl⟩ := h
      exact .fault e hpoll hmore hroom
  | settle ticket lookup =>
    simp only [move?, Option.ite_none_right_eq_some, Option.some.injEq, Prod.mk.injEq] at h
    obtain ⟨⟨hpoll, hheld⟩, rfl, rfl⟩ := h
    exact .settle ticket lookup hpoll hheld
  | take =>
    simp only [move?] at h
    split at h
    · next event rest hwindow =>
      simp only [Option.ite_none_right_eq_some, Option.some.injEq, Prod.mk.injEq] at h
      obtain ⟨hpoll, rfl, rfl⟩ := h
      exact .take event rest hpoll hwindow
    · cases h
  | send =>
    simp only [move?] at h
    split at h
    · next event hhand =>
      simp only [Option.ite_none_right_eq_some, Option.some.injEq, Prod.mk.injEq] at h
      obtain ⟨⟨hrunning, hroom⟩, rfl, rfl⟩ := h
      exact .send event hhand hrunning hroom
    · cases h
  | endSource =>
    simp only [move?, Option.ite_none_right_eq_some, Option.some.injEq, Prod.mk.injEq] at h
    obtain ⟨⟨hpoll, hroom⟩, rfl, rfl⟩ := h
    exact .endSource hpoll hroom
  | close =>
    simp only [move?, Option.ite_none_right_eq_some, Option.some.injEq, Prod.mk.injEq] at h
    obtain ⟨⟨hpoll, hover, hidle⟩, rfl, rfl⟩ := h
    exact .close hpoll hover hidle
  | abandon =>
    simp only [move?, Option.ite_none_right_eq_some, Option.some.injEq, Prod.mk.injEq] at h
    obtain ⟨hrunning, rfl, rfl⟩ := h
    exact .abandon hrunning
  | receive =>
    simp only [move?] at h
    split at h
    · next event rest hchannel =>
      simp only [Option.some.injEq, Prod.mk.injEq] at h
      obtain ⟨rfl, rfl⟩ := h
      exact .receive event rest hchannel
    · cases h

theorem Made.move? (h : Made p move p' tallies) : p.move? move = some (p', tallies) := by
  cases h with
  | accept h polling more room below => simp [Pump.move?, pull, polling, more, room, below]
  | refuse h polling more room full =>
    simp [Pump.move?, pull, polling, more, room, Nat.not_lt.mpr full]
  | fault e polling more room => simp [Pump.move?, pull, polling, more, room]
  | settle ticket lookup polling held =>
    simp only [Pump.move?, polling, held, and_self, if_true]
    rfl
  | take event rest polling oldest => simp [Pump.move?, oldest, polling]
  | send event held running room => simp [Pump.move?, held, running, room]
  | endSource polling room => simp [Pump.move?, polling, room]
  | close polling finished idle => simp [Pump.move?, polling, finished, idle]
  | abandon running => simp [Pump.move?, running]
  | receive event rest oldest => simp [Pump.move?, oldest]

/-- An item that is pulled takes one place in the window, whatever comes of it. -/
theorem Made.exists_slot {item : Item} (h : Made p (.pull item) p' tallies) :
    ∃ slot, p'.window = p.window ++ [slot] ∧ p'.channel = p.channel ∧ p'.hand = p.hand ∧
      p'.stage = p.stage ∧ p'.sourceOver = p.sourceOver := by
  cases h <;> exact ⟨_, rfl, rfl, rfl, rfl, rfl⟩

theorem Made.fixed (h : Made p move p' tallies) : p'.network = p.network ∧ p'.limits = p.limits := by
  cases h <;> exact ⟨rfl, rfl⟩

theorem Made.sessions (h : Made p move p' tallies) (t : Telemetry) :
    (t.recordAll tallies).sessionsOpened = t.sessionsOpened ∧
      (t.recordAll tallies).sessionsClosed = t.sessionsClosed := by
  cases h with
  | settle ticket lookup =>
    cases lookup with
    | missing => exact ⟨rfl, rfl⟩
    | found tx seenAt =>
      simp only [Lookup.tally, Telemetry.recordAll, List.foldl_cons, List.foldl_nil, Telemetry.record]
      cases (Risk.classify tx).level <;> exact ⟨rfl, rfl⟩
  | _ => exact ⟨rfl, rfl⟩

end Pump

end MempoolGate.Feed
