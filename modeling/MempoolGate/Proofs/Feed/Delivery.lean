import MempoolGate.Proofs.Feed.Pump

namespace MempoolGate.Feed

/-- What a feed is opened with and what its node will answer: the items that its source brings, and how
the look-up of each accepted notification turns out. -/
structure Subscription where
  network : Network
  limits : Limits
  sessionId : Uuid
  endpointIndex : UInt64
  source : List Item
  lookup : Nat → Lookup

/-- A feed with the items that its source has still to bring and the events that its client has. -/
structure Delivery where
  sub : Subscription
  pump : Pump
  coming : List Item
  got : List Event

namespace Delivery

def start (sub : Subscription) : Delivery :=
  { sub := sub
    pump := .start sub.network sub.limits sub.sessionId sub.endpointIndex
    coming := sub.source
    got := [] }

def allows (d : Delivery) : Move → Bool
  | .pull item => d.coming.head? = some item
  | .settle ticket lookup => lookup = d.sub.lookup ticket
  | .endSource => d.coming.isEmpty && !d.pump.sourceOver
  | _ => true

def after (d : Delivery) (move : Move) (pump : Pump) : Delivery :=
  { d with
    pump := pump
    coming := match move with
      | .pull _ => d.coming.tail
      | _ => d.coming
    got := match move with
      | .receive => d.got ++ d.pump.channel.head?.toList
      | _ => d.got }

def step? (d : Delivery) (move : Move) : Option (Delivery × List Tally) :=
  if d.allows move then (d.pump.move? move).map fun (pump, tallies) => (d.after move pump, tallies)
  else none

def run? (d : Delivery) : List Move → Option Delivery
  | [] => some d
  | move :: moves => (d.step? move).bind fun (d, _) => d.run? moves

variable {d d' : Delivery} {move : Move} {tallies : List Tally}

theorem step?_eq_some_iff : d.step? move = some (d', tallies) ↔
    d.allows move ∧ ∃ pump, Pump.Made d.pump move pump tallies ∧ d' = d.after move pump := by
  constructor
  · intro h
    simp only [step?, Option.ite_none_right_eq_some, Option.map_eq_some_iff, Prod.mk.injEq] at h
    obtain ⟨hallows, ⟨pump, counted⟩, hmove, rfl, rfl⟩ := h
    exact ⟨hallows, pump, Pump.made_of_move? hmove, rfl⟩
  · rintro ⟨hallows, pump, hmade, rfl⟩
    simp only [step?, hallows, if_true, hmade.move?, Option.map_some]

/-- The pump belongs to the feed; its source is over only after the last item, it closes the feed with an
event, and once it has ended it has none left. -/
structure Sound (d : Delivery) : Prop where
  network : d.pump.network = d.sub.network
  limits : d.pump.limits = d.sub.limits
  coming : d.pump.sourceOver = true → d.coming = []
  closing : d.pump.stage = .closing → d.pump.hand ≠ none
  ended : d.pump.stage = .ended → d.pump.hand = none

theorem coming_of_allows_pull {item : Item} (h : d.allows (.pull item)) :
    ∃ rest, d.coming = item :: rest := by
  have hhead : d.coming.head? = some item := of_decide_eq_true h
  exact List.head?_eq_some_iff.mp hhead

theorem run?_induction {P : Delivery → Prop} {moves : List Move}
    (hstep : ∀ d move d' tallies, move ∈ moves → P d → d.step? move = some (d', tallies) → P d')
    (hrun : d.run? moves = some d') (hd : P d) : P d' := by
  induction moves generalizing d with
  | nil =>
    cases hrun
    exact hd
  | cons move moves ih =>
    obtain ⟨⟨next, tallies⟩, hmove, hrest⟩ := Option.bind_eq_some_iff.mp hrun
    have hnext := hstep d move next tallies List.mem_cons_self hd hmove
    refine ih (fun d move d' tallies hmem => ?_) hrest hnext
    exact hstep d move d' tallies (List.mem_cons_of_mem _ hmem)

theorem run?_sub {moves : List Move} (hrun : d.run? moves = some d') : d'.sub = d.sub := by
  refine run?_induction (P := fun d' => d'.sub = d.sub) ?_ hrun rfl
  intro e move e' tallies _ he hstep
  obtain ⟨-, pump, -, rfl⟩ := step?_eq_some_iff.mp hstep
  exact he

theorem Sound.start (sub : Subscription) : (start sub).Sound :=
  ⟨rfl, rfl, nofun, nofun, nofun⟩

theorem Sound.step (hd : d.Sound) (hstep : d.step? move = some (d', tallies)) : d'.Sound := by
  obtain ⟨hallows, pump, hmade, rfl⟩ := step?_eq_some_iff.mp hstep
  refine ⟨hmade.fixed.1.trans hd.network, hmade.fixed.2.trans hd.limits, ?_, ?_, ?_⟩
  · intro hover
    cases hmade with
    | accept h polling more => cases more.symm.trans hover
    | refuse h polling more => cases more.symm.trans hover
    | fault e polling more => cases more.symm.trans hover
    | endSource =>
      simp only [allows, Bool.and_eq_true, List.isEmpty_iff] at hallows
      exact hallows.1
    | _ => exact hd.coming hover
  · intro hclosing
    cases hmade with
    | close => exact nofun
    | take event rest polling =>
      obtain ⟨hstage, -⟩ := d.pump.isPolling_iff.mp polling
      cases hstage.symm.trans hclosing
    | send event held running room =>
      simp only [after] at hclosing
      split at hclosing
      · cases hclosing
      · contradiction
    | abandon => cases hclosing
    | _ => exact hd.closing hclosing
  · intro hended
    cases hmade with
    | take event rest polling =>
      obtain ⟨hstage, -⟩ := d.pump.isPolling_iff.mp polling
      cases hstage.symm.trans hended
    | close => cases hended
    | send => rfl
    | abandon => rfl
    | _ => exact hd.ended hended

theorem Sound.run? {moves : List Move} (hrun : d.run? moves = some d') (hd : d.Sound) : d'.Sound :=
  run?_induction (fun _ _ _ _ _ hd hstep => hd.step hstep) hrun hd

end Delivery

structure Fleet where
  feeds : List Delivery := []
  telemetry : Telemetry := {}

inductive Act
  | subscribe (sub : Subscription)
  | move (feed : Nat) (move : Move)

namespace Act

def subscription? : Act → Option Subscription
  | subscribe sub => some sub
  | move .. => none

def moveOf? (feed : Nat) : Act → Option Move
  | subscribe _ => none
  | move other m => if other = feed then some m else none

end Act

def movesOf (feed : Nat) (acts : List Act) : List Move :=
  acts.filterMap (Act.moveOf? feed)

theorem movesOf_cons_self (feed : Nat) (move : Move) (acts : List Act) :
    movesOf feed (.move feed move :: acts) = move :: movesOf feed acts := by
  simp [movesOf, Act.moveOf?]

theorem movesOf_cons_of_ne {feed other : Nat} (h : other ≠ feed) (move : Move) (acts : List Act) :
    movesOf feed (.move other move :: acts) = movesOf feed acts := by
  simp [movesOf, Act.moveOf?, h]

namespace Fleet

def act? (f : Fleet) : Act → Option Fleet
  | .subscribe sub => some ⟨f.feeds ++ [.start sub], f.telemetry.record .sessionOpened⟩
  | .move feed move =>
    (f.feeds[feed]?).bind fun d =>
      (d.step? move).map fun (d, tallies) =>
        ⟨f.feeds.set feed d, f.telemetry.recordAll tallies⟩

def run? (f : Fleet) : List Act → Option Fleet
  | [] => some f
  | act :: acts => (f.act? act).bind (·.run? acts)

variable {f f' : Fleet} {d : Delivery} {feed : Nat} {acts : List Act}

theorem act?_move_eq_some_iff {move : Move} : f.act? (.move feed move) = some f' ↔
    ∃ d d' tallies, f.feeds[feed]? = some d ∧ d.step? move = some (d', tallies) ∧
      f' = ⟨f.feeds.set feed d', f.telemetry.recordAll tallies⟩ := by
  simp only [act?, Option.bind_eq_some_iff, Option.map_eq_some_iff, Prod.exists]
  constructor
  · rintro ⟨d, hd, d', tallies, hstep, rfl⟩
    exact ⟨d, d', tallies, hd, hstep, rfl⟩
  · rintro ⟨d, d', tallies, hd, hstep, rfl⟩
    exact ⟨d, hd, d', tallies, hstep, rfl⟩

theorem feeds_run?_of_some (hrun : f.run? acts = some f') (hd : f.feeds[feed]? = some d) :
    ∃ d', f'.feeds[feed]? = some d' ∧ d.run? (movesOf feed acts) = some d' := by
  induction acts generalizing f d with
  | nil =>
    cases hrun
    exact ⟨d, hd, rfl⟩
  | cons act acts ih =>
    obtain ⟨next, hact, hrest⟩ := Option.bind_eq_some_iff.mp hrun
    obtain ⟨hlt, -⟩ := List.getElem?_eq_some_iff.mp hd
    cases act with
    | subscribe sub =>
      cases hact
      exact ih hrest ((List.getElem?_append_left hlt).trans hd)
    | move other move =>
      obtain ⟨e, e', tallies, he, hstep, rfl⟩ := act?_move_eq_some_iff.mp hact
      by_cases ho : other = feed
      · subst other
        cases hd.symm.trans he
        obtain ⟨d', hd', hmoves⟩ := ih hrest (List.getElem?_set_self hlt)
        refine ⟨d', hd', ?_⟩
        rw [movesOf_cons_self]
        exact Option.bind_eq_some_iff.mpr ⟨(e', tallies), hstep, hmoves⟩
      · obtain ⟨d', hd', hmoves⟩ := ih hrest ((List.getElem?_set_ne ho).trans hd)
        refine ⟨d', hd', ?_⟩
        rw [movesOf_cons_of_ne ho]
        exact hmoves

theorem feeds_run?_of_subscription {sub : Subscription} {k : Nat} (hrun : f.run? acts = some f')
    (hk : feed = f.feeds.length + k)
    (hsub : (acts.filterMap Act.subscription?)[k]? = some sub) :
    ∃ d, f'.feeds[feed]? = some d ∧ (Delivery.start sub).run? (movesOf feed acts) = some d := by
  induction acts generalizing f k with
  | nil => cases hsub
  | cons act acts ih =>
    obtain ⟨next, hact, hrest⟩ := Option.bind_eq_some_iff.mp hrun
    cases act with
    | subscribe first =>
      cases hact
      change (first :: acts.filterMap Act.subscription?)[k]? = some sub at hsub
      cases k with
      | zero =>
        cases hsub
        have hfeed : (f.feeds ++ [Delivery.start sub])[feed]? = some (.start sub) := by
          rw [hk, Nat.add_zero, List.getElem?_concat_length]
        obtain ⟨d, hd, hmoves⟩ := feeds_run?_of_some hrest hfeed
        exact ⟨d, hd, hmoves⟩
      | succ k =>
        refine ih hrest ?_ hsub
        rw [hk, List.length_append, List.length_singleton]
        omega
    | move other move =>
      obtain ⟨e, e', tallies, he, hstep, rfl⟩ := act?_move_eq_some_iff.mp hact
      obtain ⟨hlt, -⟩ := List.getElem?_eq_some_iff.mp he
      -- The feed is not open yet, so that the move is one of another feed.
      have ho : other ≠ feed := by omega
      rw [movesOf_cons_of_ne ho]
      refine ih hrest ?_ hsub
      rw [List.length_set]
      exact hk

/-- The feeds are those that were subscribed to, each after its own moves. -/
theorem feeds_run? {sub : Subscription} (hrun : ({} : Fleet).run? acts = some f)
    (hsub : (acts.filterMap Act.subscription?)[feed]? = some sub) :
    ∃ d, f.feeds[feed]? = some d ∧ (Delivery.start sub).run? (movesOf feed acts) = some d :=
  feeds_run?_of_subscription hrun (Nat.zero_add feed).symm hsub

end Fleet

end MempoolGate.Feed
