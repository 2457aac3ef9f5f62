import MempoolGate.Proofs.Feed.Order
import MempoolGate.Proofs.List
import Mathlib.Data.List.Count

namespace MempoolGate

def Event.isTx : Event → Bool
  | tx _ => true
  | connected .. | failure .. => false

def Tally.isEmitted : Tally → Bool
  | emitted _ => true
  | _ => false

namespace Telemetry

def LevelsBalance (t : Telemetry) : Prop :=
  t.txEmitted = t.levelLow + t.levelMedium + t.levelHigh + t.levelCritical

theorem LevelsBalance.record {t : Telemetry} (ht : t.LevelsBalance) (tally : Tally) :
    (t.record tally).LevelsBalance := by
  unfold LevelsBalance at ht
  cases tally with
  | emitted level =>
    cases level <;>
    · simp only [LevelsBalance, Telemetry.record, countLevel]
      rw [ht]
      ac_rfl
  | rejected kind => cases kind <;> exact ht
  | _ => exact ht

theorem LevelsBalance.recordAll {t : Telemetry} (ht : t.LevelsBalance) (tallies : List Tally) :
    (t.recordAll tallies).LevelsBalance := by
  induction tallies generalizing t with
  | nil => exact ht
  | cons tally tallies ih => exact ih (ht.record tally)

/-- A word that goes up by one with some tallies and stays with all others counts them. -/
theorem recordAll_eq_add {word : Telemetry → UInt64} {counts : Tally → Bool}
    (h : ∀ t tally, word (t.record tally) = word t + if counts tally then 1 else 0)
    (t : Telemetry) (tallies : List Tally) :
    word (t.recordAll tallies) = word t + UInt64.ofNat (tallies.countP counts) := by
  induction tallies generalizing t with
  | nil => exact (UInt64.add_zero _).symm
  | cons tally tallies ih =>
    have hcount : UInt64.ofNat ((tally :: tallies).countP counts) =
        (if counts tally then 1 else 0) + UInt64.ofNat (tallies.countP counts) := by
      rw [List.countP_cons, Nat.add_comm, UInt64.ofNat_add]
      split <;> rfl
    rw [hcount, ← UInt64.add_assoc, ← h]
    exact ih (t.record tally)

theorem record_words (t : Telemetry) (tally : Tally) :
    (t.record tally).txEmitted = t.txEmitted + (if tally.isEmitted then 1 else 0) ∧
      (t.record tally).resolutionMisses = t.resolutionMisses + (if tally == .missed then 1 else 0) ∧
      (t.record tally).txDroppedByCap =
        t.txDroppedByCap + if tally == .droppedByCap then 1 else 0 := by
  cases tally with
  | emitted level => cases level <;> simp [Telemetry.record, countLevel, Tally.isEmitted]
  | rejected kind => cases kind <;> simp [Telemetry.record, countRejection, Tally.isEmitted]
  | _ => simp [Telemetry.record, Tally.isEmitted]

theorem txEmitted_recordAll (t : Telemetry) (tallies : List Tally) :
    (t.recordAll tallies).txEmitted =
      t.txEmitted + UInt64.ofNat (tallies.countP Tally.isEmitted) :=
  recordAll_eq_add (fun t tally => (t.record_words tally).1) t tallies

theorem resolutionMisses_recordAll (t : Telemetry) (tallies : List Tally) :
    (t.recordAll tallies).resolutionMisses =
      t.resolutionMisses + UInt64.ofNat (tallies.count .missed) :=
  recordAll_eq_add (fun t tally => (t.record_words tally).2.1) t tallies

theorem txDroppedByCap_recordAll (t : Telemetry) (tallies : List Tally) :
    (t.recordAll tallies).txDroppedByCap =
      t.txDroppedByCap + UInt64.ofNat (tallies.count .droppedByCap) :=
  recordAll_eq_add (fun t tally => (t.record_words tally).2.2) t tallies

end Telemetry

namespace Feed

def Slot.ticket? : Slot → Option Nat
  | looking ticket _ => some ticket
  | settled _ => none

def Slot.event? : Slot → Option Event
  | looking .. => none
  | settled event => event

def Move.isNotification : Move → Bool
  | pull (.hash _) => true
  | _ => false

namespace Pump

def looking (p : Pump) : List Nat :=
  p.window.filterMap Slot.ticket?

def pending (p : Pump) : List Event :=
  p.hand.toList ++ p.window.filterMap Slot.event?

/-- No two look-ups have the same ticket, and the next one gets a new one. -/
structure Ticketed (p : Pump) : Prop where
  nodup : p.looking.Nodup
  lt : ∀ ticket ∈ p.looking, ticket < p.received

variable {p p' : Pump} {move : Move} {tallies : List Tally}

theorem window_settle (hp : p.Ticketed) {ticket : Nat} (held : p.window.any (·.holds ticket))
    (lookup : Lookup) :
    ∃ before h after, p.window = before ++ .looking ticket h :: after ∧
      p.window.map (.settle p.network ticket lookup) =
        before ++ .settled (lookup.event? p.network) :: after := by
  obtain ⟨slot, hslot, hholds⟩ := List.any_eq_true.mp held
  cases slot with
  | settled event => cases hholds
  | looking other h =>
    obtain rfl : other = ticket := of_decide_eq_true hholds
    obtain ⟨before, after, hwindow⟩ := List.append_of_mem hslot
    have hnodup := hp.nodup
    simp only [looking, hwindow, List.filterMap_append, List.filterMap_cons, Slot.ticket?] at hnodup
    have hnot := (List.nodup_cons.mp (List.nodup_middle.mp hnodup)).1
    -- no other slot waits for this ticket
    have hother : ∀ slot ∈ before ++ after, slot.settle p.network other lookup = slot := by
      intro slot hmem
      refine if_neg fun hholds => ?_
      cases slot with
      | settled event => cases hholds
      | looking ticket h =>
        obtain rfl : ticket = other := of_decide_eq_true hholds
        rw [← List.filterMap_append] at hnot
        exact hnot (List.mem_filterMap.mpr ⟨_, hmem, rfl⟩)
    have hmap : ∀ l : List Slot, (∀ slot ∈ l, slot ∈ before ++ after) →
        l.map (.settle p.network other lookup) = l := by
      intro l hl
      exact (List.map_congr_left fun slot hmem => hother slot (hl slot hmem)).trans l.map_id'
    refine ⟨before, h, after, hwindow, ?_⟩
    rw [hwindow, List.map_append, List.map_cons,
      hmap before fun slot hmem => List.mem_append_left _ hmem,
      hmap after fun slot hmem => List.mem_append_right _ hmem]
    simp [Slot.settle, Slot.holds]

theorem Ticketed.made (hp : p.Ticketed) (h : Made p move p' tallies) : p'.Ticketed := by
  obtain ⟨hnodup, hlt⟩ := hp
  cases h with
  | accept h =>
    have hlooking : (p.window ++ [Slot.looking p.received h]).filterMap Slot.ticket? =
        p.looking ++ [p.received] := by simp [looking, Slot.ticket?]
    refine ⟨?_, fun ticket hmem => ?_⟩
    · rw [looking, hlooking, List.nodup_append]
      refine ⟨hnodup, List.nodup_singleton _, fun a ha b hb he => ?_⟩
      rw [he, List.mem_singleton.mp hb] at ha
      exact Nat.lt_irrefl _ (hlt _ ha)
    · rw [looking, hlooking] at hmem
      rcases List.mem_append.mp hmem with hmem | hmem
      · exact Nat.lt_succ_of_lt (hlt ticket hmem)
      · rw [List.mem_singleton.mp hmem]
        exact Nat.lt_succ_self _
  | refuse | fault =>
    have hlooking : ∀ event, (p.window ++ [Slot.settled event]).filterMap Slot.ticket? = p.looking := by
      simp [looking, Slot.ticket?]
    refine ⟨?_, ?_⟩
    all_goals
      rw [looking, hlooking]
      assumption
  | settle ticket lookup polling held =>
    obtain ⟨before, h, after, hwindow, hmap⟩ := window_settle ⟨hnodup, hlt⟩ held lookup
    rw [looking, hwindow] at hnodup hlt
    simp only [List.filterMap_append, List.filterMap_cons, Slot.ticket?] at hnodup hlt
    refine ⟨?_, ?_⟩
    · simp only [looking, hmap, List.filterMap_append, List.filterMap_cons, Slot.ticket?]
      exact (List.nodup_cons.mp (List.nodup_middle.mp hnodup)).2
    · intro other hmem
      simp only [looking, hmap, List.filterMap_append, List.filterMap_cons, Slot.ticket?] at hmem
      exact hlt other (List.perm_middle.mem_iff.mpr (List.mem_cons_of_mem _ hmem))
  | take event rest polling oldest =>
    rw [looking, oldest] at hnodup hlt
    exact ⟨hnodup, hlt⟩
  | send | endSource | close | abandon | receive => exact ⟨hnodup, hlt⟩

theorem Made.received (hp : p.Ticketed) (h : Made p move p' tallies) :
    p'.received + p.looking.length =
      p.received + p'.looking.length + (tallies.countP Tally.isEmitted + tallies.count .missed) := by
  cases h with
  | accept h =>
    simp only [looking, List.filterMap_append, List.length_append]
    change p.received + 1 + _ = p.received + (_ + 1)
    omega
  | refuse | fault =>
    simp only [looking, List.filterMap_append, List.length_append]
    rfl
  | settle ticket lookup polling held =>
    obtain ⟨before, h, after, hwindow, hmap⟩ := window_settle hp held lookup
    rw [looking, looking, hmap, hwindow]
    simp only [List.filterMap_append, List.filterMap_cons, Slot.ticket?, List.length_append,
      List.length_cons]
    have hcounted : [lookup.tally].countP Tally.isEmitted + [lookup.tally].count .missed = 1 := by
      cases lookup <;> rfl
    omega
  | take event rest polling oldest =>
    simp only [looking, oldest]
    rfl
  | send | endSource | close | abandon | receive => rfl

/-- What is found is counted as emitted, and goes on to the channel unless the feed is given up. -/
theorem Made.pending (hp : p.Ticketed) (h : Made p move p' tallies) (hmove : move ≠ .abandon) :
    (p'.channel ++ p'.pending).countP Event.isTx +
        (if move = .receive then p.channel.head?.toList.countP Event.isTx else 0) =
      (p.channel ++ p.pending).countP Event.isTx + tallies.countP Tally.isEmitted := by
  cases h with
  | accept | refuse => simp [Pump.pending, Slot.event?, Tally.isEmitted]
  | fault e => simp [Pump.pending, Slot.event?, faultEvent, Event.isTx, Tally.isEmitted]
  | settle ticket lookup polling held =>
    obtain ⟨before, h, after, hwindow, hmap⟩ := window_settle hp held lookup
    rw [Pump.pending, Pump.pending, hmap, hwindow]
    simp only [List.filterMap_append, List.filterMap_cons, Slot.event?]
    cases lookup with
    | missing => simp [Lookup.event?, Lookup.tally, Tally.isEmitted]
    | found tx seenAt =>
      simp only [Lookup.event?, Lookup.tally, List.countP_append, List.countP_cons, Event.isTx,
        Tally.isEmitted]
      simp
      omega
  | take event rest polling oldest =>
    obtain ⟨-, hhand⟩ := p.isPolling_iff.mp polling
    cases event <;> simp [Pump.pending, oldest, hhand, Slot.event?, List.filterMap_cons]
  | send event held => simp [Pump.pending, held]
  | endSource => simp [Pump.pending]
  | close polling finished idle =>
    obtain ⟨-, hhand⟩ := p.isPolling_iff.mp polling
    simp [Pump.pending, hhand, idle, faultEvent, Event.isTx, Tally.isEmitted]
  | abandon => exact absurd rfl hmove
  | receive event rest oldest =>
    simp only [Pump.pending, oldest, List.head?_cons, Option.toList_some, List.countP_append,
      List.countP_cons, List.countP_nil, if_true]
    omega

/-- The cap is what a notification is refused for. -/
structure Capped (p : Pump) : Prop where
  received_le : p.received ≤ p.limits.cap
  full : 0 < p.dropped → p.received = p.limits.cap

theorem Capped.made (hp : p.Capped) (h : Made p move p' tallies) : p'.Capped := by
  obtain ⟨hle, hfull⟩ := hp
  cases h with
  | accept h polling more room below =>
    refine ⟨below, fun hdropped => ?_⟩
    rw [hfull hdropped] at below
    exact absurd below (Nat.lt_irrefl _)
  | refuse h polling more room full => exact ⟨hle, fun _ => Nat.le_antisymm hle full⟩
  | _ => exact ⟨hle, hfull⟩

theorem Made.pulled (h : Made p move p' tallies) :
    p'.received + p'.dropped = p.received + p.dropped + [move].countP Move.isNotification ∧
      p.received ≤ p'.received := by
  cases h with
  | accept =>
    simp only [List.countP_singleton, Move.isNotification, if_true]
    omega
  | refuse =>
    simp only [List.countP_singleton, Move.isNotification, if_true]
    omega
  | _ => exact ⟨rfl, Nat.le_refl _⟩

theorem Made.dropped (h : Made p move p' tallies) :
    p'.dropped = p.dropped + tallies.count .droppedByCap := by
  cases h with
  | settle ticket lookup => cases lookup <;> rfl
  | _ => rfl

/-- The pump has seen its source end: nothing is looked up, and no transaction waits for room. -/
structure Through (p : Pump) : Prop where
  stage : p.stage ≠ .pumping
  looking : p.looking = []
  pending : p.pending.countP Event.isTx = 0

theorem Through.of_close (h : Made p .close p' tallies) : p'.Through := by
  cases h with
  | close polling finished idle =>
    refine ⟨nofun, ?_, ?_⟩
    · simp [Pump.looking, idle]
    · simp [Pump.pending, idle, faultEvent, Event.isTx]

theorem Through.made (hp : p.Through) (h : Made p move p' tallies) : p'.Through := by
  obtain ⟨hstage, hlooking, hpending⟩ := hp
  cases h with
  | accept _ polling | refuse _ polling | fault _ polling | settle _ _ polling | take _ _ polling
  | endSource polling | close polling => exact absurd (p.isPolling_iff.mp polling).1 hstage
  | send event held running room =>
    refine ⟨?_, hlooking, ?_⟩
    · simp only [ne_eq]
      split
      · exact nofun
      · exact hstage
    · simp only [Pump.pending, held, List.countP_append, Option.toList_some, Option.toList_none,
        List.countP_nil] at hpending ⊢
      omega
  | abandon =>
    refine ⟨nofun, hlooking, ?_⟩
    simp only [Pump.pending, List.countP_append, Option.toList_none, List.countP_nil] at hpending ⊢
    omega
  | receive => exact ⟨hstage, hlooking, hpending⟩

theorem Made.ended (h : Made p move p' tallies) (hp : p.stage = .ended) :
    p'.stage = .ended ∧ move ≠ .close := by
  cases h with
  | accept _ polling | refuse _ polling | fault _ polling | settle _ _ polling | take _ _ polling
  | endSource polling | close polling => cases hp.symm.trans (p.isPolling_iff.mp polling).1
  | send event held running => exact absurd hp running
  | abandon => exact ⟨rfl, nofun⟩
  | receive => exact ⟨hp, nofun⟩

end Pump

namespace Delivery

def inFlight (d : Delivery) : Nat :=
  if d.pump.stage = .ended then 0 else d.pump.looking.length

/-- The look-ups that were under way when the feed was given up. -/
def abandoned (d : Delivery) : Nat :=
  if d.pump.stage = .ended then d.pump.looking.length else 0

def placed (d : Delivery) : Nat :=
  (d.got ++ d.pump.channel).countP Event.isTx

def owed (d : Delivery) : Nat :=
  d.placed + d.pump.pending.countP Event.isTx

variable {d d' : Delivery} {move : Move} {tallies : List Tally} {moves : List Move}

theorem inFlight_add_abandoned (d : Delivery) : d.inFlight + d.abandoned = d.pump.looking.length := by
  by_cases h : d.pump.stage = .ended <;> simp [inFlight, abandoned, h]

@[simp]
theorem after_pump (d : Delivery) (move : Move) (pump : Pump) : (d.after move pump).pump = pump :=
  rfl

theorem placed_le_owed (d : Delivery) : d.placed ≤ d.owed :=
  Nat.le_add_right _ _

theorem ticketed_start (sub : Subscription) : (start sub).pump.Ticketed :=
  ⟨List.nodup_nil, nofun⟩

theorem capped_start (sub : Subscription) : (start sub).pump.Capped :=
  ⟨Nat.zero_le _, nofun⟩

theorem owed_step_eq (hd : d.pump.Ticketed) (hstep : d.step? move = some (d', tallies))
    (hmove : move = .abandon → d.pump.Through) :
    d'.owed = d.owed + tallies.countP Tally.isEmitted := by
  obtain ⟨-, pump, hmade, rfl⟩ := step?_eq_some_iff.mp hstep
  by_cases habandon : move = .abandon
  · subst move
    have hbefore := (hmove rfl).pending
    have hafter := ((hmove rfl).made hmade).pending
    cases hmade
    simp only [owed, placed, after, hbefore, hafter]
    rfl
  · have hpending := hmade.pending hd habandon
    by_cases hreceive : move = .receive
    · subst move
      simp only [owed, placed, after, List.countP_append, if_true] at hpending ⊢
      omega
    · have hgot : (d.after move pump).got = d.got := by cases move <;> first | rfl | contradiction
      simp only [owed, placed, hgot, after_pump, List.countP_append, hreceive, if_false] at hpending ⊢
      omega

theorem owed_step_le (hd : d.pump.Ticketed) (hstep : d.step? move = some (d', tallies)) :
    d'.owed ≤ d.owed + tallies.countP Tally.isEmitted := by
  by_cases habandon : move = .abandon
  · subst move
    obtain ⟨-, pump, hmade, rfl⟩ := step?_eq_some_iff.mp hstep
    cases hmade
    simp only [owed, placed, after, Pump.pending, List.countP_append, Option.toList_none,
      List.countP_nil]
    omega
  · exact (owed_step_eq hd hstep fun h => absurd h habandon).le

theorem through_run (hrun : d.run? moves = some d') (hd : d.pump.Through ∨ .close ∈ moves) :
    d'.pump.Through := by
  induction moves generalizing d with
  | nil =>
    cases hrun
    exact hd.resolve_right List.not_mem_nil
  | cons move moves ih =>
    obtain ⟨⟨next, tallies⟩, hmove, hrest⟩ := Option.bind_eq_some_iff.mp hrun
    obtain ⟨-, pump, hmade, rfl⟩ := step?_eq_some_iff.mp hmove
    apply ih hrest
    rcases hd with hd | hd
    · exact .inl (hd.made hmade)
    · cases hd with
      | head => exact .inl (.of_close hmade)
      | tail _ hd => exact .inr hd

theorem not_close_of_ended (hrun : d.run? moves = some d') (hd : d.pump.stage = .ended) :
    .close ∉ moves := by
  induction moves generalizing d with
  | nil => exact List.not_mem_nil
  | cons move moves ih =>
    obtain ⟨⟨next, tallies⟩, hmove, hrest⟩ := Option.bind_eq_some_iff.mp hrun
    obtain ⟨-, pump, hmade, rfl⟩ := step?_eq_some_iff.mp hmove
    obtain ⟨hended, hclose⟩ := hmade.ended hd
    rw [List.mem_cons, not_or]
    exact ⟨hclose.symm, ih hrest hended⟩

theorem pulled_run (hrun : d.run? moves = some d') :
    d'.pump.received + d'.pump.dropped =
        d.pump.received + d.pump.dropped + moves.countP Move.isNotification ∧
      d.pump.received ≤ d'.pump.received := by
  induction moves generalizing d with
  | nil =>
    cases hrun
    exact ⟨rfl, Nat.le_refl _⟩
  | cons move moves ih =>
    obtain ⟨⟨next, tallies⟩, hmove, hrest⟩ := Option.bind_eq_some_iff.mp hrun
    obtain ⟨-, pump, hmade, rfl⟩ := step?_eq_some_iff.mp hmove
    obtain ⟨hpulled, hle⟩ := hmade.pulled
    obtain ⟨hrest, hrestLe⟩ := ih hrest
    rw [after_pump] at hrest hrestLe
    refine ⟨?_, hle.trans hrestLe⟩
    rw [hrest, hpulled, Nat.add_assoc, ← List.countP_append]
    rfl

end Delivery

namespace Fleet

variable {f f' : Fleet} {acts : List Act} {tallies : List Tally}

/-- What was counted agrees with the feeds. -/
structure Balanced (f : Fleet) (tallies : List Tally) : Prop where
  counted : f.telemetry = Telemetry.recordAll {} tallies
  ticketed : ∀ d ∈ f.feeds, d.pump.Ticketed
  capped : ∀ d ∈ f.feeds, d.pump.Capped
  received : (f.feeds.map (·.pump.received)).sum =
    tallies.countP Tally.isEmitted + tallies.count .missed +
      (f.feeds.map (·.pump.looking.length)).sum
  dropped : (f.feeds.map (·.pump.dropped)).sum = tallies.count .droppedByCap
  owed : (f.feeds.map Delivery.owed).sum ≤ tallies.countP Tally.isEmitted

theorem Balanced.empty : ({} : Fleet).Balanced [] :=
  ⟨rfl, fun _ h => absurd h List.not_mem_nil, fun _ h => absurd h List.not_mem_nil, rfl, rfl,
    Nat.le_refl 0⟩

theorem Balanced.subscribed (hf : f.Balanced tallies) (sub : Subscription) :
    Balanced ⟨f.feeds ++ [.start sub], f.telemetry.record .sessionOpened⟩
      (tallies ++ [.sessionOpened]) := by
  refine ⟨?_, ?_, ?_, ?_, ?_, ?_⟩
  · rw [hf.counted, Telemetry.recordAll, Telemetry.recordAll, List.foldl_concat]
  · rw [List.forall_mem_append, List.forall_mem_singleton]
    exact ⟨hf.ticketed, Delivery.ticketed_start sub⟩
  · rw [List.forall_mem_append, List.forall_mem_singleton]
    exact ⟨hf.capped, Delivery.capped_start sub⟩
  · rw [List.map_append, List.map_append, List.sum_append, List.sum_append, List.countP_append,
      List.count_append]
    exact hf.received
  · rw [List.map_append, List.sum_append, List.count_append]
    exact hf.dropped
  · rw [List.map_append, List.sum_append, List.countP_append]
    exact hf.owed

theorem Balanced.moved (hf : f.Balanced tallies) {feed : Nat} {d d' : Delivery} {move : Move}
    {more : List Tally} (hd : f.feeds[feed]? = some d) (hstep : d.step? move = some (d', more)) :
    Balanced ⟨f.feeds.set feed d', f.telemetry.recordAll more⟩ (tallies ++ more) := by
  have hticketed := hf.ticketed d (List.mem_of_getElem? hd)
  have hcapped := hf.capped d (List.mem_of_getElem? hd)
  obtain ⟨-, pump, hmade, hd'⟩ := Delivery.step?_eq_some_iff.mp hstep
  have hpump : d'.pump = pump := congrArg Delivery.pump hd'
  subst hpump
  refine ⟨?_, ?_, ?_, ?_, ?_, ?_⟩
  · rw [hf.counted, Telemetry.recordAll, Telemetry.recordAll, Telemetry.recordAll, List.foldl_append]
  · intro e he
    rcases List.mem_or_eq_of_mem_set he with he | rfl
    · exact hf.ticketed e he
    · exact hticketed.made hmade
  · intro e he
    rcases List.mem_or_eq_of_mem_set he with he | rfl
    · exact hf.capped e he
    · exact hcapped.made hmade
  · have hbefore := hf.received
    have hmoved := hmade.received hticketed
    have hreceived := sum_map_set (fun e : Delivery => e.pump.received) hd d'
    have hlooking := sum_map_set (fun e : Delivery => e.pump.looking.length) hd d'
    rw [List.countP_append, List.count_append]
    dsimp only
    omega
  · have hbefore := hf.dropped
    have hmoved := hmade.dropped
    have hdropped := sum_map_set (fun e : Delivery => e.pump.dropped) hd d'
    rw [List.count_append]
    dsimp only
    omega
  · have hbefore := hf.owed
    have hmoved := Delivery.owed_step_le hticketed hstep
    have howed := sum_map_set Delivery.owed hd d'
    rw [List.countP_append]
    dsimp only
    omega

/-- A feed has seen its source end, or sees it in these acts. -/
def SeesEnd (f : Fleet) (acts : List Act) (feed : Nat) : Prop :=
  (∃ d, f.feeds[feed]? = some d ∧ d.pump.Through) ∨ .close ∈ movesOf feed acts

/-- If every feed sees its source end, no transaction is lost between its look-up and the channel. -/
theorem Balanced.run (hf : f.Balanced tallies) (hrun : f.run? acts = some f') :
    ∃ more, f'.Balanced (tallies ++ more) ∧
      ((∀ feed < f'.feeds.length, f.SeesEnd acts feed) →
        (f'.feeds.map Delivery.owed).sum =
          (f.feeds.map Delivery.owed).sum + more.countP Tally.isEmitted) := by
  -- a feed that ends later in the run `SeesEnd` now, so that the condition goes along
  induction acts generalizing f tallies with
  | nil =>
    cases hrun
    exact ⟨[], by rwa [List.append_nil], fun _ => rfl⟩
  | cons act acts ih =>
    obtain ⟨next, hact, hrest⟩ := Option.bind_eq_some_iff.mp hrun
    cases act with
    | subscribe sub =>
      cases hact
      obtain ⟨more, hbalanced, howed⟩ := ih (hf.subscribed sub) hrest
      refine ⟨.sessionOpened :: more, ?_, fun hclose => ?_⟩
      · rwa [List.append_assoc] at hbalanced
      · have hnext := howed fun feed hfeed => (hclose feed hfeed).imp_left ?_
        · rw [List.map_append, List.sum_append] at hnext
          exact hnext
        · rintro ⟨d, hd, hthrough⟩
          obtain ⟨hlt, -⟩ := List.getElem?_eq_some_iff.mp hd
          exact ⟨d, (List.getElem?_append_left hlt).trans hd, hthrough⟩
    | move feed move =>
      obtain ⟨d, d', moved, hd, hstep, rfl⟩ := act?_move_eq_some_iff.mp hact
      obtain ⟨more, hbalanced, howed⟩ := ih (hf.moved hd hstep) hrest
      refine ⟨moved ++ more, ?_, fun hclose => ?_⟩
      · rwa [List.append_assoc] at hbalanced
      obtain ⟨-, pump, hmade, hd'⟩ := Delivery.step?_eq_some_iff.mp hstep
      have hpump : d'.pump = pump := congrArg Delivery.pump hd'
      subst hpump
      have hset : (f.feeds.set feed d')[feed]? = some d' :=
        List.getElem?_set_self (List.getElem?_eq_some_iff.mp hd).1
      obtain ⟨last, hlast, hmoves⟩ := feeds_run?_of_some hrest hset
      have hfeed := hclose feed (List.getElem?_eq_some_iff.mp hlast).1
      rw [SeesEnd, movesOf_cons_self, List.mem_cons] at hfeed
      have hthrough : move = .abandon → d.pump.Through := by
        rintro rfl
        rcases hfeed with ⟨e, he, hthrough⟩ | hmem
        · cases hd.symm.trans he
          exact hthrough
        · -- Once it is given up, a feed does not see its source end.
          have hended : d'.pump.stage = .ended := by
            generalize d'.pump = pump at hmade
            cases hmade
            rfl
          exact absurd (hmem.resolve_left nofun) (Delivery.not_close_of_ended hmoves hended)
      have hmoved :=
        Delivery.owed_step_eq (hf.ticketed d (List.mem_of_getElem? hd)) hstep hthrough
      have hsum := sum_map_set Delivery.owed hd d'
      have hnext := howed ?_
      · rw [List.countP_append]
        dsimp only at hnext
        omega
      · intro other hother
        by_cases ho : feed = other
        · subst other
          rcases hfeed with ⟨e, he, hthrough⟩ | rfl | hmem
          · cases hd.symm.trans he
            exact .inl ⟨d', hset, hthrough.made hmade⟩
          · exact .inl ⟨d', hset, .of_close hmade⟩
          · exact .inr hmem
        · have hfeed := hclose other hother
          rw [SeesEnd, movesOf_cons_of_ne ho] at hfeed
          refine hfeed.imp_left ?_
          rintro ⟨e, he, hthrough⟩
          exact ⟨e, (List.getElem?_set_ne ho).trans he, hthrough⟩

theorem subs_run (hrun : f.run? acts = some f') :
    f'.feeds.map Delivery.sub = f.feeds.map Delivery.sub ++ acts.filterMap Act.subscription? := by
  induction acts generalizing f with
  | nil =>
    cases hrun
    exact (List.append_nil _).symm
  | cons act acts ih =>
    obtain ⟨next, hact, hrest⟩ := Option.bind_eq_some_iff.mp hrun
    rw [ih hrest]
    cases act with
    | subscribe sub =>
      cases hact
      rw [List.map_append, List.append_assoc]
      rfl
    | move feed move =>
      obtain ⟨d, d', tallies, hd, hstep, rfl⟩ := act?_move_eq_some_iff.mp hact
      obtain ⟨-, pump, -, rfl⟩ := Delivery.step?_eq_some_iff.mp hstep
      obtain ⟨before, rest, hfeeds, -, hset⟩ := split_of_getElem? hd
      have hsubs : (f.feeds.set feed (d.after move pump)).map Delivery.sub = f.feeds.map Delivery.sub := by
        rw [hset, hfeeds, List.map_append, List.map_append]
        rfl
      rw [hsubs]
      rfl

theorem run?_of_feed {feed : Nat} {d : Delivery} (hrun : ({} : Fleet).run? acts = some f)
    (hd : f.feeds[feed]? = some d) : (Delivery.start d.sub).run? (movesOf feed acts) = some d := by
  have hsub : (acts.filterMap Act.subscription?)[feed]? = some d.sub := by
    have hsubs : f.feeds.map Delivery.sub = acts.filterMap Act.subscription? := subs_run hrun
    rw [← hsubs, List.getElem?_map, hd]
    rfl
  obtain ⟨e, he, hmoves⟩ := feeds_run? hrun hsub
  cases hd.symm.trans he
  exact hmoves

/-- Any number of feeds side by side, each given up at any moment or left to run. A feed accepts no more
notifications than its cap allows, forgets none, and refuses one only once the cap is reached. Over all
feeds, what was accepted was emitted, was a miss, is looked up or was when the feed was given up. What
was emitted is counted once for its level, and reaches the client's channel at most once; each time, if
every feed sees its source end. The counters tell all these numbers modulo 2^64. -/
theorem accounts_run (hrun : ({} : Fleet).run? acts = some f) :
    f.feeds.map Delivery.sub = acts.filterMap Act.subscription? ∧
      (∀ feed d, f.feeds[feed]? = some d →
        d.pump.received ≤ d.sub.limits.cap ∧
        (movesOf feed acts).countP Move.isNotification = d.pump.received + d.pump.dropped ∧
        (0 < d.pump.dropped → d.pump.received = d.sub.limits.cap) ∧
        ∀ more f', f.run? more = some f' →
          ∃ d', f'.feeds[feed]? = some d' ∧ d.pump.received ≤ d'.pump.received) ∧
      f.telemetry.txDroppedByCap = UInt64.ofNat (f.feeds.map (·.pump.dropped)).sum ∧
      f.telemetry.txEmitted = f.telemetry.levelLow + f.telemetry.levelMedium +
        f.telemetry.levelHigh + f.telemetry.levelCritical ∧
      ∃ emitted misses, f.telemetry.txEmitted = UInt64.ofNat emitted ∧
        f.telemetry.resolutionMisses = UInt64.ofNat misses ∧
        (f.feeds.map (·.pump.received)).sum = emitted + misses +
          (f.feeds.map Delivery.inFlight).sum + (f.feeds.map Delivery.abandoned).sum ∧
        (f.feeds.map Delivery.placed).sum ≤ emitted ∧
        ((∀ feed < f.feeds.length, .close ∈ movesOf feed acts) →
          (f.feeds.map Delivery.placed).sum = emitted) := by
  obtain ⟨tallies, hf, howed⟩ := Balanced.empty.run hrun
  rw [List.nil_append] at hf
  have hlevels : f.telemetry.LevelsBalance := by
    rw [hf.counted]
    have hnone : Telemetry.LevelsBalance {} := rfl
    exact hnone.recordAll tallies
  have hemitted : f.telemetry.txEmitted = UInt64.ofNat (tallies.countP Tally.isEmitted) := by
    rw [hf.counted, Telemetry.txEmitted_recordAll]
    exact UInt64.zero_add _
  have hmisses : f.telemetry.resolutionMisses = UInt64.ofNat (tallies.count .missed) := by
    rw [hf.counted, Telemetry.resolutionMisses_recordAll]
    exact UInt64.zero_add _
  have hplacedLe := List.sum_le_sum (l := f.feeds) fun d _ => d.placed_le_owed
  refine ⟨subs_run hrun, fun feed d hd => ?_, ?_, hlevels, _, _, hemitted, hmisses, ?_,
    hplacedLe.trans hf.owed, ?_⟩
  · have hmoves := run?_of_feed hrun hd
    have hlimits := (Delivery.Sound.run? hmoves (Delivery.Sound.start d.sub)).limits
    have hcapped := hf.capped d (List.mem_of_getElem? hd)
    obtain ⟨hpulled, -⟩ := Delivery.pulled_run hmoves
    refine ⟨hlimits ▸ hcapped.received_le, ?_, hlimits ▸ hcapped.full, fun more f' hmore => ?_⟩
    · rw [hpulled]
      exact (Nat.zero_add _).symm
    · obtain ⟨d', hd', hrest⟩ := feeds_run?_of_some hmore hd
      exact ⟨d', hd', (Delivery.pulled_run hrest).2⟩
  · rw [hf.dropped, hf.counted, Telemetry.txDroppedByCap_recordAll]
    exact UInt64.zero_add _
  · have hlooking : (f.feeds.map Delivery.inFlight).sum + (f.feeds.map Delivery.abandoned).sum =
        (f.feeds.map (·.pump.looking.length)).sum := by
      rw [← List.sum_map_add]
      simp only [Delivery.inFlight_add_abandoned]
    rw [Nat.add_assoc, hlooking]
    exact hf.received
  · intro hclose
    have hplaced : f.feeds.map Delivery.placed = f.feeds.map Delivery.owed := by
      apply List.map_congr_left
      intro d hmem
      obtain ⟨feed, hd⟩ := List.getElem?_of_mem hmem
      have hfeed := hclose feed (List.getElem?_eq_some_iff.mp hd).1
      have hthrough := Delivery.through_run (run?_of_feed hrun hd) (.inr hfeed)
      rw [Delivery.owed, hthrough.pending, Nat.add_zero]
    rw [hplaced, howed fun feed hfeed => .inr (hclose feed hfeed)]
    exact Nat.zero_add _

end Fleet

/-- One feed is given up while it looks up a transaction; the other reaches its cap. -/
def tornActs : List Act :=
  [.subscribe sampleSubscription, .subscribe sampleSubscription,
    .move 1 (.pull (.hash (.filled 32 1))), .move 0 (.pull (.hash (.filled 32 1))),
    .move 0 (.pull (.hash (.filled 32 2))), .move 0 (.settle 1 (sampleSubscription.lookup 1)),
    .move 1 .abandon, .move 0 (.settle 0 .missing), .move 0 .take,
    .move 0 (.pull (.fault { code := .wsSubscribeFailed, message := "late" })), .move 0 .take,
    .move 0 .receive, .move 0 .send, .move 0 (.pull (.hash (.filled 32 3)))]

theorem Fleet.accounts_run_tornActs :
    ∃ f, ({} : Fleet).run? tornActs = some f ∧ (f.feeds.map (·.pump.received)).sum = 3 ∧
      f.telemetry.txDroppedByCap = 1 ∧ f.telemetry.txEmitted = 1 ∧
      f.telemetry.resolutionMisses = 1 ∧ (f.feeds.map Delivery.abandoned).sum = 1 ∧
      (f.feeds.map Delivery.placed).sum ≤ 1 := by
  have hcounts : (({} : Fleet).run? tornActs).map (fun f =>
      ((f.feeds.map (·.pump.received)).sum, (f.feeds.map (·.pump.dropped)).sum,
        f.telemetry.txEmitted, (f.feeds.map Delivery.inFlight).sum,
        (f.feeds.map Delivery.abandoned).sum)) = some (3, 1, 1, 0, 1) := by decide +kernel
  obtain ⟨f, hrun, hf⟩ := Option.map_eq_some_iff.mp hcounts
  simp only [Prod.mk.injEq] at hf
  obtain ⟨hreceived, hdropped, hemitted, hflight, habandoned⟩ := hf
  obtain ⟨-, -, hdrops, -, emitted, misses, hword, hmisses, hsum, hplaced, -⟩ := accounts_run hrun
  have hfew : emitted < UInt64.size := by
    have hsize : UInt64.size = 2 ^ 64 := rfl
    omega
  have hone : emitted = 1 := by
    rw [← UInt64.toNat_ofNat_of_lt' hfew, ← hword, hemitted]
    rfl
  rw [hone] at hsum hplaced
  have hmissed : misses = 1 := by omega
  refine ⟨f, hrun, hreceived, ?_, hemitted, ?_, habandoned, hplaced⟩
  · rw [hdrops, hdropped]
    rfl
  · rw [hmisses, hmissed]
    rfl

end Feed

end MempoolGate
