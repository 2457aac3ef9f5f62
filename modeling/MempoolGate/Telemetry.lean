import MempoolGate.Risk.Level

namespace MempoolGate

inductive RejectionKind
  | keyRequired
  | invalidKey
  | accountInactive
  | limitReached
deriving DecidableEq, Repr

inductive Tally
  | sessionOpened
  | sessionClosed
  | sessionOpenFailed
  | emitted (level : RiskLevel)
  | droppedByCap
  | missed
  | streamFailed
  | accepted
  | rejected (kind : RejectionKind)
deriving DecidableEq, Repr

/-- Words that are read modulo 2^64. -/
structure Telemetry where
  sessionsOpened : UInt64 := 0
  sessionsClosed : UInt64 := 0
  sessionOpenFailures : UInt64 := 0
  txEmitted : UInt64 := 0
  txDroppedByCap : UInt64 := 0
  resolutionMisses : UInt64 := 0
  streamErrors : UInt64 := 0
  levelLow : UInt64 := 0
  levelMedium : UInt64 := 0
  levelHigh : UInt64 := 0
  levelCritical : UInt64 := 0
  validationsAccepted : UInt64 := 0
  rejectedKeyRequired : UInt64 := 0
  rejectedInvalidKey : UInt64 := 0
  rejectedAccountInactive : UInt64 := 0
  rejectedLimitReached : UInt64 := 0
deriving DecidableEq, Repr

namespace Telemetry

def countLevel (t : Telemetry) : RiskLevel → Telemetry
  | .low => { t with levelLow := t.levelLow + 1 }
  | .medium => { t with levelMedium := t.levelMedium + 1 }
  | .high => { t with levelHigh := t.levelHigh + 1 }
  | .critical => { t with levelCritical := t.levelCritical + 1 }

def countRejection (t : Telemetry) : RejectionKind → Telemetry
  | .keyRequired => { t with rejectedKeyRequired := t.rejectedKeyRequired + 1 }
  | .invalidKey => { t with rejectedInvalidKey := t.rejectedInvalidKey + 1 }
  | .accountInactive => { t with rejectedAccountInactive := t.rejectedAccountInactive + 1 }
  | .limitReached => { t with rejectedLimitReached := t.rejectedLimitReached + 1 }

/-- The counters after one thing more; an emitted transaction counts as such and for its level. -/
def record (t : Telemetry) : Tally → Telemetry
  | .sessionOpened => { t with sessionsOpened := t.sessionsOpened + 1 }
  | .sessionClosed => { t with sessionsClosed := t.sessionsClosed + 1 }
  | .sessionOpenFailed => { t with sessionOpenFailures := t.sessionOpenFailures + 1 }
  | .emitted level => { t.countLevel level with txEmitted := t.txEmitted + 1 }
  | .droppedByCap => { t with txDroppedByCap := t.txDroppedByCap + 1 }
  | .missed => { t with resolutionMisses := t.resolutionMisses + 1 }
  | .streamFailed => { t with streamErrors := t.streamErrors + 1 }
  | .accepted => { t with validationsAccepted := t.validationsAccepted + 1 }
  | .rejected kind => t.countRejection kind

def recordAll (t : Telemetry) (tallies : List Tally) : Telemetry :=
  tallies.foldl record t

/-- Never less than nothing, even if one of the two counters has wrapped around. -/
def sessionsActive (t : Telemetry) : UInt64 :=
  if t.sessionsClosed ≤ t.sessionsOpened then t.sessionsOpened - t.sessionsClosed else 0

def counters (t : Telemetry) : List (String × Nat) :=
  let words :=
    [("sessions_opened", t.sessionsOpened), ("sessions_closed", t.sessionsClosed),
     ("sessions_active", t.sessionsActive), ("session_open_failures", t.sessionOpenFailures),
     ("tx_emitted", t.txEmitted), ("tx_dropped_by_cap", t.txDroppedByCap),
     ("resolution_misses", t.resolutionMisses), ("stream_errors", t.streamErrors),
     ("level_low", t.levelLow), ("level_medium", t.levelMedium), ("level_high", t.levelHigh),
     ("level_critical", t.levelCritical), ("validations_accepted", t.validationsAccepted),
     ("rejected_key_required", t.rejectedKeyRequired),
     ("rejected_invalid_key", t.rejectedInvalidKey),
     ("rejected_account_inactive", t.rejectedAccountInactive),
     ("rejected_limit_reached", t.rejectedLimitReached)]
  words.map fun c => (c.1, c.2.toNat)

end Telemetry

end MempoolGate
