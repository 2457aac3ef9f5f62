import MempoolGate.Quota.Store
import MempoolGate.Telemetry

namespace MempoolGate

inductive Rejection
  | keyRequired
  | invalidOrRevoked
  | accountInactive (status : AccountStatus)
  | limitReached (limit usage : UInt64)
deriving DecidableEq, Repr

namespace Rejection

def code : Rejection → ErrorCode
  | keyRequired => .authKeyRequired
  | invalidOrRevoked => .authInvalidKey
  | accountInactive _ => .authAccountInactive
  | limitReached .. => .quotaLimitReached

def message : Rejection → String
  | keyRequired =>
    "API key required. Send it in the X-API-Key header or the api_key query parameter"
  | invalidOrRevoked => "Invalid or revoked API key"
  | accountInactive status =>
    "Account is " ++ status.name ++ ". Contact support to reactivate it"
  | limitReached limit usage =>
    "Plan limit reached (" ++ Text.decimal usage.toNat ++ " of " ++ Text.decimal limit.toNat ++
      " requests used)"

def details : Rejection → Option String
  | accountInactive status => some ("account_status: " ++ status.name)
  | limitReached limit _ => some ("limit: " ++ Text.decimal limit.toNat)
  | _ => none

def kind : Rejection → RejectionKind
  | keyRequired => .keyRequired
  | invalidOrRevoked => .invalidKey
  | accountInactive _ => .accountInactive
  | limitReached .. => .limitReached

end Rejection

/-- A key that may be charged, as the look-up found it. -/
structure Admission where
  record : KeyRecord
  plan : Plan
deriving DecidableEq, Repr

structure Charged extends Admission where
  usageAfter : UInt64
deriving DecidableEq, Repr

namespace Charged

def remaining (c : Charged) : String :=
  c.plan.allowance.remainingText c.record.usage

def headers (c : Charged) : List (String × String) :=
  [("x-ratelimit-limit", c.plan.allowance.text), ("x-ratelimit-remaining", c.remaining),
   ("x-ratelimit-plan", c.plan.label)]

end Charged

inductive Verdict
  | valid (call : Charged)
  | rejected (reason : Rejection)
deriving DecidableEq, Repr

namespace Verdict

def tally : Verdict → Tally
  | valid _ => .accepted
  | rejected reason => .rejected reason.kind

end Verdict

abbrev KeyLookup := String → Except GatewayError (Option OwnedKey)

/-- The checks made on what a look-up found, before anything is charged. -/
def examine (found : Option OwnedKey) : Except Rejection Admission :=
  match found with
  | none => .error .invalidOrRevoked
  | some owned =>
    if owned.account.status ≠ .active then .error (.accountInactive owned.account.status)
    else
      let plan := Plan.resolve owned.record.planId
      if plan.allowance.isExhausted owned.record.usage then
        .error (.limitReached plan.allowance.ceiling owned.record.usage)
      else .ok ⟨owned.record, plan⟩

namespace KeyStore

/-- The verdict on a presented key and the store after it, with keys looked up by `lookup`. -/
def validateWith (lookup : KeyLookup) (s : KeyStore) (now : Nat) (raw : Option String) :
    Except GatewayError (Verdict × KeyStore) :=
  match raw.bind Key.normalize? with
  | none => .ok (.rejected .keyRequired, s)
  | some key => do
    match examine (← lookup (Key.hash key)) with
    | .error reason => return (.rejected reason, s)
    | .ok admission =>
      let (usage, s') ← s.charge now admission.record.id
      return (.valid ⟨admission, usage⟩, s')

def validate (s : KeyStore) (now : Nat) (raw : Option String) :
    Except GatewayError (Verdict × KeyStore) :=
  s.validateWith (fun hash => .ok (s.findActive? hash)) now raw

end KeyStore

end MempoolGate
