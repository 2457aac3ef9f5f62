import MempoolGate.Proofs.Http.Ledger
import MempoolGate.Proofs.Text.Trimming

namespace MempoolGate.Http

open Text

def HoldsNone (raw : Option String) : Prop :=
  ∀ s ∈ raw, ∀ c ∈ s.toList, isBlank c = true

def Holds (raw : Option String) (key : String) : Prop :=
  ∃ s, raw = some s ∧ trim s = key ∧ key ≠ ""

theorem normalize?_eq_none_iff {raw : Option String} :
    raw.bind Key.normalize? = none ↔ HoldsNone raw := by
  cases raw with
  | none => exact iff_of_true rfl nofun
  | some s =>
    rw [Option.bind_some, Key.normalize?, trimmed?_eq_none_iff]
    exact ⟨fun h t ht => Option.some.inj ht ▸ h, fun h => h s rfl⟩

theorem normalize?_eq_some_iff {raw : Option String} {key : String} :
    raw.bind Key.normalize? = some key ↔ Holds raw key := by
  cases raw with
  | none =>
    refine iff_of_false nofun ?_
    rintro ⟨s, ⟨⟩, -⟩
  | some s =>
    rw [Option.bind_some, Key.normalize?, trimmed?_eq_some_iff]
    constructor
    · intro h
      exact ⟨s, rfl, h⟩
    · rintro ⟨_, ⟨⟩, h⟩
      exact h

namespace Request

def keyHeader (r : Request) : Option String :=
  r.text? "x-api-key"

def keyParameter (r : Request) : Option String :=
  r.parameter? "api_key"

def LacksKey (r : Request) : Prop :=
  (∃ s, r.keyHeader = some s ∧ HoldsNone (some s)) ∨ r.keyHeader = none ∧ HoldsNone r.keyParameter

def BringsKey (r : Request) (key : String) : Prop :=
  Holds r.keyHeader key ∨ r.keyHeader = none ∧ Holds r.keyParameter key

variable {r : Request}

theorem normalize?_presentedKey_eq_none_iff :
    r.presentedKey.bind Key.normalize? = none ↔ r.LacksKey := by
  rw [normalize?_eq_none_iff]
  have hpresented : r.presentedKey = r.keyHeader.or r.keyParameter := rfl
  rw [hpresented, LacksKey]
  cases r.keyHeader with
  | none => simp
  | some s => simp

theorem normalize?_presentedKey_eq_some_iff {key : String} :
    r.presentedKey.bind Key.normalize? = some key ↔ r.BringsKey key := by
  rw [normalize?_eq_some_iff]
  have hpresented : r.presentedKey = r.keyHeader.or r.keyParameter := rfl
  rw [hpresented, BringsKey]
  cases r.keyHeader with
  | none => simp [Holds]
  | some s => simp

def IsBare (r : Request) : Prop :=
  HoldsNone r.keyHeader ∧ HoldsNone r.keyParameter

/-- The header holds no key and yet hides the one in the query. -/
def IsShadowed (r : Request) : Prop :=
  (∃ s, r.keyHeader = some s ∧ HoldsNone (some s)) ∧ ∃ key, Holds r.keyParameter key

theorem holdsNone_iff_not_holds {raw : Option String} : HoldsNone raw ↔ ¬∃ key, Holds raw key := by
  simp only [← normalize?_eq_none_iff, ← normalize?_eq_some_iff]
  cases raw.bind Key.normalize? <;> simp

/-- A request lacks a key that it is asked for, exactly if it brings none or hides it. -/
theorem lacksKey_iff : r.LacksKey ↔ r.IsBare ∨ r.IsShadowed := by
  rw [LacksKey, IsBare, IsShadowed, ← not_not (a := ∃ key, Holds r.keyParameter key),
    ← holdsNone_iff_not_holds]
  have hnone : HoldsNone none := nofun
  cases r.keyHeader with
  | none => simp [hnone]
  | some s =>
    simp only [Option.some.injEq, exists_eq_left', reduceCtorEq, false_and, or_false]
    by_cases h : HoldsNone r.keyParameter <;> simp [h]

end Request

theorem envelope_ofRejection_inj {reason : Rejection}
    (h : envelope (.error (.ofRejection reason)) = envelope (.error (.ofRejection .keyRequired))) :
    reason = .keyRequired := by
  cases reason with
  | keyRequired => rfl
  | invalidOrRevoked | accountInactive | limitReached =>
    simp [envelope, Complaint.ofRejection, Rejection.code, Rejection.details, ErrorCode.name] at h

structure Response.AsksForKey (a : Response) : Prop where
  status : a.status = 401
  content : a.content = .json (envelope (.error (.ofRejection .keyRequired)))
  told : a.told = []

namespace Surroundings

variable {s : Surroundings} {g g' : Gateway} {r : Request}

theorem verdict_of_missing (hout : g.outage = none) (now : Nat) {raw : Option String}
    (hk : raw.bind Key.normalize? = none) : (g.validate now raw).1 = .ok (.rejected .keyRequired) := by
  rw [Gateway.validate_eq hout, g.store.validate_of_missing now hk]

theorem verdict_of_key (hs : g.store.Indexed) (hout : g.outage = none) (now : Nat)
    {raw : Option String} {key : String} (hk : raw.bind Key.normalize? = some key) :
    ∃ verdict store, (g.validate now raw).1 = .ok verdict ∧ g.store.Judged now key verdict store := by
  obtain ⟨verdict, store, hvalidate, hjudged⟩ := KeyStore.judged hs now hk
  refine ⟨verdict, store, ?_, hjudged⟩
  rw [Gateway.validate_eq hout, hvalidate]

theorem respond_of_rejected (hgated : r.isGated = true) {reason : Rejection}
    (h : g.validate s.now r.presentedKey = (.ok (.rejected reason), g')) :
    (s.respond g r).1.status = reason.code.httpStatus ∧
      (r.method ≠ "HEAD" →
        (s.respond g r).1.content = .json (envelope (.error (.ofRejection reason)))) := by
  simp only [Request.isGated, Bool.and_eq_true, decide_eq_true_eq] at hgated
  obtain ⟨hany, hmethod⟩ := hgated
  obtain ⟨route, hroute, hcharged⟩ := (Option.any_eq_true ..).mp hany
  obtain ⟨-, hstatus, hcontent, -⟩ := respond_of_route (s := s) (g := g) hroute hmethod
  obtain ⟨-, hdispatch, hdispatchContent, -⟩ :=
    dispatch_of_isCharged (s := s) (g := g) (r := r) hcharged
  rw [serveCharged_of_rejected route h] at hdispatch hdispatchContent
  exact ⟨hstatus.trans hdispatch, fun hhead => (hcontent hhead).trans hdispatchContent⟩

/-- What the gate makes of the key in a request: one is asked for if there is none in either place, or if
a blank header hides it; otherwise it is the one in the header, or that of the query where no header can
be read, on which a verdict is given. -/
structure Screened (s : Surroundings) (g : Gateway) (r : Request) : Prop where
  asked : r.method ≠ "HEAD" → ((s.respond g r).1.AsksForKey ↔ r.IsBare ∨ r.IsShadowed)
  refused : r.IsBare ∨ r.IsShadowed → (s.respond g r).1.status = 401
  counted : (s.respond g r).2.telemetry.rejectedKeyRequired =
      g.telemetry.rejectedKeyRequired + 1 ↔ r.IsBare ∨ r.IsShadowed
  judged : ∀ key, r.BringsKey key → ∃ verdict store,
    (g.validate s.now r.presentedKey).1 = .ok verdict ∧ g.store.Judged s.now key verdict store

theorem screened (hs : g.store.Indexed) (hout : g.outage = none) (hgated : r.isGated = true) :
    s.Screened g r := by
  obtain ⟨verdict, g', hvalidate, hjudged⟩ := Gateway.judged hs hout s.now r.presentedKey
  obtain ⟨hkeys, htold⟩ := respond_of_isGated hgated hvalidate
  have hverdict : verdict = .rejected .keyRequired ↔ r.LacksKey := by
    have hfirst : (g.validate s.now r.presentedKey).1 = .ok verdict := by rw [hvalidate]
    rw [← Request.normalize?_presentedKey_eq_none_iff]
    cases hk : r.presentedKey.bind Key.normalize? with
    | none =>
      rw [verdict_of_missing hout s.now hk] at hfirst
      exact iff_of_true (Except.ok.inj hfirst).symm rfl
    | some key =>
      obtain ⟨verdict', store, hverdict', hkey⟩ := verdict_of_key hs hout s.now hk
      cases hfirst.symm.trans hverdict'
      exact iff_of_false hkey.ne_keyRequired nofun
  rw [Request.lacksKey_iff] at hverdict
  refine ⟨fun hhead => ?_, fun hlacks => ?_, ?_, fun key hkey => ?_⟩
  · rw [← hverdict]
    constructor
    · rintro ⟨-, hcontent, hsilent⟩
      cases verdict with
      | valid call =>
        rw [htold] at hsilent
        cases hsilent
      | rejected reason =>
        rw [(respond_of_rejected hgated hvalidate).2 hhead] at hcontent
        rw [envelope_ofRejection_inj (Content.json.inj hcontent)]
    · rintro rfl
      obtain ⟨hstatus, hcontent⟩ := respond_of_rejected hgated hvalidate
      exact ⟨hstatus, hcontent hhead, htold⟩
  · obtain rfl := hverdict.mpr hlacks
    exact (respond_of_rejected hgated hvalidate).1
  · rw [← hverdict]
    have hcount : (s.respond g r).2.telemetry.rejectedKeyRequired =
        g.telemetry.rejectedKeyRequired + _ :=
      (hkeys.rejections .keyRequired).trans (hjudged.balanced.rejections .keyRequired)
    rw [hcount]
    cases verdict with
    | valid call => simp [Verdict.refusal?, List.filterMap_cons]
    | rejected reason => cases reason <;> simp [Verdict.refusal?, Rejection.kind]
  · exact verdict_of_key hs hout s.now (Request.normalize?_presentedKey_eq_some_iff.mpr hkey)

end Surroundings

/-- A request of a charged route is told that it needs a key exactly if neither the header, which counts
only if it can be read, nor the query holds one, or if a blank header stands before the key in the query.
Any other request is judged by its key, and the header goes before the query. -/
theorem keys_screened (s : Surroundings) (g : Gateway) (r : Request) (hs : g.store.Reachable)
    (hout : g.outage = none) (hgated : r.isGated = true) : s.Screened g r :=
  Surroundings.screened hs.indexed hout hgated

def bareCall : Request :=
  ⟨"POST", "/v1/classify", "api_key=%20", [("X-Api-Key", "sg_g\u00f6ld")], ""⟩

theorem keys_screened_bareCall :
    sampleGateway.store.Reachable ∧ sampleGateway.outage = none ∧ bareCall.isGated = true ∧
      bareCall.IsBare ∧ (sampleSurroundings.respond sampleGateway bareCall).1.AsksForKey := by
  have hreachable : sampleGateway.store.Reachable := ⟨KeyStore.twoLeft, by decide +kernel, rfl⟩
  have hgated : bareCall.isGated = true := by decide +kernel
  have hbare : bareCall.IsBare := by
    constructor <;> rw [← normalize?_eq_none_iff] <;> decide +kernel
  have hscreened := keys_screened sampleSurroundings sampleGateway bareCall hreachable rfl hgated
  exact ⟨hreachable, rfl, hgated, hbare, (hscreened.asked (by decide)).mpr (.inl hbare)⟩

/-- A blank header before a key in the query. -/
def shadowedCall : Request :=
  ⟨"POST", "/v1/classify", "api_key=sg_gold", [("X-Api-Key", "")], ""⟩

theorem asksForKey_shadowedCall :
    Holds shadowedCall.keyParameter "sg_gold" ∧
      (sampleSurroundings.respond sampleGateway shadowedCall).1.AsksForKey ∧
      ¬((sampleSurroundings.respond sampleGateway shadowedCall).1.AsksForKey ↔
        shadowedCall.IsBare) := by
  have hreachable : sampleGateway.store.Reachable := ⟨KeyStore.twoLeft, by decide +kernel, rfl⟩
  have hkey : Holds shadowedCall.keyParameter "sg_gold" :=
    normalize?_eq_some_iff.mp (by decide +kernel)
  have hblank : HoldsNone (some "") := normalize?_eq_none_iff.mp (by decide +kernel)
  have hheader : shadowedCall.keyHeader = some "" := by decide +kernel
  have hscreened : sampleSurroundings.Screened sampleGateway shadowedCall :=
    Surroundings.screened hreachable.indexed rfl (by decide +kernel)
  have hasked := (hscreened.asked (by decide)).mpr (.inr ⟨⟨_, hheader, hblank⟩, _, hkey⟩)
  refine ⟨hkey, hasked, fun h => ?_⟩
  exact Request.holdsNone_iff_not_holds.mp (h.mp hasked).2 ⟨_, hkey⟩

end MempoolGate.Http
