import MempoolGate.Proofs.Http.Agreement
import MempoolGate.Proofs.Http.Handover
import MempoolGate.Proofs.Http.Ledger

namespace MempoolGate.Http

open Json Text

/-- The spellings of a number that are documented: nothing for zero, decimal digits, or hexadecimal ones
behind their marker. -/
inductive Documented (n : Nat) : List Char → Prop
  | blank (zero : n = 0) : Documented n []
  | decimal {digits : List Char} (some : digits ≠ []) (denotes : Denotes 10 digits n) :
      Documented n digits
  | hex {x : Char} {digits : List Char} (marker : x = 'x' ∨ x = 'X') (some : digits ≠ [])
      (denotes : Denotes 16 digits n) : Documented n ('0' :: x :: digits)

/-- The other spellings of an integer literal: another radix, underscores among the digits or in their
place, or the hexadecimal marker alone for zero. -/
inductive Undocumented (n : Nat) : List Char → Prop
  | radix {marker : List Char × Nat} {digits : List Char}
      (mem : marker ∈ [(['0', 'o'], 8), (['0', 'O'], 8), (['0', 'b'], 2), (['0', 'B'], 2)])
      (denotes : Denotes marker.2 (digits.filter (· ≠ '_')) n) : Undocumented n (marker.1 ++ digits)
  | grouped {marker : List Char × Nat} {digits : List Char}
      (mem : marker ∈ [([], 10), (['0', 'x'], 16), (['0', 'X'], 16)]) (underscore : '_' ∈ digits)
      (denotes : Denotes marker.2 (digits.filter (· ≠ '_')) n) : Undocumented n (marker.1 ++ digits)
  | bare {x : Char} (marker : x = 'x' ∨ x = 'X') (zero : n = 0) : Undocumented n ['0', x]

variable {n m : Nat} {cs : List Char}

theorem denotes_nil_iff {radix : Nat} : Denotes radix [] n ↔ n = 0 := by
  constructor
  · rintro ⟨ds, hds, -, rfl⟩
    obtain rfl := List.map_eq_nil_iff.mp hds.symm
    rfl
  · rintro rfl
    exact ⟨[], rfl, nofun, rfl⟩

theorem decimal_cases (h : Denotes 10 (cs.filter (· ≠ '_')) n) : Documented n cs ∨ Undocumented n cs := by
  by_cases hunder : '_' ∈ cs
  · have hmarker : (([], 10) : List Char × Nat) ∈ [([], 10), (['0', 'x'], 16), (['0', 'X'], 16)] :=
      List.mem_cons_self
    exact .inr (.grouped hmarker hunder h)
  · rw [filter_underscores hunder] at h
    cases cs with
    | nil => exact .inl (.blank (denotes_nil_iff.mp h))
    | cons c cs => exact .inl (.decimal (List.cons_ne_nil c cs) h)

theorem hex_cases {x : Char} (hx : x = 'x' ∨ x = 'X') (h : Denotes 16 (cs.filter (· ≠ '_')) n) :
    Documented n ('0' :: x :: cs) ∨ Undocumented n ('0' :: x :: cs) := by
  by_cases hunder : '_' ∈ cs
  · have hmarker : ((['0', x], 16) : List Char × Nat) ∈
        [([], 10), (['0', 'x'], 16), (['0', 'X'], 16)] := by
      rcases hx with rfl | rfl <;> decide
    exact .inr (.grouped hmarker hunder h)
  · rw [filter_underscores hunder] at h
    cases cs with
    | nil => exact .inr (.bare hx (denotes_nil_iff.mp h))
    | cons c cs => exact .inl (.hex hx (List.cons_ne_nil c cs) h)

theorem Documented.spells (h : Documented n cs) : Literal.Spells n cs := by
  cases h with
  | blank zero => exact ⟨([], 10), by decide, [], rfl, denotes_nil_iff.mpr zero⟩
  | decimal _ denotes =>
    refine ⟨([], 10), by decide, cs, rfl, ?_⟩
    rw [filter_digits (by decide) denotes]
    exact denotes
  | @hex x digits marker _ denotes =>
    refine ⟨(['0', x], 16), by rcases marker with rfl | rfl <;> decide, digits, rfl, ?_⟩
    rw [filter_digits (by decide) denotes]
    exact denotes

theorem Undocumented.spells (h : Undocumented n cs) : Literal.Spells n cs := by
  cases h with
  | @radix marker digits mem denotes =>
    have hmarkers : ∀ marker ∈ [(['0', 'o'], 8), (['0', 'O'], 8), (['0', 'b'], 2), (['0', 'B'], 2)],
        marker ∈ Literal.markers := by decide
    exact ⟨marker, hmarkers marker mem, digits, rfl, denotes⟩
  | @grouped marker digits mem _ denotes =>
    have hmarkers : ∀ marker ∈ [([], 10), (['0', 'x'], 16), (['0', 'X'], 16)],
        marker ∈ Literal.markers := by decide
    exact ⟨marker, hmarkers marker mem, digits, rfl, denotes⟩
  | @bare x marker zero =>
    exact ⟨(['0', x], 16), by rcases marker with rfl | rfl <;> decide, [], rfl,
      denotes_nil_iff.mpr zero⟩

/-- An integer literal is spelled as documented or in one of the other ways. -/
theorem spells_iff : Literal.Spells n cs ↔ Documented n cs ∨ Undocumented n cs := by
  constructor
  · rintro ⟨marker, hmarker, digits, rfl, hdigits⟩
    simp only [Literal.markers, List.mem_cons, List.not_mem_nil, or_false] at hmarker
    rcases hmarker with rfl | rfl | rfl | rfl | rfl | rfl | rfl
    · exact decimal_cases hdigits
    · exact hex_cases (.inl rfl) hdigits
    · exact hex_cases (.inr rfl) hdigits
    all_goals exact .inr (.radix (by decide) hdigits)
  · rintro (h | h)
    · exact h.spells
    · exact h.spells

theorem Documented.underscore_notMem (h : Documented n cs) : '_' ∉ cs := by
  cases h with
  | blank => exact List.not_mem_nil
  | decimal _ denotes => exact notMem_digits (by decide) denotes '_' List.mem_cons_self
  | @hex x digits marker _ denotes =>
    have hx : '_' ≠ x := by rcases marker with rfl | rfl <;> decide
    have hdigits := notMem_digits (by decide) denotes '_' List.mem_cons_self
    simp [hx, hdigits]

theorem Documented.marker {c : Char} {rest : List Char} (h : Documented n ('0' :: c :: rest)) :
    c ∉ ['o', 'O', 'b', 'B'] ∧ (rest = [] → c ∉ ['x', 'X']) := by
  cases h with
  | decimal _ denotes =>
    rw [← filter_digits (by decide) denotes] at denotes
    have hnone := Literal.notMem_decimal denotes
    constructor
    · intro hc
      exact hnone c (List.mem_append_right ['x', 'X'] hc) (by simp)
    · intro _ hc
      exact hnone c (List.mem_append_left ['o', 'O', 'b', 'B'] hc) (by simp)
  | hex marker some _ =>
    refine ⟨?_, fun hnil => absurd hnil some⟩
    rcases marker with rfl | rfl <;> decide

theorem Documented.not_undocumented (h : Documented n cs) : ¬Undocumented m cs := by
  intro hother
  cases hother with
  | @radix marker digits mem _ =>
    simp only [List.mem_cons, List.not_mem_nil, or_false] at mem
    rcases mem with rfl | rfl | rfl | rfl <;> exact absurd (by decide) h.marker.1
  | grouped _ underscore _ => exact h.underscore_notMem (List.mem_append_right _ underscore)
  | bare marker _ =>
    refine h.marker.2 rfl ?_
    rcases marker with rfl | rfl <;> decide

def States (w : Wei) : Option String → Prop
  | none => w = .zero
  | some s => ∃ cs, Padded s cs ∧ Documented w.toNat cs

def StatesLoosely (w : Wei) (raw : Option String) : Prop :=
  ∃ s cs, raw = some s ∧ Padded s cs ∧ Undocumented w.toNat cs

variable {w w' : Wei} {raw : Option String}

theorem spellsWei_iff : SpellsWei w raw ↔ States w raw ∨ StatesLoosely w raw := by
  cases raw with
  | none =>
    refine (or_iff_left ?_).symm
    rintro ⟨s, cs, ⟨⟩, -⟩
  | some s =>
    simp only [SpellsWei, spells_iff, and_or_left, exists_or]
    refine or_congr_right ?_
    constructor
    · rintro ⟨cs, h⟩
      exact ⟨s, cs, rfl, h⟩
    · rintro ⟨_, cs, ⟨⟩, h⟩
      exact ⟨cs, h⟩

theorem States.not_statesLoosely (h : States w raw) : ¬StatesLoosely w' raw := by
  rintro ⟨s, cs, rfl, hpadded, hother⟩
  obtain ⟨cs', hpadded', hdocumented⟩ := h
  have hcs := hpadded.strip_eq hother.spells.isBlank
  have hcs' := hpadded'.strip_eq hdocumented.spells.isBlank
  rw [← hcs', hcs] at hdocumented
  exact hdocumented.not_undocumented hother

theorem readWei_refused (h : ∀ w, ¬States w raw ∧ ¬StatesLoosely w raw) : ∃ s, raw = some s ∧
    readWei raw = .error (.badRequest ("Invalid value: " ++ trim s)) := by
  have hnone : ∀ w, readWei raw ≠ .ok w := by
    intro w hread
    rw [readWei_eq_ok_iff, spellsWei_iff] at hread
    exact hread.elim (h w).1 (h w).2
  cases raw with
  | none => exact absurd rfl (hnone .zero)
  | some s =>
    refine ⟨s, rfl, ?_⟩
    by_cases hblank : trim s = ""
    · refine absurd ?_ (hnone .zero)
      rw [readWei, Option.bind_some, trimmed?_of_blank hblank]
    · have hparse : Wei.parse? (trim s) = none :=
        Option.eq_none_iff_forall_ne_some.mpr fun w hw => hnone w (readWei_some_iff.mpr hw)
      rw [readWei, Option.bind_some, trimmed?_of_ne hblank]
      simp only [hparse]

structure ClassifyBody.Fits (b : ClassifyBody) (tx : PendingTx) : Prop where
  sender : SpellsAddress tx.sender b.sender
  recipient : SpellsRecipient tx.recipient b.recipient
  payload : SpellsPayload tx.input b.payload
  gasLimit : b.gasLimit = tx.gasLimit

structure SimulateBody.Fits (b : SimulateBody) (sender recipient : Address) (payload : List UInt8) :
    Prop where
  sender : SpellsAddress sender b.sender
  recipient : SpellsAddress recipient b.recipient
  payload : SpellsPayload payload b.payload

theorem ClassifyBody.Fits.classify {b : ClassifyBody} {tx : PendingTx} (h : b.Fits tx)
    (hw : SpellsWei w b.value) (registry : Registry) : classify registry b =
      .ok (.classified (verdictOn (registry.resolve (b.network.getD "")) { tx with value := w })) := by
  have hspells : b.Spells { tx with value := w } :=
    ⟨h.sender, h.recipient, hw, h.payload, h.gasLimit⟩
  rw [Http.classify, hspells.toTx]
  rfl

theorem ClassifyBody.Fits.classify_refused {b : ClassifyBody} {tx : PendingTx} {e : GatewayError}
    (h : b.Fits tx) (hw : readWei b.value = .error e) (registry : Registry) :
    Http.classify registry b = .error e := by
  have hsender : readAddress "from" b.sender = .ok tx.sender := readAddress_eq_ok_iff.mpr h.sender
  have htx : b.toTx = .error e := by
    rcases recipient_of_spells h.recipient with ⟨-, hraw⟩ | ⟨a, t, -, hraw, hread⟩
    · rw [toTx, hsender, hraw, hw]
      rfl
    · simp only [toTx, hsender, hraw, hw, hread]
      rfl
  rw [Http.classify, htx]
  rfl

variable {sender recipient : Address} {payload : List UInt8}

theorem SimulateBody.Fits.simulate {b : SimulateBody} (h : b.Fits sender recipient payload)
    (hw : SpellsWei w b.value) (s : Surroundings) (registry : Registry) :
    Http.simulate s registry b = (s.engine (handedOver (registry.resolve (b.network.getD "")) sender
      recipient w payload b.gasLimit)).map Payload.simulated :=
  simulate_of_accepted s (toRequest_eq_ok_iff.mpr
    ⟨sender, recipient, w, payload, ⟨h.sender, h.recipient, hw, h.payload⟩, rfl⟩)

theorem SimulateBody.Fits.simulate_refused {b : SimulateBody} {e : GatewayError}
    (h : b.Fits sender recipient payload) (hw : readWei b.value = .error e) (s : Surroundings)
    (registry : Registry) : Http.simulate s registry b = .error e := by
  have hsender : readAddress "from" b.sender = .ok sender := readAddress_eq_ok_iff.mpr h.sender
  have hrecipient : readAddress "to" b.recipient = .ok recipient :=
    readAddress_eq_ok_iff.mpr h.recipient
  have hrequest : b.toRequest registry = .error e := by
    rw [toRequest, hsender, hrecipient, hw]
    rfl
  rw [Http.simulate, hrequest]
  rfl

namespace Surroundings

variable {s : Surroundings} {g : Gateway} {r : Request} {route : Route}

structure Answers (s : Surroundings) (g : Gateway) (r : Request)
    (result : Except GatewayError Payload) : Prop where
  status : (s.respond g r).1.status = (Response.ofResult result).status
  content : (s.respond g r).1.content = (Response.ofResult result).content

theorem Passed.answers {call : Charged} (h : s.Passed g r route call) (hmethod : r.method = "POST")
    {result : Except GatewayError Payload}
    (hhandle : ∀ g' : Gateway, g'.registry = g.registry →
      (s.handle g' r route).1 = Response.ofResult result) : s.Answers g r result := by
  have hresult := hhandle _ (g.registry_validate s.now r.presentedKey)
  constructor
  · rw [h.status, hresult]
  · rw [h.content (by rw [hmethod]; decide), hresult]

theorem respond_engine (hroute : Route.ofPath? r.path = some route) (hcharged : route.isCharged = true)
    (hmethod : r.method ∈ route.methods)
    (engine : Simulation.Request → Except GatewayError Simulation.Outcome)
    (hhandle : ∀ g' : Gateway, g'.registry = g.registry →
      { s with engine := engine }.handle g' r route = s.handle g' r route) :
    { s with engine := engine }.respond g r = s.respond g r := by
  have hoptions : r.method ≠ "OPTIONS" := fun h => route.options_notMem_methods (h ▸ hmethod)
  have hserved : { s with engine := engine }.serveCharged g r route = s.serveCharged g r route := by
    have hregistry := g.registry_validate s.now r.presentedKey
    simp only [serveCharged, serve_of_mem hmethod]
    generalize g.validate s.now r.presentedKey = judged at hregistry
    obtain ⟨_ | (call | _), g'⟩ := judged
    · rfl
    · simp only [hhandle g' hregistry]
    · rfl
  refine respond_congr _ hroute hoptions ?_
  simp only [dispatch, if_pos hcharged, hserved]

/-- What becomes of a request by the amount in its body. An amount in either kind of spelling is read and
answered; anything else is named in the answer, in which the engine has no part. -/
structure Weighs (s : Surroundings) (g : Gateway) (r : Request) (raw : Option String)
    (answer : Wei → Except GatewayError Payload) : Prop where
  taken : ∀ w, States w raw ∨ StatesLoosely w raw → s.Answers g r (answer w)
  refused : (∀ w, ¬States w raw ∧ ¬StatesLoosely w raw) → ∃ text, raw = some text ∧
    s.Answers g r (.error (.badRequest ("Invalid value: " ++ trim text))) ∧
    ∀ engine, { s with engine := engine }.respond g r = s.respond g r

theorem weighs (hs : g.store.Indexed) (hout : g.outage = none) (hadmits : s.Admits g r)
    (hroute : Route.ofPath? r.path = some route) (hcharged : route.isCharged = true)
    (hmethod : r.method = "POST") (hmem : "POST" ∈ route.methods)
    {answer : Wei → Except GatewayError Payload}
    (htaken : ∀ w, SpellsWei w raw → ∀ g' : Gateway, g'.registry = g.registry →
      (s.handle g' r route).1 = .ofResult (answer w))
    (hrefused : ∀ e, readWei raw = .error e → ∀ (s' : Surroundings) (g' : Gateway),
      s'.handle g' r route = (.ofResult (.error e), g')) : s.Weighs g r raw answer := by
  have hmem' : r.method ∈ route.methods := hmethod ▸ hmem
  obtain ⟨call, hpassed⟩ := hadmits.passed hs hout hroute hcharged hmem'
  constructor
  · intro w hw
    exact hpassed.answers hmethod (htaken w (spellsWei_iff.mpr hw))
  · intro hnone
    obtain ⟨text, hraw, hread⟩ := readWei_refused hnone
    have hhandle := hrefused _ hread
    refine ⟨text, hraw, hpassed.answers hmethod fun g' _ => by rw [hhandle], fun engine => ?_⟩
    refine respond_engine hroute hcharged hmem' engine fun g' _ => ?_
    rw [hhandle, hhandle]

end Surroundings

variable {s : Surroundings} {g : Gateway} {r : Request}

theorem Surroundings.weighs_classify (hs : g.store.Indexed) (hout : g.outage = none)
    (hadmits : s.Admits g r) (hmethod : r.method = "POST")
    (hroute : Route.ofPath? r.path = some .classify) {body : ClassifyBody} {tx : PendingTx}
    (hbody : r.json ClassifyBody.fields = .ok body) (hfits : body.Fits tx) :
    s.Weighs g r body.value fun w => .ok (.classified
      (verdictOn (g.registry.resolve (body.network.getD "")) { tx with value := w })) := by
  refine weighs hs hout hadmits hroute rfl hmethod (by decide) (fun w hw g' hregistry => ?_)
    fun e hread s' g' => ?_
  · simp only [handle, hbody, hfits.classify hw, hregistry]
  · simp only [handle, hbody, hfits.classify_refused hread]

theorem Surroundings.weighs_simulate (hs : g.store.Indexed) (hout : g.outage = none)
    (hadmits : s.Admits g r) (hmethod : r.method = "POST")
    (hroute : Route.ofPath? r.path = some .simulate) {body : SimulateBody}
    (hbody : r.json SimulateBody.fields = .ok body) (hfits : body.Fits sender recipient payload) :
    s.Weighs g r body.value fun w => (s.engine (handedOver
      (g.registry.resolve (body.network.getD "")) sender recipient w payload
      body.gasLimit)).map Payload.simulated := by
  refine weighs hs hout hadmits hroute rfl hmethod (by decide) (fun w hw g' hregistry => ?_)
    fun e hread s' g' => ?_
  · simp only [handle, hbody, hfits.simulate hw, hregistry]
  · simp only [handle, hbody, hfits.simulate_refused hread]

/-- A request that is let through and whose body is in order but for the amount. The amount is read if it
is written as documented, and also if it is written in one of the other ways of an integer literal, none
of which is documented. Whatever else is written for it, the request is refused, nothing is classified and
the engine is not started. -/
theorem amounts_weighed (s : Surroundings) (g : Gateway) (r : Request) (hs : g.store.Reachable)
    (hout : g.outage = none) (hadmits : s.Admits g r) (hmethod : r.method = "POST") :
    (∀ body tx, Route.ofPath? r.path = some .classify → r.json ClassifyBody.fields = .ok body →
      body.Fits tx → s.Weighs g r body.value fun w => .ok (.classified
        (verdictOn (g.registry.resolve (body.network.getD "")) { tx with value := w }))) ∧
    (∀ body sender recipient payload, Route.ofPath? r.path = some .simulate →
      r.json SimulateBody.fields = .ok body → body.Fits sender recipient payload →
      s.Weighs g r body.value fun w => (s.engine (handedOver
        (g.registry.resolve (body.network.getD "")) sender recipient w payload
        body.gasLimit)).map Payload.simulated) ∧
    ∀ raw w w', States w raw → ¬StatesLoosely w' raw :=
  ⟨fun _ _ hroute hbody hfits =>
      Surroundings.weighs_classify hs.indexed hout hadmits hmethod hroute hbody hfits,
    fun _ _ _ _ hroute hbody hfits =>
      Surroundings.weighs_simulate hs.indexed hout hadmits hmethod hroute hbody hfits,
    fun _ _ _ => States.not_statesLoosely⟩

def valueMembers (value : String) : List (String × Plain) :=
  [("from", .str "2222222222222222222222222222222222222222"), ("value", .str value)]

def valuePost (value : String) : Request :=
  { jsonPost "/v1/classify" (valueMembers value) with
    headers := [("content-type", "application/json"), ("X-Api-Key", "sg_gold")] }

def valueBody (value : String) : ClassifyBody :=
  ⟨"2222222222222222222222222222222222222222", none, some value, none, 21000, none⟩

def valueTx : PendingTx :=
  { hash := .filled 32 0, sender := .filled 20 0x22, recipient := none, value := .zero, input := []
    gasLimit := 21000 }

theorem json_valuePost {value : String} (hsize : (valuePost value).body.utf8ByteSize ≤ maxBodyBytes) :
    (valuePost value).json ClassifyBody.fields = .ok (valueBody value) := by
  have htype : (valuePost value).text? "content-type" = some "application/json" := by
    change (Request.mk "" "" "" [("content-type", "application/json"),
      ("X-Api-Key", "sg_gold")] "").text? _ = _
    decide +kernel
  have hjson : MediaType.isJson "application/json" = true := by decide +kernel
  have hcarries : (valuePost value).Carries (.ofPlain (valueMembers value)) :=
    { carries_jsonPost "/v1/classify" (List.cons_ne_nil _ _) with
      type := by rw [htype, Option.map_some, hjson, Option.getD_some] }
  have hwritten : (valueBody value).Written (Members.ofPlain (valueMembers value)).under := by
    constructor <;> simp only [Members.under_ofPlain, valueMembers, valueBody] <;> simp [Plain.doc]
    · exact .absent
    · exact .text _
    · exact .absent
    · exact .absent
    · exact .absent
  exact hcarries.json hsize hwritten.takes

theorem fits_valueBody (value : String) : (valueBody value).Fits valueTx where
  sender := by
    have hread : FixedBytes.parse? 20 (trim "2222222222222222222222222222222222222222") =
        some valueTx.sender := by decide +kernel
    exact spellsAddress_iff.mpr hread
  recipient := nofun
  payload := rfl
  gasLimit := rfl

theorem admits_valuePost (value : String) :
    sampleSurroundings.Admits sampleGateway (valuePost value) := by
  have hkey : (valuePost value).presentedKey = some "sg_gold" := by
    change (Request.mk "" "" "" [("content-type", "application/json"),
      ("X-Api-Key", "sg_gold")] "").presentedKey = _
    decide +kernel
  let record : KeyRecord :=
    { id := .filled 16 4, accountId := .filled 16 1, name := "ci", keyHash := Key.hash "sg_gold",
      visible := "sg_", planId := "demo", usage := 98 }
  refine ⟨⟨⟨record, .demo⟩, 99⟩, ?_⟩
  rw [hkey]
  decide +kernel

theorem amounts_weighed_valuePost :
    sampleGateway.store.Reachable ∧ sampleGateway.outage = none ∧
    sampleSurroundings.Admits sampleGateway (valuePost " 0X0f\n") ∧
    sampleSurroundings.Admits sampleGateway (valuePost " +5 ") ∧
    sampleSurroundings.Answers sampleGateway (valuePost " 0X0f\n") (.ok (.classified
      (verdictOn (sampleGateway.registry.resolve "") { valueTx with value := ⟨15, by decide⟩ }))) ∧
    sampleSurroundings.Answers sampleGateway (valuePost " +5 ")
      (.error (.badRequest ("Invalid value: " ++ trim " +5 "))) := by
  have hreachable : sampleGateway.store.Reachable := ⟨KeyStore.twoLeft, by decide +kernel, rfl⟩
  have hroute : Route.ofPath? "/v1/classify" = some .classify := by decide +kernel
  have hpadded : Padded " 0X0f\n" "0X0f".toList :=
    ⟨[' '], ['\n'], by decide, List.forall_mem_singleton.mpr (by decide),
      List.forall_mem_singleton.mpr (by decide)⟩
  have hstates : States ⟨15, by decide⟩ (some " 0X0f\n") :=
    ⟨_, hpadded, .hex (.inr rfl) (by decide) ⟨[0, 15], by decide, by decide, by decide⟩⟩
  have hrefused : readWei (some " +5 ") = .error (.badRequest "Invalid value: +5") := by
    decide +kernel
  have hneither : ∀ w, ¬States w (some " +5 ") ∧ ¬StatesLoosely w (some " +5 ") := by
    intro w
    rw [← not_or, ← spellsWei_iff, ← readWei_eq_ok_iff, hrefused]
    exact nofun
  obtain ⟨htaken, -⟩ := amounts_weighed sampleSurroundings sampleGateway (valuePost " 0X0f\n")
    hreachable rfl (admits_valuePost _) rfl
  obtain ⟨hnamed, -⟩ := amounts_weighed sampleSurroundings sampleGateway (valuePost " +5 ")
    hreachable rfl (admits_valuePost _) rfl
  obtain ⟨_, ⟨⟩, hanswers, -⟩ :=
    (hnamed _ _ hroute (json_valuePost (by decide +kernel)) (fits_valueBody _)).refused hneither
  exact ⟨hreachable, rfl, admits_valuePost _, admits_valuePost _,
    (htaken _ _ hroute (json_valuePost (by decide +kernel)) (fits_valueBody _)).taken _
      (.inl hstates), hanswers⟩

/-- An amount that no documentation speaks of is classified all the same. -/
def TakenLoosely (value : String) (w : Wei) : Prop :=
  (∀ w', ¬States w' (some value)) ∧
    sampleSurroundings.Answers sampleGateway (valuePost value) (.ok (.classified
      (verdictOn (sampleGateway.registry.resolve "") { valueTx with value := w })))

theorem Undocumented.takenLoosely {w : Wei} {value : String} (h : Undocumented w.toNat value.toList)
    (hsize : (valuePost value).body.utf8ByteSize ≤ maxBodyBytes) : TakenLoosely value w := by
  have hreachable : sampleGateway.store.Reachable := ⟨KeyStore.twoLeft, by decide +kernel, rfl⟩
  have hroute : Route.ofPath? "/v1/classify" = some .classify := by decide +kernel
  have hpadded : Padded value value.toList :=
    ⟨[], [], by rw [List.nil_append, List.append_nil], nofun, nofun⟩
  have hloosely : StatesLoosely w (some value) := ⟨value, value.toList, rfl, hpadded, h⟩
  have hweighs := Surroundings.weighs_classify hreachable.indexed rfl (admits_valuePost value) rfl
    hroute (json_valuePost hsize) (fits_valueBody value)
  exact ⟨fun _ hstates => hstates.not_statesLoosely hloosely, hweighs.taken w (.inr hloosely)⟩

/-- Binary digits, digits in groups and a marker without digits are classified as five, a thousand and
nothing. -/
theorem takenLoosely_amounts : TakenLoosely "0b101" ⟨5, by decide⟩ ∧
    TakenLoosely "1_000" ⟨1000, by decide⟩ ∧ TakenLoosely "0x" .zero := by
  refine ⟨Undocumented.takenLoosely ?_ (by decide +kernel),
    Undocumented.takenLoosely ?_ (by decide +kernel), Undocumented.takenLoosely ?_ (by decide +kernel)⟩
  · exact @Undocumented.radix 5 (['0', 'b'], 2) "101".toList (by decide)
      ⟨[1, 0, 1], by decide, by decide, by decide⟩
  · exact @Undocumented.grouped 1000 ([], 10) "1_000".toList (by decide) (by decide)
      ⟨[1, 0, 0, 0], by decide, by decide, by decide⟩
  · exact .bare (.inl rfl) rfl

end MempoolGate.Http
