import MempoolGate.Proofs.Text.Trimming
import MempoolGate.Simulation.Engine

namespace MempoolGate.Json

def Members.at (key : String) : Members → List Doc
  | .done | .broken => []
  | .cons k value rest => if k = some key then value :: rest.at key else rest.at key

theorem Members.extract_fst (key : String) :
    (ms : Members) → (ms.extract key).1 = ms.at key
  | .done | .broken => rfl
  | .cons k value rest => by
    have ih := rest.extract_fst key
    generalize hrest : rest.extract key = extracted at ih
    obtain ⟨found, others⟩ := extracted
    rw [extract, hrest, Members.at, ← ih]
    by_cases hk : k = some key <;> simp [hk]

/-- The kind of an object, if it is a string and stands in it once. -/
def Doc.kind? : Doc → Option String
  | .obj members =>
    match members.at "type" with
    | [.str (some kind)] => some kind
    | _ => none
  | _ => none

theorem Doc.tagged_of_kind? {d : Doc} {kind : String} (hkind : d.kind? = some kind)
    (hsound : (d.value maxDepth).toOption.isSome = true) :
    ∃ rest, d.tagged = .ok (kind, .members rest) := by
  unfold kind? at hkind
  split at hkind
  · next members =>
    split at hkind
    · next tag htag =>
      cases hkind
      cases hvalue : (Doc.obj members).value maxDepth with
      | error fault =>
        rw [hvalue] at hsound
        cases hsound
      | ok value =>
        have hfound := members.extract_fst "type"
        rw [htag] at hfound
        rw [tagged, hvalue]
        generalize members.extract "type" = extracted at hfound
        obtain ⟨found, rest⟩ := extracted
        cases hfound
        exact ⟨rest, rfl⟩
    · cases hkind
  · cases hkind

end MempoolGate.Json

namespace MempoolGate.Simulation

open Json

inductive Saying
  | blank
  | unreadable
  | garbled
  | object (line : Line)

def saying (bytes : List UInt8) : Saying :=
  match Text.utf8Decode? bytes with
  | none => .unreadable
  | some raw =>
    match Text.trimmed? raw with
    | none => .blank
    | some text =>
      match Line.parse text with
      | .error _ => .garbled
      | .ok line => .object line

namespace Saying

/-- A result, an error, and whatever is not understood, end the exchange. -/
def isTerminal : Saying → Bool
  | object (.result ..) | object (.failure _) | unreadable | garbled => true
  | object .step | object .other | blank => false

def isResult : Saying → Bool
  | object (.result ..) => true
  | _ => false

def isStep : Saying → Bool
  | object .step => true
  | _ => false

variable {s : Saying}

theorem exists_of_isResult (h : s.isResult = true) :
    ∃ record seconds, s = object (.result record seconds) := by
  cases s with
  | object said =>
    cases said with
    | result record seconds => exact ⟨record, seconds, rfl⟩
    | step | failure | other => cases h
  | blank | unreadable | garbled => cases h

theorem isTerminal_of_isResult (h : s.isResult = true) : s.isTerminal = true := by
  obtain ⟨record, seconds, rfl⟩ := exists_of_isResult h
  rfl

end Saying

theorem answer_cons (ending : GatewayError) (steps : Nat) (bytes : List UInt8)
    (rest : List (List UInt8)) :
    answer ending steps (bytes :: rest) = match saying bytes with
      | .unreadable => .error { failed "Failed to read engine output" with hasCause := true }
      | .garbled => .error (failed "Engine produced non-JSON output")
      | .blank | .object .other => answer ending steps rest
      | .object .step => answer ending (steps + 1) rest
      | .object (.failure message) => .error (failed message)
      | .object (.result record seconds) => .ok ⟨record, seconds, steps⟩ := by
  rw [answer, saying]
  cases Text.utf8Decode? bytes with
  | none => rfl
  | some raw =>
    dsimp only
    cases Text.trimmed? raw with
    | none => rfl
    | some text =>
      dsimp only
      cases Line.parse text with
      | error fault => rfl
      | ok line => cases line <;> rfl

variable {ending ending' : GatewayError} {steps : Nat} {bytes line : List UInt8}
  {before after after' lines lines' : List (List UInt8)}

theorem answer_of_continues (h : (saying bytes).isTerminal = false) (rest : List (List UInt8)) :
    answer ending steps (bytes :: rest) =
      answer ending (steps + if (saying bytes).isStep then 1 else 0) rest := by
  rw [answer_cons]
  cases hs : saying bytes with
  | blank => rfl
  | unreadable | garbled =>
    rw [hs] at h
    cases h
  | object said =>
    rw [hs] at h
    cases said with
    | step | other => rfl
    | result | failure => cases h

/-- Lines that do not end the exchange only count their steps. -/
theorem answer_append (hbefore : ∀ l ∈ before, (saying l).isTerminal = false)
    (rest : List (List UInt8)) :
    answer ending steps (before ++ rest) =
      answer ending (steps + before.countP fun l => (saying l).isStep) rest := by
  induction before generalizing steps with
  | nil => rfl
  | cons l before ih =>
    rw [List.forall_mem_cons] at hbefore
    rw [List.cons_append, answer_of_continues hbefore.1, ih hbefore.2, List.countP_cons,
      Nat.add_assoc, Nat.add_comm (ite _ _ _)]

theorem answer_of_isTerminal (h : (saying line).isTerminal = true) :
    answer ending steps (line :: after) = answer ending' steps (line :: after') := by
  rw [answer_cons, answer_cons]
  cases hs : saying line with
  | unreadable | garbled => rfl
  | blank =>
    rw [hs] at h
    cases h
  | object said =>
    rw [hs] at h
    cases said with
    | result | failure => rfl
    | step | other => cases h

theorem answer_of_failing (h : (saying line).isTerminal = true)
    (hresult : (saying line).isResult = false) :
    ∃ e, answer ending steps (line :: after) = .error e ∧ e.code = .simulationFailed := by
  rw [answer_cons]
  cases hs : saying line with
  | unreadable | garbled => exact ⟨_, rfl, rfl⟩
  | blank =>
    rw [hs] at h
    cases h
  | object said =>
    rw [hs] at h hresult
    cases said with
    | failure message => exact ⟨failed message, rfl, rfl⟩
    | result => cases hresult
    | step | other => cases h

theorem Ending.code_toError (timeoutSecs : Nat) {ending : Ending} (h : ending ≠ .hangs) :
    (ending.toError timeoutSecs).code = .simulationFailed := by
  cases ending with
  | hangs => exact absurd rfl h
  | killed signal => rfl
  | exited status =>
    rw [Ending.toError]
    split <;> rfl

/-- An object of a kind that is none of the exchange. The numbers and strings in it have a value, and it
is not too deep. -/
structure Foreign (text kind : String) : Prop where
  named : (Doc.only text).kind? = some kind
  other : kind ∉ ["step", "result", "error"]
  sound : ((Doc.only text).value maxDepth).toOption.isSome = true

inductive Idle (bytes : List UInt8) : Prop
  | blank {raw : String} (decoded : Text.utf8Decode? bytes = some raw)
      (blank : ∀ c ∈ raw.toList, Text.isBlank c = true)
  | foreign {raw text kind : String} (decoded : Text.utf8Decode? bytes = some raw)
      (trimmed : Text.trimmed? raw = some text) (foreign : Foreign text kind)

theorem Foreign.parse {text kind : String} (h : Foreign text kind) : Line.parse text = .ok .other := by
  obtain ⟨rest, htagged⟩ := Doc.tagged_of_kind? h.named h.sound
  have hother := h.other
  simp only [List.mem_cons, List.not_mem_nil, or_false, not_or] at hother
  rw [Line.parse, htagged]
  simp only [bind, Except.bind, if_neg hother.1, if_neg hother.2.1, if_neg hother.2.2, Line.readOther]

theorem Idle.saying (h : Idle bytes) : saying bytes = .blank ∨ saying bytes = .object .other := by
  cases h with
  | @blank raw decoded hblank =>
    left
    simp only [Simulation.saying, decoded, (Text.trimmed?_eq_none_iff raw).mpr hblank]
  | foreign decoded trimmed hforeign =>
    right
    simp only [Simulation.saying, decoded, trimmed, hforeign.parse]

theorem answer_of_idle (h : Idle bytes) (rest : List (List UInt8)) :
    answer ending steps (bytes :: rest) = answer ending steps rest := by
  rw [answer_cons]
  rcases h.saying with hs | hs <;> rw [hs]

/-- The same lines, but for lines that say nothing. -/
inductive SameTalk : List (List UInt8) → List (List UInt8) → Prop
  | nil : SameTalk [] []
  | both (line : List UInt8) {xs ys : List (List UInt8)} :
      SameTalk xs ys → SameTalk (line :: xs) (line :: ys)
  | inserted {idle : List UInt8} {xs ys : List (List UInt8)} :
      Idle idle → SameTalk xs ys → SameTalk xs (idle :: ys)
  | deleted {idle : List UInt8} {xs ys : List (List UInt8)} :
      Idle idle → SameTalk xs ys → SameTalk (idle :: xs) ys

theorem SameTalk.answer (h : SameTalk lines lines') :
    answer ending steps lines = answer ending steps lines' := by
  -- on how the two rows of lines are matched; a step on both sides changes the count on both
  induction h generalizing steps with
  | nil => rfl
  | inserted hidle _ ih => rw [answer_of_idle hidle, ih]
  | deleted hidle _ ih => rw [answer_of_idle hidle, ih]
  | both line _ ih =>
    rw [answer_cons, answer_cons]
    cases saying line with
    | unreadable | garbled => rfl
    | blank => exact ih
    | object said =>
      cases said with
      | step | other => exact ih
      | result | failure => rfl

theorem splitLines_written (hlines : ∀ l ∈ lines, 10 ∉ l) {last : List UInt8} (hlast : 10 ∉ last) :
    splitLines (lines.flatMap (· ++ [10]) ++ last) = lines ++ if last = [] then [] else [last] := by
  have hsplit : (lines.flatMap (· ++ [10]) ++ last).splitOn 10 = lines ++ [last] := by
    induction lines with
    | nil => exact List.splitOn_eq_singleton hlast
    | cons l lines ih =>
      rw [List.forall_mem_cons] at hlines
      rw [List.flatMap_cons, List.append_assoc, List.append_assoc, List.singleton_append,
        List.splitOn_append_cons_self_of_not_mem hlines.1, ih hlines.2]
      rfl
  rw [splitLines, hsplit, List.getLast?_concat, List.dropLast_concat]
  by_cases h : last = []
  · rw [if_pos (congrArg some h), if_pos h, List.append_nil]
  · rw [if_neg (mt Option.some.inj h), if_neg h]

namespace Engine

theorem simulate_of_started {request : Request} {arguments : List String}
    (h : request.arguments = .ok arguments) (e : Engine) (output : List UInt8) (ending : Ending) :
    e.simulate request (.wrote output ending) =
      answer (ending.toError e.timeoutSecs) 0 (splitLines output) := by
  rw [simulate, h]
  rfl

/-- The answer to what a started engine writes. The first line that ends the exchange decides, whatever
comes after it: a result is the outcome, with the steps before it, and anything else is a failed
simulation, as is an engine that ends without such a line. Blank lines and objects of other kinds may be put
in or left out anywhere. -/
theorem simulate_output (e : Engine) (request : Request) (arguments : List String)
    (hstarted : request.arguments = .ok arguments) :
    (∀ output ending before line after, splitLines output = before ++ line :: after →
      (∀ l ∈ before, (saying l).isTerminal = false) → (saying line).isTerminal = true →
      (∀ output' ending' after', splitLines output' = before ++ line :: after' →
        e.simulate request (.wrote output' ending') = e.simulate request (.wrote output ending)) ∧
      (∀ record seconds, saying line = .object (.result record seconds) →
        e.simulate request (.wrote output ending) =
          .ok ⟨record, seconds, before.countP fun l => (saying l).isStep⟩) ∧
      ((saying line).isResult = false →
        ∃ error, e.simulate request (.wrote output ending) = .error error ∧
          error.code = .simulationFailed)) ∧
    (∀ output ending, (∀ l ∈ splitLines output, (saying l).isTerminal = false) → ending ≠ .hangs →
      ∃ error, e.simulate request (.wrote output ending) = .error error ∧
        error.code = .simulationFailed) ∧
    (∀ output output' ending, SameTalk (splitLines output) (splitLines output') →
      e.simulate request (.wrote output ending) = e.simulate request (.wrote output' ending)) ∧
    ∀ lines last, (∀ l ∈ lines, 10 ∉ l) → 10 ∉ last →
      splitLines (lines.flatMap (· ++ [10]) ++ last) = lines ++ if last = [] then [] else [last] := by
  have hanswer := simulate_of_started hstarted e
  refine ⟨fun output ending before line after hlines hbefore hline => ⟨?_, ?_, ?_⟩, ?_, ?_, ?_⟩
  · intro output' ending' after' hlines'
    rw [hanswer, hanswer, hlines, hlines', answer_append hbefore, answer_append hbefore]
    exact answer_of_isTerminal hline
  · intro record seconds hresult
    rw [hanswer, hlines, answer_append hbefore, answer_cons, hresult, Nat.zero_add]
  · intro hresult
    rw [hanswer, hlines, answer_append hbefore]
    exact answer_of_failing hline hresult
  · intro output ending hall hending
    have hend : answer (ending.toError e.timeoutSecs) 0 (splitLines output ++ []) = _ :=
      answer_append hall []
    rw [List.append_nil] at hend
    exact ⟨_, (hanswer output ending).trans hend, Ending.code_toError e.timeoutSecs hending⟩
  · intro output output' ending htalk
    rw [hanswer, hanswer]
    exact htalk.answer
  · exact fun lines last hlines hlast => splitLines_written hlines hlast

def sampleRequest : Request :=
  { sender := "0x11", recipient := "0x22", valueWei := "1500", payload := "0x", gasLimit := 21000
    network := "sepolia", rpcUrl := none }

def sampleEngine : Engine :=
  ⟨"engine", [], 15⟩

def resultText : String := "\x7b\"type\":\"result\",\"record\":7\x7d"

def stepText : String := "\x7b\"type\":\"step\"\x7d"

theorem simulate_output_sampleRequest :
    sampleRequest.arguments = .ok ["--json", "simulate", "--from", "0x11", "--to", "0x22",
      "--value", "0.0000000000000015", "--data", "0x", "--gas", "21000"] ∧
    let before := [Text.utf8Encode stepText, [13]]
    (∀ l ∈ before, (saying l).isTerminal = false) ∧
    (saying (Text.utf8Encode resultText)).isResult = true ∧
    ∃ record seconds, sampleEngine.simulate sampleRequest
      (.wrote (Text.utf8Encode (stepText ++ "\n\r\n" ++ resultText ++ "\nx")) (.exited 3)) =
        .ok ⟨record, seconds, 1⟩ := by
  have harguments : sampleRequest.arguments = .ok ["--json", "simulate", "--from", "0x11", "--to",
      "0x22", "--value", "0.0000000000000015", "--data", "0x", "--gas", "21000"] := by
    decide +kernel
  have hbefore : ∀ l ∈ [Text.utf8Encode stepText, [13]], (saying l).isTerminal = false := by
    decide +kernel
  have hlines : splitLines (Text.utf8Encode (stepText ++ "\n\r\n" ++ resultText ++ "\nx")) =
      [Text.utf8Encode stepText, [13]] ++ Text.utf8Encode resultText :: [[120]] := by
    decide +kernel
  have hresult : (saying (Text.utf8Encode resultText)).isResult = true := by decide +kernel
  obtain ⟨record, seconds, hsaying⟩ := Saying.exists_of_isResult hresult
  have hsteps : [Text.utf8Encode stepText, [13]].countP (fun l => (saying l).isStep) = 1 := by
    decide +kernel
  have hanswer := ((simulate_output sampleEngine sampleRequest _ harguments).1 _ (.exited 3) _ _ _
    hlines hbefore (Saying.isTerminal_of_isResult hresult)).2.1 record seconds hsaying
  rw [hsteps] at hanswer
  exact ⟨harguments, hbefore, hresult, record, seconds, hanswer⟩

def farText : String := "\x7b\"type\":\"note\",\"at\":1e400\x7d"

/-- An object of another kind whose number is out of range does end the exchange. -/
theorem simulate_farNumber :
    (Doc.only farText).kind? = some "note" ∧ (Doc.only farText).isWhole = true ∧
    Text.utf8Decode? (Text.utf8Encode farText) = some farText ∧
    splitLines (Text.utf8Encode resultText) = [Text.utf8Encode resultText] ∧
    splitLines (Text.utf8Encode (farText ++ "\n" ++ resultText)) =
      [Text.utf8Encode farText, Text.utf8Encode resultText] ∧
    (sampleEngine.simulate sampleRequest
      (.wrote (Text.utf8Encode resultText) (.exited 0))).toOption.isSome = true ∧
    (sampleEngine.simulate sampleRequest
      (.wrote (Text.utf8Encode (farText ++ "\n" ++ resultText)) (.exited 0))).toOption.isSome =
        false := by
  decide +kernel

end Engine

end MempoolGate.Simulation
