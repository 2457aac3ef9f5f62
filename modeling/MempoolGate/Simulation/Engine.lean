import MempoolGate.Simulation.Request
import MempoolGate.Text.Blank
import MempoolGate.Text.Quoted
import MempoolGate.Text.Utf8

namespace MempoolGate.Simulation

open Json

inductive Line
  | step
  | result (record : Value) (seconds : Option Binary64)
  | failure (message : String)
  | other
deriving Repr

namespace Line

def stepFields : Fields Line :=
  (fun _ => Line.step) <$> Fields.optional "step" .word

def resultFields : Fields Line :=
  Line.result <$> .required "record" .any <*> .optional "execution_time_s" .real

def failureFields : Fields Line :=
  Line.failure <$> .required "message" .text

/-- A line of a kind that has no fields: an array holds nothing but the kind. -/
def readOther : Tagged → Except Fault Line
  | .members _ => .ok .other
  | .items .done => .ok .other
  | .items _ => .error .unfit

def parse (s : String) : Except Fault Line := do
  let (kind, rest) ← (Doc.only s).tagged
  if kind = "step" then stepFields.readTagged rest
  else if kind = "result" then resultFields.readTagged rest
  else if kind = "error" then failureFields.readTagged rest
  else readOther rest

end Line

inductive Ending
  | exited (status : Nat)
  | killed (signal : Nat)
  | hangs
deriving DecidableEq, Repr

def signalNames : List (Nat × String) :=
  [(1, "SIGHUP"), (2, "SIGINT"), (3, "SIGQUIT"), (4, "SIGILL"), (5, "SIGTRAP"), (6, "SIGABRT"),
   (7, "SIGBUS"), (8, "SIGFPE"), (9, "SIGKILL"), (10, "SIGUSR1"), (11, "SIGSEGV"),
   (12, "SIGUSR2"), (13, "SIGPIPE"), (14, "SIGALRM"), (15, "SIGTERM"), (16, "SIGSTKFLT"),
   (17, "SIGCHLD"), (18, "SIGCONT"), (19, "SIGSTOP"), (20, "SIGTSTP"), (21, "SIGTTIN"),
   (22, "SIGTTOU"), (23, "SIGURG"), (24, "SIGXCPU"), (25, "SIGXFSZ"), (26, "SIGVTALRM"),
   (27, "SIGPROF"), (28, "SIGWINCH"), (29, "SIGIO"), (30, "SIGPWR"), (31, "SIGSYS")]

def failed (message : String) : GatewayError :=
  { code := .simulationFailed, message := message }

/-- The end of an engine that sends itself a signal before it would exit: one only stops it, and some
it does not notice. -/
def Ending.ofSignal (signal status : Nat) : Ending :=
  if signal = 19 then .hangs
  else if signal = 0 ∨ 64 < signal ∨ [17, 18, 20, 21, 22, 23, 28].contains signal then
    .exited status
  else .killed signal

/-- The failure of an engine that ends without a result; time runs out on one that hangs. An exit
status is one byte. -/
def Ending.toError (timeoutSecs : Nat) : Ending → GatewayError
  | exited status =>
    if status % 256 = 0 then failed "Engine exited without a result"
    else failed ("Engine exited with exit status: " ++ Text.decimal (status % 256))
  | killed signal =>
    let name := match signalNames.lookup signal with
      | some name => " (" ++ name ++ ")"
      | none => ""
    failed ("Engine exited with signal: " ++ Text.decimal signal ++ name)
  | hangs =>
    { code := .simulationTimeout
      message := "Simulation exceeded " ++ Text.decimal timeoutSecs ++ "s" }

def splitLines (bytes : List UInt8) : List (List UInt8) :=
  let lines := bytes.splitOn 10
  if lines.getLast? = some [] then lines.dropLast else lines

/-- The answer to the lines that are still to be read, after some steps. -/
def answer (ending : GatewayError) (steps : Nat) :
    List (List UInt8) → Except GatewayError Outcome
  | [] => .error ending
  | bytes :: rest =>
    match Text.utf8Decode? bytes with
    | none => .error { failed "Failed to read engine output" with hasCause := true }
    | some raw =>
      match Text.trimmed? raw with
      | none => answer ending steps rest
      | some text =>
        match Line.parse text with
        | .error _ => .error (failed "Engine produced non-JSON output")
        | .ok .step => answer ending (steps + 1) rest
        | .ok .other => answer ending steps rest
        | .ok (.failure message) => .error (failed message)
        | .ok (.result record seconds) => .ok ⟨record, seconds, steps⟩

inductive Run
  | missing
  | wrote (output : List UInt8) (ending : Ending)
deriving Repr

structure Engine where
  program : String
  arguments : List String
  timeoutSecs : Nat
deriving DecidableEq, Repr

namespace Engine

def ofCommand (command : String) (timeoutSecs : Nat) : Except GatewayError Engine :=
  match Text.words command with
  | program :: arguments => .ok ⟨program, arguments, timeoutSecs⟩
  | [] => .error { code := .configInvalidValue, message := "SIMULATION_COMMAND is empty" }

def describe (e : Engine) : String :=
  "ProcessSimulationBridge \x7b program: " ++ Text.quoted e.program ++ ", args: [" ++
    ", ".intercalate (e.arguments.map Text.quoted) ++ "], timeout: " ++
    Text.decimal e.timeoutSecs ++ "s \x7d"

/-- The outcome of a request, when a started engine behaves as `run` says. -/
def simulate (e : Engine) (request : Request) (run : Run) : Except GatewayError Outcome := do
  -- a request that has no arguments fails before anything is started
  let _ ← request.arguments
  match run with
  | .missing => throw { failed ("Failed to start " ++ e.program) with hasCause := true }
  | .wrote output ending => answer (ending.toError e.timeoutSecs) 0 (splitLines output)

end Engine

end MempoolGate.Simulation
