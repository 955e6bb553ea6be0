import CompileDriver.Proofs.Action
import CompileDriver.Host.StandardStream
import Mathlib.Data.List.Induction

/-!
# Where records go

A logger with streams in memory, over any sequence of calls.  What the calls mean is read off
their sequence alone: a route leads to the stream that it was first attached to, the threshold is
the one that was set last, where an installation sets it only when the process has no logger yet,
and a record is a line of a stream when both let it through at that time.

The main result says that the streams hold exactly these lines.
-/

namespace CompileDriver.Logger

/-- A call on a logger whose streams are in memory, each with its number. -/
inductive Call
  /-- Attach the route of the ordinary records. -/
  | setOutput (stream : Nat)
  /-- Attach the route of the error records. -/
  | setError (stream : Nat)
  /-- Attach the routes that are not attached yet, and become the logger of the process. -/
  | install (output error : Nat) (threshold : Threshold)
  | setThreshold (threshold : Threshold)
  | flush
  | log (level : Level) (message : String)
  deriving Repr, DecidableEq

/-- Make a call: whether it is accepted, and the logger afterwards. -/
def perform (logger : Logger) : Call → Action (Bool × Logger)
  | .setOutput stream =>
      return (logger.output.isNone, logger.attachOutput (.buffer stream))
  | .setError stream =>
      return (logger.error.isNone, logger.attachError (.buffer stream))
  | .install output error threshold =>
      logger.install (.buffer output) (.buffer error) threshold
  | .setThreshold threshold => do
      Log.setThreshold threshold
      return (true, logger)
  | .flush => do
      logger.flush
      return (true, logger)
  | .log level message => do
      logger.log level message
      return (true, logger)

/-- Make some calls, one after the other: the logger afterwards. -/
def performAll (logger : Logger) : List Call → Action Logger
  | [] => return logger
  | call :: rest => do
      let (_, logger) ← logger.perform call
      logger.performAll rest

/-! ## What a sequence of calls means -/

namespace Call

/-- Where the call wants ordinary records to go. -/
def output? : Call → Option Nat
  | .setOutput stream => some stream
  | .install output _ _ => some output
  | _ => none

/-- Where the call wants error records to go. -/
def error? : Call → Option Nat
  | .setError stream => some stream
  | .install _ error _ => some error
  | _ => none

/-- Whether the call is an installation. -/
def isInstall : Call → Bool
  | .install .. => true
  | _ => false

/-- The stream that the records of a level go to after some calls: the first one that the route
of the level was attached to. -/
def routed (calls : List Call) : Level → Option Nat
  | .error => calls.findSome? error?
  | _ => calls.findSome? output?

/-- Whether a process has a logger after some calls. -/
def hasLogger (start : Host) (calls : List Call) : Bool :=
  start.logger.isSome || calls.any isInstall

/-- The threshold that a call sets after some others. -/
def threshold? (start : Host) (earlier : List Call) : Call → Option Threshold
  | .setThreshold threshold => some threshold
  | .install _ _ threshold => if hasLogger start earlier then none else some threshold
  | _ => none

/-- What some calls contribute, each of them after those before it. -/
def contributions {α : Type} (contribution : List Call → Call → Option α) (earlier : List Call) :
    List Call → List α
  | [] => []
  | call :: rest =>
      (contribution earlier call).toList ++ contributions contribution (earlier ++ [call]) rest

/-- The threshold after some calls: the one that was set last. -/
def thresholdAfter (start : Host) (calls : List Call) : Threshold :=
  (contributions (threshold? start) [] calls).getLast?.getD start.threshold

/-- The line of a record: the name of its level, set off by a colour and in bold, and the
message. -/
def recordLine (level : Level) (message : String) : String :=
  "\x1b[" ++ colour level ++ ";1m\x1b[1m" ++ level.name ++ "\x1b[0m: " ++ message ++ "\n"
where
  /-- The number of a colour. -/
  colour : Level → String
    | .error => "31"
    | .warn => "33"
    | .info => "34"
    | .debug => "34"
    | .trace => "35"

/-- The line that a call adds to a stream, with a threshold and the streams that records of each
level go to: it is that of a record that is enabled and goes there. -/
def line? (threshold : Threshold) (target : Level → Option Nat) (stream : Nat) :
    Call → Option String
  | .log level message =>
      if threshold.admits level = true ∧ target level = some stream then
        some (recordLine level message)
      else none
  | _ => none

/-- The lines that some calls add to a stream, in their order. -/
def lines (start : Host) (stream : Nat) (calls : List Call) : List String :=
  contributions (fun earlier => line? (thresholdAfter start earlier) (routed earlier) stream) []
    calls

/-- Whether a call is accepted after some others: a route is attached only once, and a logger is
installed only in a process that has none. -/
def accepted (start : Host) (earlier : List Call) : Call → Bool
  | .setOutput _ => (earlier.findSome? output?).isNone
  | .setError _ => (earlier.findSome? error?).isNone
  | .install .. => !hasLogger start earlier
  | _ => true

theorem contributions_append {α : Type} (contribution : List Call → Call → Option α)
    (earlier first rest : List Call) :
    contributions contribution earlier (first ++ rest) =
      contributions contribution earlier first ++
        contributions contribution (earlier ++ first) rest := by
  induction first generalizing earlier with
  | nil => simp [contributions]
  | cons call first ih => simp [contributions, ih]

theorem contributions_concat {α : Type} (contribution : List Call → Call → Option α)
    (calls : List Call) (call : Call) :
    contributions contribution [] (calls ++ [call]) =
      contributions contribution [] calls ++ (contribution calls call).toList := by
  simp [contributions_append, contributions]

theorem lines_concat (start : Host) (stream : Nat) (calls : List Call) (call : Call) :
    lines start stream (calls ++ [call]) =
      lines start stream calls ++
        (line? (thresholdAfter start calls) (routed calls) stream call).toList :=
  contributions_concat _ calls call

theorem thresholdAfter_concat (start : Host) (calls : List Call) (call : Call) :
    thresholdAfter start (calls ++ [call]) =
      (threshold? start calls call).getD (thresholdAfter start calls) := by
  unfold thresholdAfter
  rw [contributions_concat]
  cases threshold? start calls call <;> simp

theorem line_eq (level : Level) (message : String) :
    level.line message = recordLine level message := by
  cases level <;> rfl

theorem routed_concat (calls : List Call) (call : Call) (level : Level) :
    routed (calls ++ [call]) level = (routed calls level).or (routed [call] level) := by
  cases level <;> exact List.findSome?_append

theorem hasLogger_nil (host : Host) : hasLogger host [] = host.logger.isSome := by
  simp [hasLogger]

/-- An installation leaves no route unattached. -/
theorem routed_isSome_of_install {calls : List Call} (installs : calls.any isInstall = true)
    (level : Level) : (routed calls level).isSome = true := by
  obtain ⟨call, member, isInstall⟩ := List.any_eq_true.mp installs
  cases call with
  | install output error threshold =>
      cases level <;> exact List.findSome?_isSome_iff.mpr ⟨_, member, rfl⟩
  | _ => cases isInstall

end Call

open Call

/-! ## One call -/

theorem ext_route {first second : Logger} (same : ∀ level, first.route level = second.route level) :
    first = second := by
  have output := same .info
  have error := same .error
  cases first
  cases second
  simp_all [route]

section

variable (host : Host) {logger : Logger} {target : Level → Option Nat}

theorem install_apply (logger : Logger) (output error : Output) (threshold : Threshold) :
    logger.install output error threshold host =
      ((host.logger.isNone, (logger.attachOutput output).attachError error),
        if host.logger.isSome then host
        else
          { host with
            logger := some ((logger.attachOutput output).attachError error)
            threshold }) := by
  unfold install
  rw [Action.bind_apply, Action.get_apply]
  dsimp only
  cases host.logger <;> rfl

/-- A record is noted when its level is enabled, and is added to the stream that it goes to. -/
theorem log_apply (routes : ∀ level, logger.route level = (target level).map .buffer)
    (level : Level) (message : String) :
    (logger.log level message host).2 =
      if host.threshold.admits level then
        match target level with
        | some stream =>
            { host.note (.logRecord level message) with
              buffers := host.buffers.modify stream (· ++ Bytes.ofText (level.line message)) }
        | none => host.note (.logRecord level message)
      else host := by
  rw [log, Action.bind_apply, Action.get_apply]
  dsimp only
  rw [routes level]
  cases host.threshold.admits level with
  | false => rfl
  | true => cases target level <;> rfl

/-- A call attaches the routes that it names and that are not attached yet. -/
theorem route_perform (logger : Logger) (call : Call) (level : Level) :
    (logger.perform call host).1.2.route level =
      (logger.route level).or ((routed [call] level).map .buffer) := by
  cases call with
  | setOutput | setError =>
      cases level <;> simp [perform, attachOutput, attachError, route, routed, output?, error?]
  | install output error threshold =>
      rw [perform, install_apply]
      cases level <;> simp [attachOutput, attachError, route, routed, output?, error?]
  | setThreshold | flush | log =>
      cases level <;> simp [perform, route, routed, output?, error?]

/-- What a call makes of the process, with the streams that records of each level go to. -/
structure Makes (logger : Logger) (target : Level → Option Nat) (call : Call)
    (before after : Host) : Prop where
  threshold : after.threshold = (threshold? before [] call).getD before.threshold
  logger : after.logger =
    before.logger.or (if call.isInstall then some (logger.perform call before).1.2 else none)
  contents : ∀ stream, after.buffers[stream]? =
    before.buffers[stream]?.map
      (· ++ (line? before.threshold target stream call).toList.flatMap Bytes.ofText)
  rest : after =
    { before with
      threshold := after.threshold
      logger := after.logger
      buffers := after.buffers
      journal := after.journal }

theorem makes_perform (routes : ∀ level, logger.route level = (target level).map .buffer)
    (call : Call) : Makes logger target call host (logger.perform call host).2 := by
  cases call with
  | setOutput | setError | setThreshold | flush =>
      refine ⟨rfl, (Option.or_none ..).symm, fun stream => ?_, rfl⟩
      simp only [line?, Option.toList_none, List.flatMap_nil, List.append_nil, Option.map_id']
      rfl
  | install output error threshold =>
      rw [perform, install_apply]
      cases known : host.logger with
      | none =>
          refine ⟨?_, ?_, fun stream => ?_, rfl⟩
          · simp [threshold?, hasLogger_nil, known]
          · simp [isInstall, perform, install_apply, known]
          · simp [line?]
      | some installed =>
          refine ⟨?_, ?_, fun stream => ?_, rfl⟩
          · simp [threshold?, hasLogger_nil, known]
          · simp [known]
          · simp [line?]
  | log level message =>
      have done : (logger.perform (.log level message) host).2 =
          (logger.log level message host).2 := rfl
      rw [done, log_apply host routes]
      by_cases admits : host.threshold.admits level = true
      · rw [if_pos admits]
        cases leads : target level with
        | none =>
            refine ⟨rfl, (Option.or_none ..).symm, fun stream => ?_, rfl⟩
            simp [line?, leads, Host.note]
        | some goal =>
            refine ⟨rfl, (Option.or_none ..).symm, fun stream => ?_, rfl⟩
            simp only [line?, leads, admits, line_eq, List.getElem?_modify]
            by_cases here : goal = stream <;> simp [here]
      · rw [if_neg admits]
        refine ⟨rfl, (Option.or_none ..).symm, fun stream => ?_, rfl⟩
        simp [line?, admits]

end

/-! ## All calls -/

/-- A logger and its process are as some calls have left them. -/
structure LeftBy (calls : List Call) (start : Host) (logger : Logger) (host : Host) : Prop where
  /-- Each stream holds, behind what it held at the start, the lines of its records. -/
  contents : ∀ stream, host.buffers[stream]? =
    start.buffers[stream]?.map (· ++ (lines start stream calls).flatMap Bytes.ofText)
  /-- Each route leads to the stream that it was first attached to. -/
  routes : ∀ level, logger.route level = (routed calls level).map .buffer
  threshold : host.threshold = thresholdAfter start calls
  /-- The logger is that of the process if one of the calls has installed it. -/
  installed : host.logger =
    start.logger.or (if calls.any isInstall then some logger else none)
  /-- A further call is accepted or refused. -/
  accepts : ∀ call, (logger.perform call host).1.1 = accepted start calls call
  /-- Records go nowhere else. -/
  rest : host =
    { start with
      threshold := host.threshold
      logger := host.logger
      buffers := host.buffers
      journal := host.journal }

section

variable {calls : List Call} {start host : Host} {logger : Logger}

theorem hasLogger_of_installed
    (installed : host.logger =
      start.logger.or (if calls.any isInstall then some logger else none)) :
    host.logger.isSome = hasLogger start calls := by
  rw [installed, hasLogger, Option.isSome_or]
  split <;> simp_all

theorem accepts_of_routes (routes : ∀ level, logger.route level = (routed calls level).map .buffer)
    (installed : host.logger = start.logger.or (if calls.any isInstall then some logger else none))
    (call : Call) : (logger.perform call host).1.1 = accepted start calls call := by
  cases call with
  | setOutput stream =>
      have output : logger.output = (calls.findSome? output?).map .buffer := routes .info
      change logger.output.isNone = (calls.findSome? output?).isNone
      rw [output, Option.isNone_map]
  | setError stream =>
      have error : logger.error = (calls.findSome? error?).map .buffer := routes .error
      change logger.error.isNone = (calls.findSome? error?).isNone
      rw [error, Option.isNone_map]
  | install output error threshold =>
      rw [perform, install_apply, accepted, ← hasLogger_of_installed installed]
      cases host.logger <;> rfl
  | setThreshold | flush | log => rfl

theorem leftBy_nil (start : Host) : LeftBy [] start {} start where
  contents stream := by simp [lines, contributions]
  routes level := by cases level <;> rfl
  threshold := rfl
  installed := by simp
  accepts call := by
    cases call with
    | install output error threshold =>
        rw [perform, install_apply, accepted, hasLogger_nil]
        cases start.logger <;> rfl
    | setOutput | setError | setThreshold | flush | log => rfl
  rest := rfl

/-- No call changes a logger that has been installed, whose routes are all attached. -/
theorem perform_installed (routes : ∀ level, logger.route level = (routed calls level).map .buffer)
    (installs : calls.any isInstall = true) (call : Call) :
    (logger.perform call host).1.2 = logger := by
  refine ext_route fun level => ?_
  have attached : (logger.route level).isSome = true := by
    rw [routes, Option.isSome_map]
    exact routed_isSome_of_install installs level
  rw [route_perform, Option.or_of_isSome attached]

/-- A further call leaves the logger and its process as all calls together do. -/
theorem LeftBy.further (left : LeftBy calls start logger host) (call : Call) :
    LeftBy (calls ++ [call]) start (logger.perform call host).1.2
      (logger.perform call host).2 := by
  have makes := makes_perform host left.routes call
  have has : hasLogger host [] = hasLogger start calls := by
    rw [hasLogger_nil, hasLogger_of_installed left.installed]
  have routes (level : Level) : (logger.perform call host).1.2.route level =
      (routed (calls ++ [call]) level).map .buffer := by
    rw [route_perform, left.routes, routed_concat, Option.map_or]
  have installed : (logger.perform call host).2.logger = start.logger.or
      (if (calls ++ [call]).any isInstall then some (logger.perform call host).1.2 else none) := by
    rw [makes.logger, left.installed, Option.or_assoc, List.any_append, List.any_cons,
      List.any_nil, Bool.or_false]
    cases installs : calls.any isInstall with
    | true => simp [perform_installed left.routes installs]
    | false => simp
  refine ⟨fun stream => ?_, routes, ?_, installed, accepts_of_routes routes installed, ?_⟩
  · rw [makes.contents, left.contents, lines_concat, List.flatMap_append, Option.map_map,
      left.threshold]
    simp [Function.comp_def]
  · have sets : threshold? host [] call = threshold? start calls call := by
      cases call <;> simp only [threshold?, has]
    rw [makes.threshold, sets, left.threshold, thresholdAfter_concat]
  · rw [makes.rest, left.rest]

/-- Some further calls leave the logger and its process as all calls together do. -/
theorem LeftBy.run (left : LeftBy calls start logger host) (further : List Call) :
    LeftBy (calls ++ further) start (logger.performAll further host).1
      (logger.performAll further host).2 := by
  induction further generalizing calls logger host with
  | nil =>
      rw [List.append_nil]
      exact left
  | cons call further ih =>
      rw [performAll, Action.bind_apply, List.append_cons]
      exact ih (left.further call)

end

/-- Every record is routed once, by its level and the first attachment of its route. -/
theorem records_are_routed_once (start : Host) (calls : List Call) :
    LeftBy calls start (({} : Logger).performAll calls start).1
      (({} : Logger).performAll calls start).2 :=
  (leftBy_nil start).run calls

/-- An error record is lost for good when it comes before its route is attached, although the
other route leads to the same stream. -/
example (start : Host) :
    lines { start with threshold := some .warn } 0
        [.setOutput 0, .log .error "early", .setError 0, .log .error "late", .log .info "off"] =
      ["\x1b[31;1m\x1b[1merror\x1b[0m: late\n"] := by
  rfl

end CompileDriver.Logger
