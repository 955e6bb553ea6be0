import CompileDriver.Proofs.Driver.Disciplined
import CompileDriver.Proofs.Driver.Texts
import CompileDriver.Proofs.Toolchain.Rehearsal

/-!
# Requests do not depend on history

A driver that has served requests differs from a fresh one in the times that it has recorded,
which no request looks at, and the requests have put the descriptors back.  So the next
request does what it would do with a fresh driver, on the same host and on every host that a
request cannot tell from it.

A result has the texts that were captured, and these also depend on what the hosts hold back.
On another host they are the same as long as both hosts can pass that on.
-/

namespace CompileDriver

variable {σ τ : Type} {leaks : Nat → Prop} {owns : σ → Nat → Prop}

namespace Driver

/-! ## What is restored -/

namespace Restored

variable {first second third before after : Host}

theorem refl (host : Host) : Restored leaks host host :=
  ⟨fun _ => rfl, fun _ _ => rfl, fun _ isFree used => absurd isFree used, List.Subset.refl _⟩

theorem trans (start : Restored leaks first second) (rest : Restored leaks second third) :
    Restored leaks first third where
  streams stream := (rest.streams stream).trans (start.streams stream)
  kept number wasOpen := by
    have kept := start.kept number wasOpen
    exact (rest.kept number (kept.symm ▸ wasOpen)).trans kept
  closed number wasFree used := by
    by_cases isFree : second.opened number = none
    · exact rest.closed number isFree used
    · exact start.closed number wasFree isFree
  threads := List.Subset.trans rest.threads start.threads

/-- Without leaks the descriptors are as before. -/
theorem opened (restored : Restored leaks before after) (leakless : ∀ number, ¬ leaks number) :
    after.opened = before.opened := by
  funext number
  by_cases wasFree : before.opened number = none
  · rw [wasFree]
    exact by_contra fun used => leakless number (restored.closed number wasFree used)
  · exact restored.kept number wasFree

/-- A host that has grown older and on which everything was put back is fit. -/
theorem fit (restored : Restored leaks before after) (leakless : ∀ number, ¬ leaks number)
    (aged : aging.allows before after) (fit : before.Fit) : after.Fit where
  wellFormed := fit.wellFormed.of_shows ⟨restored.opened leakless, restored.threads⟩ aged.1
  reads := fit.reads.later aged.2

theorem ready (restored : Restored leaks before after) (leakless : ∀ number, ¬ leaks number)
    (aged : aging.allows before after) (ready : before.Ready) : after.Ready where
  toFit := restored.fit leakless aged ready.toFit
  isOpen stream := (restored.streams stream).symm ▸ ready.isOpen stream
  accepts := DescriptorTable.accepts_kept ready.accepts (ready.isOpen .stdout) restored.kept

end Restored

/-- A request restores the descriptors unless the process exits. -/
theorem serve_restores {driver : Driver σ} (tidy : driver.toolchain.Tidy owns leaks)
    (request : Request) {host : Host}
    (ended : ∀ code, (driver.serve request host).1.1 ≠ .exited code) :
    Restored leaks host (driver.serve request host).2 := by
  cases request with
  | run settings arguments =>
      exact (requests_restore_streams driver tidy settings host).1 arguments ended
  | build settings output =>
      exact (requests_restore_streams driver tidy settings host).2 output ended

/-! ## Histories -/

/-- A request only changes the times that the driver has recorded. -/
theorem serve_driver (driver : Driver σ) (request : Request) (host : Host) :
    ∃ timings, (driver.serve request host).1.2 = { driver with timings } := by
  cases request with
  | run settings arguments =>
      simp only [serve, run, Action.bind_apply]
      cases (create driver.toolchain settings
        (Suppressor.engage .stderr settings.quiet host).2).1 with
      | error panic => exact ⟨_, rfl⟩
      | ok session =>
          simp only [Action.bind_apply]
          rcases prepare driver.toolchain settings session _ with
            ⟨⟨_ | error | panic, session, timings⟩, later⟩
          all_goals exact ⟨_, rfl⟩
  | build settings output =>
      simp only [serve, build, Action.bind_apply]
      cases (create driver.toolchain settings
        (Suppressor.engage .stderr settings.quiet host).2).1 with
      | error panic => exact ⟨_, rfl⟩
      | ok session =>
          simp only [Action.bind_apply]
          rcases driver.link settings output session _ with
            ⟨⟨_ | error | panic, session, timings⟩, later⟩
          all_goals exact ⟨_, rfl⟩

theorem serve_toolchain (driver : Driver σ) (request : Request) (host : Host) :
    (driver.serve request host).1.2.toolchain = driver.toolchain := by
  obtain ⟨recorded, served⟩ := driver.serve_driver request host
  rw [served]

/-- Nor does a request look at them. -/
theorem serve_timings (driver : Driver σ) (timings : Timings) (request : Request) :
    ({ driver with timings } : Driver σ).serve request = driver.serve request := by
  cases request <;> rfl

/-- Serve requests one after the other: how each of them ended, and the driver after them.  The
caller catches the panics that unwind them. -/
def serveAll (driver : Driver σ) :
    List Request → Action (List (Ending BuildResult) × Driver σ)
  | [] => return ([], driver)
  | request :: rest => do
      let (ending, later) ← driver.serve request
      let (endings, last) ← later.serveAll rest
      return (ending :: endings, last)

/-- What has been served only shows in the times that are recorded. -/
theorem serveAll_driver (driver : Driver σ) (requests : List Request) (host : Host) :
    ∃ timings, (driver.serveAll requests host).1.2 = { driver with timings } := by
  induction requests generalizing driver host with
  | nil => exact ⟨driver.timings, rfl⟩
  | cons request rest ih =>
      obtain ⟨recorded, served⟩ := driver.serve_driver request host
      obtain ⟨timings, last⟩ :=
        ih (driver.serve request host).1.2 (driver.serve request host).2
      refine ⟨timings, last.trans ?_⟩
      rw [served]

theorem serveAll_toolchain (driver : Driver σ) (requests : List Request) (host : Host) :
    (driver.serveAll requests host).1.2.toolchain = driver.toolchain := by
  obtain ⟨timings, last⟩ := driver.serveAll_driver requests host
  rw [last]

/-- Requests of which none ends the process restore the descriptors. -/
theorem serveAll_restores {driver : Driver σ} (tidy : driver.toolchain.Tidy owns leaks)
    (requests : List Request) {host : Host}
    (ended : ∀ ending ∈ (driver.serveAll requests host).1.1, ∀ code, ending ≠ .exited code) :
    Restored leaks host (driver.serveAll requests host).2 := by
  induction requests generalizing driver host with
  | nil => exact .refl host
  | cons request rest ih =>
      have same := driver.serve_toolchain request host
      have first := serve_restores tidy request (ended _ List.mem_cons_self)
      exact first.trans (ih (same ▸ tidy) fun ending member =>
        ended ending (List.mem_cons_of_mem _ member))

theorem serveAll_ages {driver : Driver σ} (accountable : driver.toolchain.Accountable owns)
    (requests : List Request) (host : Host) :
    aging.allows host (driver.serveAll requests host).2 := by
  induction requests generalizing driver host with
  | nil => exact aging.refl host
  | cons request rest ih =>
      have same := driver.serve_toolchain request host
      have first := (accountable.aging.serve request host trivial).1
      exact aging.trans first (ih (same ▸ accountable) _)

/-! ## The next request -/

/-- What a driver that has served requests does next, compared with another one that serves
the request on a host there: everything that can be told of a request. -/
structure DoesAlike (world : Host → Host → Prop) (later : Driver σ) (twin : Driver τ)
    (request : Request) (here there : Host) : Prop where
  /-- The same calls are made, see the same and are answered in the same way. -/
  sightings : (later.serve request here).2.sightingsSince here =
    (twin.serve request there).2.sightingsSince there
  /-- The requests end in the same way, but for the texts that are captured. -/
  silenced : silenced (later.serve request here).1.1 = silenced (twin.serve request there).1.1
  /-- The same phases are recorded. -/
  phases : (later.serve request here).1.2.timings.names =
    (twin.serve request there).1.2.timings.names
  /-- The descriptors look the same afterwards, and so does the rest. -/
  akin : Host.Akin world (later.serve request here).2 (twin.serve request there).2
  /-- The endings are the same, texts and all, as long as a program that is run finds hosts
  that are ready for captures. -/
  ending : (∀ settings arguments, request = .run settings arguments → here.Ready ∧ there.Ready) →
    (later.serve request here).1.1 = (twin.serve request there).1.1

/-- What is left on the host `last` of requests that a driver has served since the host `start`,
and what the driver that is left makes of it. -/
structure Forgets (leaks : Nat → Prop) (driver later : Driver σ) (start last : Host) : Prop where
  /-- The next request does what it does with a driver that has recorded nothing. -/
  fresh : ∀ (request : Request) (host : Host),
    later.serve request host = ({ driver with timings := {} } : Driver σ).serve request host
  restored : Restored leaks start last
  ready : (∀ number, ¬ leaks number) → start.Ready → last.Ready
  /-- What is captured by the next request was written while its own program ran. -/
  own : ∀ {settings : Settings} (arguments : List String) {session timings prepared},
    last.Ready → later.preparing settings last = (.ok (session, timings), prepared) →
      later.Captures prepared → later.Conveys settings arguments last session prepared

theorem serveAll_forgets {driver : Driver σ} (tidy : driver.toolchain.Tidy owns leaks)
    (accountable : driver.toolchain.Accountable owns) {earlier : List Request} {start : Host}
    (ended : ∀ ending ∈ (driver.serveAll earlier start).1.1, ∀ code, ending ≠ .exited code) :
    Forgets leaks driver (driver.serveAll earlier start).1.2 start
      (driver.serveAll earlier start).2 := by
  have restored := serveAll_restores tidy earlier ended
  obtain ⟨recorded, isLater⟩ := driver.serveAll_driver earlier start
  have toolchain := driver.serveAll_toolchain earlier start
  refine ⟨fun request host => ?_, restored, fun leakless ready => ?_, ?_⟩
  · rw [isLater]
    exact congrFun ((driver.serve_timings recorded request).trans
      (driver.serve_timings {} request).symm) host
  · exact restored.ready leakless (serveAll_ages accountable earlier start) ready
  · intro settings arguments session timings prepared ready succeeded captures
    exact conveys_of_captures (toolchain ▸ tidy) (toolchain ▸ accountable) arguments ready
      succeeded captures

section

variable {world : Host → Host → Prop} (enduring : Host.Enduring world) {same : σ → τ → Prop}
  {driver : Driver σ} {twin : Driver τ}
  (behaves : driver.toolchain.BehavesLike twin.toolchain world same)
  (discreet : driver.toolchain.Discreet) (discreetTwin : twin.toolchain.Discreet)
  (sameCapturing : driver.capturing = twin.capturing)
  (sameNonblocking : driver.nonblocking = twin.nonblocking)
  {leaksTwin : Nat → Prop} {ownsTwin : τ → Nat → Prop}
  (tidy : driver.toolchain.Tidy owns leaks) (tidyTwin : twin.toolchain.Tidy ownsTwin leaksTwin)
  (accountable : driver.toolchain.Accountable owns)
  (accountableTwin : twin.toolchain.Accountable ownsTwin)

include enduring behaves discreet discreetTwin sameCapturing sameNonblocking tidy tidyTwin
  accountable accountableTwin

/-- The same request of drivers whose toolchains behave alike. -/
theorem doesAlike (request : Request) {here there : Host} (akin : Host.Akin world here there) :
    DoesAlike world driver twin request here there := by
  have paired := Host.Paired.initially akin
  cases request with
  | run settings arguments =>
      obtain ⟨after, endsLike⟩ := Abreast.run enduring behaves discreet discreetTwin sameCapturing
        sameNonblocking settings arguments here there paired
      refine ⟨after.sightings, endsLike.ending, endsLike.names, after.akin, fun sound => ?_⟩
      obtain ⟨ready, readyTwin⟩ := sound settings arguments rfl
      exact runs_end_alike enduring behaves discreet discreetTwin sameCapturing sameNonblocking
        tidy tidyTwin accountable accountableTwin akin ready readyTwin settings arguments
  | build settings output =>
      obtain ⟨after, sameEnding, names⟩ := Abreast.build enduring behaves discreet discreetTwin
        settings output here there paired
      exact ⟨after.sightings, congrArg silenced sameEnding, names, after.akin,
        fun _ => sameEnding⟩

/-- Requests do not depend on history.  Whatever requests a driver has served before, and
however they ended short of ending the process, it has forgotten them: its next request is
that of a fresh driver, and does the same as that of any driver whose toolchain behaves alike,
on every host that a request cannot tell from the one that is left. -/
theorem requests_are_independent {earlier : List Request} {start : Host}
    (ended : ∀ ending ∈ (driver.serveAll earlier start).1.1, ∀ code, ending ≠ .exited code) :
    Forgets leaks driver (driver.serveAll earlier start).1.2 start
        (driver.serveAll earlier start).2 ∧
      ∀ (request : Request) (other : Host),
        Host.Akin world (driver.serveAll earlier start).2 other →
          DoesAlike world (driver.serveAll earlier start).1.2 twin request
            (driver.serveAll earlier start).2 other := by
  refine ⟨serveAll_forgets tidy accountable ended, fun request other akin => ?_⟩
  obtain ⟨recorded, isLater⟩ := driver.serveAll_driver earlier start
  have toolchain := driver.serveAll_toolchain earlier start
  have capturing : (driver.serveAll earlier start).1.2.capturing = twin.capturing := by
    rw [isLater, sameCapturing]
  have nonblocking : (driver.serveAll earlier start).1.2.nonblocking = twin.nonblocking := by
    rw [isLater, sameNonblocking]
  exact doesAlike enduring (toolchain ▸ behaves) (toolchain ▸ discreet) discreetTwin capturing
    nonblocking (toolchain ▸ tidy) tidyTwin (toolchain ▸ accountable) accountableTwin request akin

end

/-- A script with a plugin that cannot be loaded, a program that writes to both streams, and a
panic when it is linked. -/
def brittleScript : ToolchainScript :=
  { plugin :=
      { only := some (SessionCall.plugin "absent").describe
        failure := some { kind := .plugin, rendered := "no such plugin" } }
    run :=
      { actions := [.write .stdout (Bytes.ofText "a line and a half"),
          .write .stderr (Bytes.ofText "a warning")] }
    link := { actions := [.panic "no linker"] } }

def brittleDriver : Driver Unit :=
  { toolchain := brittleScript.toolchain fun _ _ => .error .notFound }

/-- A request that fails, one that is unwound, and one that returns what it has captured. -/
def brittleHistory : List Request :=
  [.run { argv0 := [], input := [], quiet := true, plugins := ["absent"] } [],
    .build { argv0 := [], input := [], quiet := true } [],
    .run { argv0 := [], input := [] } []]

theorem isChildless_brittleScript : brittleScript.IsChildless := by
  constructor <;> simp [brittleScript, ScriptPhase.IsChildless]

/-- A process that measures the times of the phases. -/
def measuringStart : Host :=
  { table := .standard, logger := some {}, threshold := some .debug }

/-- A request to run the program without the diagnostics of the toolchain. -/
def quietRequest : Request :=
  .run { argv0 := [], input := [], quiet := true } []

/-- After such a history the program is run again.  The request ends as with the driver on the
process at its start, and its result has what the program has written this time. -/
theorem requests_are_independent_brittle :
    (brittleDriver.serveAll brittleHistory measuringStart).1.1 =
        [.returned (.failure "no such plugin"), .unwound { message := some "no linker" },
          .returned (.ran { stdout := "a line and a half", stderr := "a warning" })] ∧
      ((brittleDriver.serveAll brittleHistory measuringStart).1.2.serve quietRequest
          (brittleDriver.serveAll brittleHistory measuringStart).2).1.1 =
        .returned (.ran { stdout := "a line and a half", stderr := "a warning" }) ∧
      ((brittleDriver.serveAll brittleHistory measuringStart).1.2.serve quietRequest
          (brittleDriver.serveAll brittleHistory measuringStart).2).1.2.timings.names =
        ["plugins", "parse", "compile", "run"] ∧
      Restored (fun _ => False) measuringStart
        (brittleDriver.serveAll brittleHistory measuringStart).2 := by
  have endings : (brittleDriver.serveAll brittleHistory measuringStart).1.1 =
      [.returned (.failure "no such plugin"), .unwound { message := some "no linker" },
        .returned (.ran { stdout := "a line and a half", stderr := "a warning" })] := by
    decide +kernel
  have ended : ∀ ending ∈ (brittleDriver.serveAll brittleHistory measuringStart).1.1,
      ∀ code, ending ≠ .exited code := by
    rw [endings]
    simp
  have table : (brittleDriver.serveAll brittleHistory measuringStart).2.table =
      ⟨DescriptorTable.standard.slots ++ List.replicate 6 none⟩ := by
    decide +kernel
  have rest : (brittleDriver.serveAll brittleHistory measuringStart).2.view.numberLimit = none ∧
      (brittleDriver.serveAll brittleHistory measuringStart).2.view.threadSupply = none ∧
      (brittleDriver.serveAll brittleHistory measuringStart).2.view.refusals = [] ∧
      (brittleDriver.serveAll brittleHistory measuringStart).2.view.threshold = some .debug ∧
      (brittleDriver.serveAll brittleHistory measuringStart).2.view.logger = some {} ∧
      (brittleDriver.serveAll brittleHistory measuringStart).2.view.panicHook = .unwind ∧
      (brittleDriver.serveAll brittleHistory measuringStart).2.view.crashReported = false := by
    decide +kernel
  have alike : Host.Alike (brittleDriver.serveAll brittleHistory measuringStart).2
      measuringStart := by
    have sights : (brittleDriver.serveAll brittleHistory measuringStart).2.view.sights =
        measuringStart.view.sights := by
      rw [Host.view, table]
      exact DescriptorTable.sights_append_free _ 6
    exact View.ext sights rest.1 rest.2.1 rest.2.2.1 rest.2.2.2.1 rest.2.2.2.2.1
      rest.2.2.2.2.2.1 rest.2.2.2.2.2.2
  have behaves : brittleDriver.toolchain.BehavesLike brittleDriver.toolchain (fun _ _ => True) Eq :=
    brittleScript.behavesLike _ _ isChildless_brittleScript fun _ _ _ => trivial
  have discreet : brittleDriver.toolchain.Discreet := brittleScript.discreet _
  have tidy : brittleDriver.toolchain.Tidy (fun _ _ => False) fun _ => False :=
    brittleScript.tidy _
  have accountable : brittleDriver.toolchain.Accountable fun _ _ => False :=
    brittleScript.accountable _
  obtain ⟨forgets, independent⟩ := requests_are_independent (fun _ _ _ => trivial) behaves
    discreet discreet rfl rfl tidy tidy accountable accountable ended
  have does := independent quietRequest measuringStart ⟨alike, trivial⟩
  have names : (brittleDriver.serve quietRequest measuringStart).1.2.timings.names =
      ["plugins", "parse", "compile", "run"] := by
    decide +kernel
  have ending : (brittleDriver.serve quietRequest measuringStart).1.1 =
      .returned (.ran { stdout := "a line and a half", stderr := "a warning" }) := by
    decide +kernel
  have ready : measuringStart.Ready :=
    { wellFormed := .of_standard rfl rfl
      reads := by simp [Host.NoReadFailures, measuringStart]
      isOpen := by rintro (_ | _) <;> decide
      accepts := by decide }
  have sameEnding := does.ending fun _ _ _ => ⟨forgets.ready (fun _ => id) ready, ready⟩
  exact ⟨endings, sameEnding.trans ending, does.phases.trans names, forgets.restored⟩

/-- A script whose program writes a word to standard output. -/
def wordScript : ToolchainScript :=
  { run := { actions := [.write .stdout (Bytes.ofText "word")] } }

def wordDriver : Driver Unit :=
  { toolchain := wordScript.toolchain fun _ _ => .error .notFound }

/-- A request to run that program. -/
def wordRequest : Request :=
  .run { argv0 := [], input := [] } []

/-- What a request leaves in the line buffer since its capture could not be started, and what
standard output cannot pass on, is in the result of the next request.  And with standard error
closed it depends on the readers what is in a result. -/
theorem unflushed_output_reaches_next_result :
    let start : Host := { Host.unread [] with refusals := [some (.code 24)] }
    let reached := wordDriver.serveAll [wordRequest] start
    let closed : Host := { table := DescriptorTable.standard.close 2 }
    let slow : Host := { closed with schedule := List.replicate 11 [] ++ [[(0, .read 4)]] }
    (start.WellFormed ∧ (∀ stream : Stream, start.opened stream.number ≠ none) ∧
      reached.1.1 = [.returned (.ran {})] ∧ Host.Alike reached.2 (Host.unread []) ∧
      (reached.1.2.serve wordRequest reached.2).1.1 =
        .returned (.ran { stdout := "wordword" }) ∧
      (wordDriver.serve wordRequest (Host.unread [])).1.1 =
        .returned (.ran { stdout := "word" })) ∧
    Host.Alike closed slow ∧
      (wordDriver.serve wordRequest closed).1.1 = .returned (.ran {}) ∧
      (wordDriver.serve wordRequest slow).1.1 = .returned (.ran { stdout := "word" }) := by
  intro start reached closed slow
  have wellFormed : start.WellFormed :=
    have unread := Host.wellFormed_unread []
    ⟨unread.readers, unread.writers, unread.threads, unread.sources⟩
  have table : reached.2.table = (Host.unread []).table := by decide +kernel
  have rest : reached.2.view.numberLimit = none ∧ reached.2.view.threadSupply = none ∧
      reached.2.view.refusals = [] ∧ reached.2.view.threshold = (Host.unread []).threshold ∧
      reached.2.view.logger = none ∧ reached.2.view.panicHook = .unwind ∧
      reached.2.view.crashReported = false := by
    decide +kernel
  have alike : Host.Alike reached.2 (Host.unread []) :=
    View.ext (congrArg DescriptorTable.sights table) rest.1 rest.2.1 rest.2.2.1 rest.2.2.2.1
      rest.2.2.2.2.1 rest.2.2.2.2.2.1 rest.2.2.2.2.2.2
  refine ⟨⟨wellFormed, ?_, by decide +kernel, alike, by decide +kernel, by decide +kernel⟩, rfl,
    by decide +kernel, by decide +kernel⟩
  rintro (_ | _) <;> decide

end Driver

end CompileDriver
