import CompileDriver.Proofs.Driver.Holding
import CompileDriver.Proofs.Driver.Session
import CompileDriver.Proofs.Toolchain.Scripted

/-!
# Tidy toolchains

A tidy toolchain touches no descriptor of others.  A frame is an assertion about
a request in progress: it tells which numbers the session holds, and it survives
everything that the session of a tidy toolchain may do.
-/

namespace CompileDriver

variable {σ : Type} {leaks : Nat → Prop}

namespace Host

/-- What happens to a host while a session that held the numbers of `mine` comes
to hold those of `theirs`. -/
structure Changes (leaks mine theirs : Nat → Prop) (before after : Host) : Prop where
  keeps : Keeps leaks mine theirs before.opened after.opened
  threads : after.threads ⊆ before.threads

theorem Still.changes {mine : Nat → Prop} {before after : Host} (still : Still before after)
    (held : ∀ number, mine number → before.opened number ≠ none) :
    Changes leaks mine mine before after where
  keeps := by
    rw [still.1]
    exact .refl held
  threads := still.2

end Host

/-! ## Tidy toolchains -/

/-- The numbers that are held after a session was to be created. -/
def Toolchain.heldBy (owns : σ → Nat → Prop) : Except Panic σ → Nat → Prop
  | .ok session => owns session
  | .error _ => fun _ => False

/-- A toolchain that touches no descriptor of others and starts no reader
thread.  A session may hold descriptors of its own between its calls, which it
gives back when it is closed, and the toolchain may leave some numbers open for
good; the standard streams are neither held nor left open. -/
structure Toolchain.Tidy (toolchain : Toolchain σ) (owns : σ → Nat → Prop)
    (leaks : Nat → Prop) : Prop where
  create : ∀ (settings : Settings) (host : Host),
    host.Changes leaks (fun _ => False)
      (Toolchain.heldBy owns (toolchain.createSession settings host).1)
      (toolchain.createSession settings host).2
  call : ∀ (session : σ) (call : SessionCall) (host : Host),
    (∀ number, owns session number → host.opened number ≠ none) →
      host.Changes leaks (owns session) (owns (toolchain.perform session call host).1.2)
        (toolchain.perform session call host).2
  close : ∀ (session : σ) (host : Host),
    (∀ number, owns session number → host.opened number ≠ none) →
      host.Changes leaks (owns session) (fun _ => False) (toolchain.close session host).2
  streams : ∀ stream : Stream,
    ¬ leaks stream.number ∧ ∀ session, ¬ owns session stream.number

/-- The toolchain that follows a script is tidy: between its calls it holds
nothing, and it leaves nothing open. -/
theorem ToolchainScript.tidy (launcher : Launcher) (script : ToolchainScript) :
    (script.toolchain launcher).Tidy (fun _ _ => False) fun _ => False where
  create settings host := by
    have still := (governs_create launcher stillness_letsRun script settings host trivial).1
    cases ((script.toolchain launcher).createSession settings host).1 with
    | error panic => exact still.changes fun _ isHeld => isHeld.elim
    | ok session => exact still.changes fun _ isHeld => isHeld.elim
  call session call host _ :=
    (governs_call launcher stillness_letsRun script call host trivial).1.changes
      fun _ isHeld => isHeld.elim
  close _ host _ := (Host.Still.refl host).changes fun _ isHeld => isHeld.elim
  streams _ := ⟨not_false, fun _ => not_false⟩

/-! ## Courses -/

/-- Whether a call runs the program. -/
def SessionCall.isRun : SessionCall → Bool
  | .run _ _ => true
  | _ => false

/-- The calls that do not run the program. -/
def SessionCall.Prepares (call : SessionCall) : Prop :=
  call.isRun = false

/-- Preparing does not run the program. -/
theorem Driver.prepares_of_preparation {settings : Settings} {call : SessionCall}
    (member : call ∈ preparation settings) : call.Prepares := by
  rcases List.mem_append.mp member with isPlugin | rest
  · obtain ⟨name, -, rfl⟩ := List.mem_map.mp isPlugin
    rfl
  · rcases List.mem_append.mp rest with isParse | isCompile
    · rw [List.mem_singleton.mp isParse]
      rfl
    · rw [List.mem_singleton.mp isCompile]
      rfl

/-- An assertion about a request with a session that survives all permitted calls, and
looks at the clock. -/
structure Course (toolchain : Toolchain σ) (permits : SessionCall → Prop)
    (holds : σ → Host → Prop) : Prop where
  calling : ∀ session call, permits call →
    Ensures (holds session) (Driver.calling call (toolchain.perform session call))
      fun reached => holds reached.2
  elapsed : ∀ session, Ensures (holds session) SystemCall.elapsed fun _ => holds session

namespace Course

variable {toolchain : Toolchain σ} {permits : SessionCall → Prop} {holds : σ → Host → Prop}

/-- Fewer calls may be made. -/
theorem narrow {narrower : SessionCall → Prop} (course : Course toolchain permits holds)
    (permitted : ∀ call, narrower call → permits call) : Course toolchain narrower holds :=
  ⟨fun session call narrow => course.calling session call (permitted call narrow), course.elapsed⟩

theorem timed (course : Course toolchain permits holds) {session : σ}
    {phase : Action (CallEnd × σ)}
    (ensures : Ensures (holds session) phase fun reached => holds reached.2) (name : String)
    (timings : Timings) :
    Ensures (holds session) (Driver.timed name timings phase) fun reached =>
      holds reached.2.1 := by
  have looked : Ensures (holds session) (Log.isEnabled .debug) fun _ => holds session :=
    fun _ holding => holding
  refine looked.bind fun enabled => ?_
  split
  · refine ensures.bind fun reached => ?_
    rcases reached with ⟨_ | _ | _, session⟩
    · exact (course.elapsed session).bind fun _ => .value fun _ holding => holding
    · exact (course.elapsed session).bind fun _ => .value fun _ holding => holding
    · exact .value fun _ holding => holding
  · exact ensures.bind fun reached => .value fun _ holding => holding

theorem loadPlugins (course : Course toolchain permits holds) {names : List String}
    (permitted : ∀ name ∈ names, permits (.plugin name)) (session : σ) :
    Ensures (holds session) (Driver.loadPlugins toolchain session names)
      fun reached => holds reached.2 := by
  induction names generalizing session with
  | nil => exact .value fun _ holding => holding
  | cons name rest ih =>
      have loading := course.calling session (.plugin name) (permitted name List.mem_cons_self)
      refine loading.bind fun reached => ?_
      rcases reached with ⟨_ | _ | _, session⟩
      · exact ih (fun other member => permitted other (List.mem_cons_of_mem name member)) session
      · exact .value fun _ holding => holding
      · exact .value fun _ holding => holding

theorem prepare (course : Course toolchain permits holds) (settings : Settings)
    (permitted : ∀ call ∈ Driver.preparation settings, permits call) (session : σ) :
    Ensures (holds session) (Driver.prepare toolchain settings session)
      fun reached => holds reached.2.1 := by
  have permittedPlugins (name : String) (member : name ∈ settings.plugins) :
      permits (.plugin name) :=
    permitted _ (List.mem_append_left _ (List.mem_map_of_mem member))
  refine (course.timed (course.loadPlugins permittedPlugins session) _ _).bind fun loaded => ?_
  rcases loaded with ⟨_ | _ | _, session, timings⟩
  · have parsing := course.calling session (.parse settings.input)
      (permitted _ (by simp [Driver.preparation]))
    refine (course.timed parsing _ _).bind fun parsed => ?_
    rcases parsed with ⟨_ | _ | _, session, timings⟩
    · have permittedCompile := permitted .compile (by simp [Driver.preparation])
      exact course.timed (course.calling session .compile permittedCompile) _ _
    · exact .value fun _ holding => holding
    · exact .value fun _ holding => holding
  · exact .value fun _ holding => holding
  · exact .value fun _ holding => holding

theorem link {driver : Driver σ} (course : Course driver.toolchain permits holds)
    (settings : Settings) (output : Path)
    (permitted : ∀ call ∈ Driver.preparation settings, permits call)
    (permittedLink : permits (.link output settings.linkOptions)) (session : σ) :
    Ensures (holds session) (driver.link settings output session)
      fun reached => holds reached.2.1 := by
  refine (course.prepare settings permitted session).bind fun prepared => ?_
  rcases prepared with ⟨_ | _ | _, session, timings⟩
  · have linking := course.calling session _ permittedLink
    exact course.timed linking _ _
  · exact .value fun _ holding => holding
  · exact .value fun _ holding => holding

end Course

/-! ## Frames -/

/-- An assertion that tells which numbers the session holds, and survives what the
session may do. -/
structure Frame (leaks : Nat → Prop) (holds : (Nat → Prop) → Host → Prop) : Prop where
  held : ∀ {mine host}, holds mine host → ∀ number, mine number → host.opened number ≠ none
  changes : ∀ {mine theirs : Nat → Prop} {before after : Host}, holds mine before →
    before.Changes leaks mine theirs after → holds theirs after

namespace Frame

variable {holds : (Nat → Prop) → Host → Prop} {toolchain : Toolchain σ}
  {owns : σ → Nat → Prop} {mine : Nat → Prop}

theorem stays {α : Type} {action : Action α} {yields : α → Prop} (frame : Frame leaks holds)
    (stays : Stays action yields) : Ensures (holds mine) action fun _ => holds mine :=
  fun host holding =>
    frame.changes holding ((stays host trivial).1.changes (frame.held holding))

theorem note (frame : Frame leaks holds) (event : Event) :
    Ensures (holds mine) (modify (·.note event) : Action PUnit) fun _ => holds mine :=
  frame.stays (.changed fun host => Host.Still.refl host)

theorem returned (frame : Frame leaks holds) (call : SessionCall) (ended : CallEnd) :
    Ensures (holds mine) (Driver.returned call ended) fun _ => holds mine := by
  cases ended with
  | succeeded => exact frame.note _
  | failed error => exact frame.note _
  | panicked panic => exact .value fun _ holding => holding

theorem calling (frame : Frame leaks holds) (tidy : toolchain.Tidy owns leaks) (session : σ)
    (call : SessionCall) :
    Ensures (holds (owns session)) (Driver.calling call (toolchain.perform session call))
      fun reached => holds (owns reached.2) := by
  refine (frame.note _).bind fun _ => ?_
  have called : Ensures (holds (owns session)) (toolchain.perform session call)
      fun reached => holds (owns reached.2) :=
    fun host holding => frame.changes holding (tidy.call session call host (frame.held holding))
  exact called.bind fun reached => (frame.returned _ _).bind fun _ =>
    .value fun _ holding => holding

theorem close (frame : Frame leaks holds) (tidy : toolchain.Tidy owns leaks) (session : σ) :
    Ensures (holds (owns session)) (toolchain.close session) fun _ => holds fun _ => False :=
  fun host holding => frame.changes holding (tidy.close session host (frame.held holding))

theorem create (frame : Frame leaks holds) (tidy : toolchain.Tidy owns leaks)
    (settings : Settings) :
    Ensures (holds fun _ => False) (Driver.create toolchain settings)
      fun outcome => holds (Toolchain.heldBy owns outcome) := by
  refine (frame.note _).bind fun _ => ?_
  have created : Ensures (holds fun _ => False) (toolchain.createSession settings)
      fun outcome => holds (Toolchain.heldBy owns outcome) :=
    fun host holding => frame.changes holding (tidy.create settings host)
  refine created.bind fun outcome => ?_
  cases outcome with
  | error panic => exact .value fun _ holding => holding
  | ok session => exact (frame.note _).bind fun _ => .value fun _ holding => holding

theorem course (frame : Frame leaks holds) (tidy : toolchain.Tidy owns leaks) :
    Course toolchain SessionCall.Prepares fun session => holds (owns session) where
  calling session call _ := frame.calling tidy session call
  elapsed _ := frame.stays .elapsed

theorem reportTimings (frame : Frame leaks holds) (timings : Timings) :
    Ensures (holds mine) (Driver.reportTimings timings) fun _ => holds mine :=
  frame.stays (Speaks.reportTimings (fun _ => not_false) timings).stays

end Frame

end CompileDriver
