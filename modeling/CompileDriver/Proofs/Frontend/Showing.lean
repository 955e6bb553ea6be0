import CompileDriver.Proofs.Codon.Captured

/-!
# What requests of the front end show

A request is seen only after its calls have begun: without a source, or when the directory to
sweep is not known, nothing is seen, and sweeping itself shows nothing.  What is seen then is
what the driver shows, which are the diagnostics of the compiler.  The program of a run is not
seen; the request returns what it has written.
-/

namespace CompileDriver

variable {σ : Type} {leaks : Nat → Prop} {owns : σ → Nat → Prop}

namespace Frontend

/-! ## Sweeping -/

section

variable {discipline : Discipline}
  (debugs : ∀ message, discipline.Governs (Log.debug message) fun _ => True)
  (sweeps : ∀ (host : Host) files, discipline.allows host { host with files })

include debugs sweeps

end

variable (frontend : Frontend σ) (source : Path)

/-! ## The start -/

theorem begins_iff (host : Host) :
    frontend.Begins source host ↔
      host.files.exists? host.directory source = true ∧
        (frontend.options.cleanSockets = true →
          host.files.hasDirectory host.directory = true) := by
  constructor
  · rintro ⟨present, goes⟩
    refine ⟨present, fun cleans => ?_⟩
    by_contra gone
    exact goes .notFound ⟨cleans, if_neg gone⟩
  · rintro ⟨present, known⟩
    refine ⟨present, fun error strands => ?_⟩
    have here : host.currentDirectory = .ok host.directory := if_pos (known strands.1)
    cases here.symm.trans strands.2

instance decidableBegins (host : Host) : Decidable (frontend.Begins source host) :=
  decidable_of_iff' _ (frontend.begins_iff source host)

/-- The state in which the calls of a request begin, if they begin. -/
def started (host : Host) : Option Host :=
  if frontend.Begins source host then some (frontend.begun host) else none

/-- The settings of the calls. -/
def chosen (begun : Host) : Settings :=
  frontend.settings begun source (!frontend.options.runAfterBuild)

/-- What the compiler reports when it is called. -/
def reports (diagnostics : σ → Host → Bytes) (host : Host) : Bytes :=
  (frontend.started source host).elim [] fun begun =>
    Driver.spoken diagnostics
      (Driver.compilingOn frontend.driver.toolchain (frontend.chosen source begun) begun)

/-- The guards of a request can be set up that begins with its calls: the suppressor, if the
diagnostics are to be hidden, and the capture, if the program is run. -/
structure Guarded (begun : Host) : Prop where
  hides : frontend.options.quiet = true → Driver.Hides (frontend.chosen source begun) begun
  captures : frontend.options.runAfterBuild = true → ∀ session timings prepared,
    frontend.driver.preparing (frontend.chosen source begun) begun =
        (.ok (session, timings), prepared) →
      frontend.driver.Captures prepared

variable {frontend source}

section

variable {diagnostics : σ → Host → Bytes}
  (voices : frontend.driver.toolchain.Voices diagnostics)
  (sound : frontend.driver.toolchain.Returns)
  (tidy : frontend.driver.toolchain.Tidy owns leaks)
  (discreet : frontend.driver.toolchain.Discreet)

include voices sound tidy discreet

end

/-! ## What is returned -/

end Frontend

namespace Codon

variable (launcher : Launcher) (frontend : Frontend Session) (source : Path)

variable {launcher frontend} {binary : Path}

end Codon

end CompileDriver
