import CompileDriver.Proofs.Codon.History
import CompileDriver.Proofs.Codon.Leavings

/-!
# Where artifacts go

The artifact of a source is named after the stem of its file name.  Stems are names like
others, except that a file name of two or three dots and an extension has a stem of dots.
The path of such an artifact leads to the scratch directory itself, or to the directory
above it.

The main result says which artifacts are handed to the compiler as children of the scratch
directory.
-/

namespace CompileDriver

/-! ## Stems -/

namespace Path

open Bytes (slash dot)

/-- The file name of the path is two or three dots, with an extension that has no dot. -/
def HasDotStem (path : Path) : Prop :=
  ∃ ext, dot ∉ ext ∧
    (fileName path = some (dot :: dot :: ext) ∨ fileName path = some (dot :: dot :: dot :: ext))

theorem ne_of_fileName {path : Path} {name : Bytes} (found : fileName path = some name) :
    name ≠ [] ∧ name ≠ [dot] ∧ name ≠ [dot, dot] := by
  obtain ⟨front, ends⟩ := fileName_eq_some_iff.mp found
  exact ⟨ends.nonempty, ends.notDot, ends.notParent⟩

/-- The names whose stem is dots. -/
theorem stem_dots_iff {name : Bytes} (notDot : name ≠ [dot]) (notParent : name ≠ [dot, dot]) :
    ((splitExtension name).1 = [dot] ∨ (splitExtension name).1 = [dot, dot]) ↔
      ∃ ext, dot ∉ ext ∧ (name = dot :: dot :: ext ∨ name = dot :: dot :: dot :: ext) := by
  constructor
  · intro dots
    rcases splitExtension_cases name with whole | ⟨stem, ext, nonempty, absent, rfl⟩
    · rw [whole] at dots
      exact (dots.elim notDot notParent).elim
    · rw [splitExtension_append nonempty absent] at dots
      refine ⟨ext, absent, dots.imp ?_ ?_⟩
      · rintro rfl
        rfl
      · rintro rfl
        rfl
  · rintro ⟨ext, absent, rfl | rfl⟩
    · exact .inl (congrArg Prod.fst (splitExtension_append (List.cons_ne_nil dot []) absent))
    · exact .inr (congrArg Prod.fst (splitExtension_append (List.cons_ne_nil dot [dot]) absent))

end Path

/-! ## Names of artifacts -/

open Bytes (slash dot)

/-- Decoding leaves a name as plain as it was. -/
theorem Name.isPlain_lossy_iff {name : Name} (absent : slash ∉ name) :
    Name.IsPlain (Bytes.ofText (Utf8.lossy name)) ↔ Name.IsPlain name := by
  have same (text : Bytes) (ascii : ∀ byte ∈ text, 0 < byte ∧ byte < 0x80) :
      Bytes.ofText (Utf8.lossy name) = text ↔ name = text :=
    Utf8.ofText_lossy_eq_iff ascii
  simp only [Name.IsPlain, ne_eq, same [] (by simp), same [dot] (by simp [dot]),
    same [dot, dot] (by simp [dot]), absent, Utf8.slash_not_mem_lossy absent, not_false_eq_true]

/-- The path of a place that lies in another one. -/
theorem Place.path_concat (front : Place) (directory name : Name) :
    Place.path (front ++ [directory] ++ [name]) =
      Place.path (front ++ [directory]) ++ slash :: name := by
  simp [Place.path]

namespace Codon.Session

open Path (HasDotStem)

theorem isPlain_artifactName_iff (input : Path) :
    Name.IsPlain (artifactName input) ↔ ¬ HasDotStem input := by
  have absent := slash_not_mem_artifactName input
  unfold HasDotStem
  cases found : Path.fileName input with
  | none =>
      have named : artifactName input = Bytes.ofText "program" := by
        simp [artifactName, Path.fileStem, found]
      rw [named]
      simp only [reduceCtorEq, or_self, and_false, exists_false, not_false_eq_true, iff_true]
      decide +kernel
  | some name =>
      have named : artifactName input = (Path.splitExtension name).1 := by
        simp [artifactName, Path.fileStem, found]
      obtain ⟨nonempty, notDot, notParent⟩ := Path.ne_of_fileName found
      have stemmed : (Path.splitExtension name).1 ≠ [] := by
        rcases Path.splitExtension_cases name with whole | ⟨stem, ext, isStem, noDot, rfl⟩
        · rwa [whole]
        · rwa [Path.splitExtension_append isStem noDot]
      simp only [Option.some.injEq, ← Path.stem_dots_iff notDot notParent, not_or]
      rw [named] at absent ⊢
      exact ⟨fun plain => plain.2.2, fun other => ⟨stemmed, absent, other⟩⟩

/-- The path that is handed over for an artifact is that of a child of the scratch directory
exactly if the path of the scratch directory is a text and the stem of the source is not
dots. -/
theorem handsOver_child_iff (temporary : Place) (number : Nat) (input : Path) :
    (∃ name, Name.IsPlain name ∧
      Bytes.ofText (Path.display (artifactPath (scratchPlace temporary number) input)) =
        Place.path (scratchPlace temporary number ++ [name])) ↔
    (∃ text, Bytes.ofText text = (scratchPlace temporary number).path) ∧ ¬ HasDotStem input := by
  have absent := slash_not_mem_artifactName input
  rw [← isPlain_artifactName_iff, ← Name.isPlain_lossy_iff absent, ← Utf8.ofText_lossy_iff,
    ofText_display_artifactPath]
  constructor
  · rintro ⟨name, plain, same⟩
    rw [scratchPlace_eq, Place.path_concat] at same
    obtain ⟨isText, rfl⟩ :=
      Path.append_separator_inj (Utf8.slash_not_mem_lossy absent) plain.2.1 same
    exact ⟨isText, plain⟩
  · rintro ⟨isText, plain⟩
    refine ⟨_, plain, ?_⟩
    rw [scratchPlace_eq, Place.path_concat]
    exact congrArg (· ++ _) isText

/-! ## Scratch directories of sessions -/

/-- A place for a scratch directory. -/
def IsScratchPlace (place : Place) : Prop :=
  ∃ temporary number, place = scratchPlace temporary number

/-- If the session has a scratch directory, it is named like one. -/
def WellPlaced (session : Session) : Prop :=
  ∀ place, session.scratch = some place → IsScratchPlace place

variable {session : Session} (launcher : Launcher)

theorem makeScratch_place :
    Ensures (fun _ => True) makeScratch fun made _ =>
      ∀ place, made = .ok place → IsScratchPlace place := by
  refine .look fun seen _ => ?_
  dsimp only
  split
  · intro host _
    rintro _ ⟨⟩
    exact ⟨_, _, rfl⟩
  · exact .value fun _ _ => nofun

theorem needScratch_place (placed : session.WellPlaced) :
    Ensures (fun _ => True) session.needScratch fun made _ =>
      ∀ place, made = .ok place → IsScratchPlace place := by
  unfold needScratch
  split
  · rename_i place found
    apply Ensures.value
    rintro _ _ _ ⟨⟩
    exact placed place found
  · exact makeScratch_place

/-- However a compilation ends, the session has the scratch directory that it went into. -/
theorem scratch_compileInto (session : Session) (place : Place) (input : Path) :
    Ensures (fun _ => True) (session.compileInto launcher place input) fun reached _ =>
      reached.2.scratch = some place := by
  unfold compileInto
  refine .look fun seen _ => ?_
  refine .whatever fun started => ?_
  cases started with
  | error error => exact .value fun _ _ => rfl
  | ok collected =>
      dsimp only
      split
      · split
        · refine .whatever fun _ => ?_
          exact .value fun _ _ => rfl
        · exact .value fun _ _ => rfl
      · exact .value fun _ _ => rfl

theorem wellPlaced_compile (placed : session.WellPlaced) :
    Ensures (fun _ => True) (session.compile launcher) fun reached _ => reached.2.WellPlaced := by
  unfold compile
  split
  · exact .value fun _ _ => placed
  · rename_i input parsed
    refine Ensures.bind (needScratch_place placed) fun made => ?_
    cases made with
    | error error => exact .value fun _ _ => placed
    | ok place =>
        intro host isPlace other found
        have here := scratch_compileInto launcher session place input host trivial
        cases here.symm.trans found
        exact isPlace place rfl

/-- Only compilations make scratch directories. -/
theorem wellPlaced_perform (binary : Path) (placed : session.WellPlaced) (call : SessionCall) :
    Ensures (fun _ => True) ((toolchain launcher binary).perform session call) fun reached _ =>
      reached.2.WellPlaced := by
  cases call with
  | create => exact .value fun _ _ => placed
  | plugin name =>
      refine .look fun seen _ => ?_
      split <;> exact .value fun _ _ => placed
  | parse input =>
      refine .look fun seen _ => ?_
      split <;> exact .value fun _ _ => placed
  | compile => exact wellPlaced_compile launcher placed
  | run arguments libs =>
      change Ensures _ (session.run launcher arguments) _
      unfold run
      split
      · exact .value fun _ _ => placed
      · refine .look fun seen _ => ?_
        refine .whatever fun started => ?_
        cases started with
        | error error => exact .value fun _ _ => placed
        | ok status =>
            dsimp only
            split <;> exact .value fun _ _ => placed
  | link output options =>
      change Ensures _ (session.writeExecutable output options) _
      unfold writeExecutable
      split
      · exact .value fun _ _ => placed
      · split
        · exact .value fun _ _ => placed
        · refine .whatever fun copied => ?_
          cases copied <;> exact .value fun _ _ => placed

theorem wellPlaced_afterwards (binary : Path) (settings : Settings) (occasions : List Occasion) :
    ((fresh binary settings).afterwards occasions).WellPlaced := by
  induction occasions with
  | nil => exact nofun
  | cons occasion earlier ih =>
      exact wellPlaced_perform occasion.launcher _ ih occasion.call occasion.host trivial

/-! ## What the compiler is asked to write -/

/-- The compiler is started only after the session has come to a scratch directory. -/
theorem scratch_of_launched {host : Host} {invocation : Invocation}
    (launched : .launched invocation ∈
      (session.compile launcher host).2.undertakingsSince host) :
    ∃ place, (session.compile launcher host).1.2.scratch = some place := by
  cases parsed : session.input with
  | none =>
      have refused : session.compile launcher host = ((notParsed, session), host) := by
        unfold compile
        rw [parsed]
        rfl
      rw [refused, (Host.Undertakes.refl host).events] at launched
      cases launched
  | some input =>
      rcases compile_cases launcher session host parsed with
        ⟨error, failed⟩ | ⟨place, files, scratchesMade, made, -⟩
      · rw [failed, (Host.Undertakes.refl host).events] at launched
        cases launched
      · rw [made]
        exact ⟨place, scratch_compileInto launcher session place input _ trivial⟩

/-- The compiler is told the artifact and the source at the end. -/
theorem arguments_compilerInvocation (session : Session) (host : Host) (plugins : List String)
    (input artifact : Path) :
    ∃ options, (session.compilerInvocation host
        (buildArguments session.settings plugins input artifact)).arguments =
      options ++
        [Bytes.ofText "-o", Bytes.ofText artifact.display, Bytes.ofText input.display] := by
  simp only [compilerInvocation, buildArguments, List.map_append, List.map_cons, List.map_nil]
  exact ⟨_, rfl⟩

/-- Artifacts stay in the scratch directory.  Whatever was called on a new session before, a
compilation that starts the compiler hands over, for the source that was parsed last, the
path of a child of the scratch directory of the session; with two exceptions: the path of
the scratch directory is no text, or the stem of the source is dots. -/
theorem artifacts_stay_in_scratch (binary : Path) (settings : Settings)
    (occasions : List Occasion) (occasion : Occasion) (compiles : occasion.call = .compile)
    {invocation : Invocation}
    (launched : .launched invocation ∈
      (((fresh binary settings).afterwards occasions).deal occasion).undertaken) :
    ∃ input scratch options output,
      lastParsed ((fresh binary settings).history occasions) = some input ∧
      (((fresh binary settings).afterwards occasions).deal occasion).later.scratch =
        some scratch ∧
      invocation.arguments =
        options ++ [Bytes.ofText "-o", output, Bytes.ofText (Path.display input)] ∧
      ((∃ name, Name.IsPlain name ∧ output = Place.path (scratch ++ [name])) ↔
        (∃ text, Bytes.ofText text = scratch.path) ∧ ¬ HasDotStem input) := by
  obtain ⟨launcher, host, call⟩ := occasion
  cases compiles
  let start := fresh binary settings
  let dealing := (start.afterwards occasions).deal ⟨launcher, host, .compile⟩
  obtain ⟨scratch, found⟩ : ∃ scratch, dealing.later.scratch = some scratch :=
    scratch_of_launched launcher launched
  have within (place : Place) (here : dealing.later.scratch = some place) : place = scratch :=
    Option.some.inj (here.symm.trans found)
  have sound : dealing.Sound start scratch (start.history occasions) :=
    (sound_history binary settings scratch (⟨launcher, host, .compile⟩ :: occasions) within).2
      dealing (start.history occasions) List.suffix_rfl
  obtain ⟨temporary, number, rfl⟩ :=
    wellPlaced_afterwards binary settings (⟨launcher, host, .compile⟩ :: occasions) scratch found
  rcases sound.launched invocation launched with
    ⟨-, input, parsed, rfl⟩ | ⟨arguments, libs, artifact, isRun, -⟩
  · obtain ⟨options, asked⟩ := arguments_compilerInvocation start host
      (loaded (start.history occasions)) input (artifactPath (scratchPlace temporary number) input)
    exact ⟨input, _, options, _, parsed, found, asked,
      handsOver_child_iff temporary number input⟩
  · cases isRun

/-- On a process with one source of some name, the source is parsed. -/
def parsing (name : String) : List Occasion :=
  [{ launcher := exampleLauncher
     host := .withSource name
     call := .parse (Bytes.ofText name) }]

/-- Then it is compiled. -/
def compiling (name : String) : Dealing :=
  ((fresh exampleBinary exampleSettings).afterwards (parsing name)).deal
    { launcher := exampleLauncher, host := .withSource name, call := .compile }

/-- The scratch directory for that. -/
def exampleScratch : Place :=
  Place.ofText "/tmp/syqure-000000"

/-- The compiler is started so. -/
def exampleInvocation (name output : String) : Invocation :=
  { program := exampleBinary
    name := exampleBinary
    arguments := ["build", "-debug", "-o", output, name].map Bytes.ofText
    environment := [(Bytes.ofText "TMPDIR", Bytes.ofText "/tmp")]
    directory := Place.ofText "/work" }

theorem artifacts_stay_in_scratch_source :
    (Event.launched (exampleInvocation "prog.py" "/tmp/syqure-000000/prog") ∈
      (compiling "prog.py").undertaken) ∧
    ∃ input scratch options output,
      lastParsed ((fresh exampleBinary exampleSettings).history (parsing "prog.py")) = some input ∧
      (compiling "prog.py").later.scratch = some scratch ∧
      (exampleInvocation "prog.py" "/tmp/syqure-000000/prog").arguments =
        options ++ [Bytes.ofText "-o", output, Bytes.ofText (Path.display input)] ∧
      ((∃ name, Name.IsPlain name ∧ output = Place.path (scratch ++ [name])) ↔
        (∃ text, Bytes.ofText text = scratch.path) ∧ ¬ HasDotStem input) := by
  have launched : Event.launched (exampleInvocation "prog.py" "/tmp/syqure-000000/prog") ∈
      (compiling "prog.py").undertaken := by decide +kernel
  exact ⟨launched, artifacts_stay_in_scratch exampleBinary exampleSettings (parsing "prog.py")
    { launcher := exampleLauncher, host := .withSource "prog.py", call := .compile } rfl launched⟩

/-- A source that is called three dots is accepted.  The compiler is asked to write its artifact
to the directory above the scratch directory. -/
theorem artifacts_escape_scratch :
    lastParsed ((fresh exampleBinary exampleSettings).history (parsing "...")) =
        some (Bytes.ofText "...") ∧
      (compiling "...").later.scratch = some exampleScratch ∧
      Event.launched (exampleInvocation "..." "/tmp/syqure-000000/..") ∈
        (compiling "...").undertaken ∧
      ¬ ∃ name, Name.IsPlain name ∧
        Bytes.ofText "/tmp/syqure-000000/.." = Place.path (exampleScratch ++ [name]) := by
  refine ⟨by decide +kernel, by decide +kernel, by decide +kernel, ?_⟩
  rintro ⟨name, plain, same⟩
  have above : Bytes.ofText "/tmp/syqure-000000/.." =
      Place.path exampleScratch ++ slash :: [dot, dot] := by decide +kernel
  have below : Place.path (exampleScratch ++ [name]) =
      Place.path exampleScratch ++ slash :: name :=
    Place.path_concat [Bytes.ofText "tmp"] (Bytes.ofText "syqure-000000") name
  rw [above, below] at same
  have isParent : [dot, dot] = name := (Path.append_separator_inj (by decide) plain.2.1 same).2
  exact plain.2.2.2 isParent.symm

end Codon.Session

end CompileDriver
