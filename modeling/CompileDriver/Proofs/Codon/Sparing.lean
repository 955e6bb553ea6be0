import CompileDriver.Proofs.Codon.Scratch
import CompileDriver.Proofs.Driver.Invariant
import CompileDriver.Proofs.FileTree.Source

/-!
# Sessions spare the source

A compiler that writes only to its output cannot touch the source: its output lies in the
scratch directory, where nothing was before.  The calls of a session maintain this, as long
as the executable is not written to the place of the source.
-/

namespace CompileDriver

open Codon.Session (scratchPlace artifactPath artifactName)

/-- What an invocation of the compiler writes to: the place that its output leads to. -/
def Invocation.WritesTo (invocation : Invocation) (files : FileTree) (place : Place) : Prop :=
  ∃ options output input target,
    invocation.arguments = options ++ [Bytes.ofText "-o", output, input] ∧
      files.lookup invocation.directory output .create = .ok target ∧ target.place = place

/-- The compiler changes no more than a file at its output, and all other programs leave the
files alone. -/
structure Launcher.WritesOnlyOutput (launcher : Launcher) (binary : Path) : Prop where
  compiler : ∀ {invocation : Invocation} {files : FileTree} {execution : Execution},
    invocation.program = binary → launcher invocation files = .ok execution →
      FileTree.Rewrites (invocation.WritesTo files) files execution.files
  program : ∀ {invocation : Invocation} {files : FileTree} {execution : Execution},
    invocation.program ≠ binary → launcher invocation files = .ok execution →
      ∀ place, execution.files.get? place = files.get? place

/-- The process is where it was, it has not opened the source, and something is known about
the file tree. -/
structure Host.Sparing (base : Host) (source : Place) (known : FileTree → Prop) (host : Host) :
    Prop where
  directory : host.directory = base.directory
  temporary : host.temporary = base.temporary
  closed : ¬ host.HasOpen source
  files : known host.files

namespace Host.Sparing

variable {base host : Host} {source : Place} {known : FileTree → Prop}

theorem lasting
    (robust : ∀ {before after : FileTree}, FileTree.Rewrites (· ≠ source) before after →
      known before → known after) : Host.Lasting (Host.Sparing base source known) := by
  intro before after appends sparing
  constructor
  · rw [appends.directory, sparing.directory]
  · rw [appends.temporary, sparing.temporary]
  · exact fun isOpen => sparing.closed (appends.opened source isOpen)
  · apply robust (appends.files.weaken _) sparing.files
    rintro place isOpen rfl
    exact sparing.closed isOpen

theorem weaken {weak : FileTree → Prop} (sparing : Sparing base source known host)
    (implies : ∀ tree, known tree → weak tree) : Sparing base source weak host :=
  ⟨sparing.directory, sparing.temporary, sparing.closed, implies _ sparing.files⟩

/-- Another file tree about which something is known. -/
theorem withFiles {later : FileTree → Prop} (sparing : Sparing base source known host)
    {files : FileTree} (knownFiles : later files) :
    Sparing base source later { host with files } :=
  ⟨sparing.directory, sparing.temporary, sparing.closed, knownFiles⟩

/-- An entry that is opened is not the source. -/
theorem occupy (sparing : Sparing base source known host) {place : Place} (other : place ≠ source)
    (opening : Nat) :
    Sparing base source known
      { host with
        table := host.table.occupy ⟨.entry opening place, false⟩
        openings := host.openings + 1 } where
  directory := sparing.directory
  temporary := sparing.temporary
  closed := by
    rintro ⟨number, earlier, found⟩
    rw [host.table.file?_occupy] at found
    split at found
    · cases found
      exact other rfl
    · exact sparing.closed ⟨number, earlier, found⟩
  files := sparing.files

end Host.Sparing

/-- A path leads to a place, or to where a file can be created, which is not the source. -/
def Host.LeadsElsewhere (base : Host) (source : Place) (path : Path) : Prop :=
  ∃ target, base.files.lookup base.directory path .create = .ok target ∧ target.place ≠ source

instance (base : Host) (source : Place) (path : Path) :
    Decidable (base.LeadsElsewhere source path) :=
  match found : base.files.lookup base.directory path .create with
  | .error _ => isFalse fun ⟨_, leads, _⟩ => nomatch found.symm.trans leads
  | .ok target =>
      if same : target.place = source then
        isFalse fun ⟨_, leads, other⟩ => other (Except.ok.inj (found.symm.trans leads) ▸ same)
      else isTrue ⟨target, found, same⟩

/-- The call does not ask to write an executable to the source. -/
def SessionCall.Spares (base : Host) (source : Place) : SessionCall → Prop
  | .link output _ => base.LeadsElsewhere source output
  | _ => True

namespace SessionCall

variable {base : Host} {source : Place}

theorem spares_of_mem_preparation (settings : Settings) :
    ∀ call ∈ Driver.preparation settings, call.Spares base source := by
  intro call member
  simp only [Driver.preparation, List.mem_append, List.mem_map, List.mem_singleton] at member
  rcases member with ⟨name, -, rfl⟩ | rfl | rfl
  all_goals trivial

theorem spares_of_mem_runCalls (settings : Settings) (arguments : List String) :
    ∀ call ∈ Driver.runCalls settings arguments, call.Spares base source := by
  intro call member
  rcases List.mem_cons.mp member with rfl | member
  · trivial
  · rcases List.mem_append.mp member with prepared | runs
    · exact spares_of_mem_preparation settings call prepared
    · rw [List.mem_singleton.mp runs]
      trivial

theorem spares_of_mem_buildCalls (settings : Settings) {output : Path}
    (elsewhere : base.LeadsElsewhere source output) :
    ∀ call ∈ Driver.buildCalls settings output, call.Spares base source := by
  intro call member
  rcases List.mem_cons.mp member with rfl | member
  · trivial
  · rcases List.mem_append.mp member with prepared | links
    · exact spares_of_mem_preparation settings call prepared
    · rw [List.mem_singleton.mp links]
      exact elsewhere

end SessionCall

/-- What the work on a source relies on: a tree in order, a temporary directory whose path is a
text, and the file itself. -/
structure Host.Supplies (base : Host) (source : Place) : Prop where
  wellFormed : base.files.WellFormed
  text : Bytes.ofText (Path.display base.temporary.path) = base.temporary.path
  stands : ∃ content executable, base.files.get? source = some (.file content executable)

namespace Codon

/-- A scratch directory, in which neither the source is nor anything was before but files. -/
structure IsScratch (base : Host) (source place : Place) : Prop where
  number : ∃ number, place = scratchPlace base.temporary number
  inside : base.files.hasDirectory base.temporary = true
  apart : ∀ other, place <+: other → base.files.IsLoose other ∧ other ≠ source

/-- A session has spared the source so far, and its artifacts are in its scratch
directory. -/
structure Session.AtWork (base : Host) (source : Place) (binary : Path) (session : Session)
    (host : Host) : Prop where
  sparing : Host.Sparing base source (FileTree.AtWork base.files source session.scratch) host
  binary : session.binary = binary
  scratch : ∀ place, session.scratch = some place → IsScratch base source place
  artifact : ∀ artifact, session.artifact = some artifact →
    ∃ place input, session.scratch = some place ∧ artifact = artifactPath place input

variable {launcher : Launcher} {binary : Path} {base host : Host} {source place : Place}
  {session : Session}

theorem Session.AtWork.lasting (session : Session) :
    Host.Lasting (session.AtWork base source binary) := by
  intro before after appends atWork
  constructor
  · exact Host.Sparing.lasting (fun rewrites known => known.rewrites rewrites) appends
      atWork.sparing
  · exact atWork.binary
  · exact atWork.scratch
  · exact atWork.artifact

/-- The process takes over a tree in which other files than the source were rewritten. -/
theorem Session.AtWork.takeOver {before : Host} {files : FileTree}
    (atWork : session.AtWork base source binary host)
    (earlier : session.AtWork base source binary before)
    (rewrites : FileTree.Rewrites (· ≠ source) before.files files) :
    session.AtWork base source binary { host with files } := by
  constructor
  · exact atWork.sparing.withFiles (earlier.sparing.files.rewrites rewrites)
  · exact atWork.binary
  · exact atWork.scratch
  · exact atWork.artifact

variable (supplies : base.Supplies source)

include supplies

/-! ## The scratch directory -/

namespace IsScratch

theorem plain (isScratch : IsScratch base source place) :
    ∀ name ∈ base.temporary, Name.IsPlain name :=
  supplies.wellFormed.plain (FileTree.WellFormed.get?_ne_none_of_hasDirectory isScratch.inside)

variable {tree : FileTree}

theorem directories (isScratch : IsScratch base source place)
    (files : FileTree.AtWork base.files source (some place) tree) {front : Place}
    (above : front <+: place) : tree.hasDirectory front = true := by
  obtain ⟨number, rfl⟩ := isScratch.number
  rw [Session.scratchPlace_eq] at above
  rcases List.prefix_concat_iff.mp above with rfl | higher
  · exact files.made _ rfl
  · exact files.ways.hasDirectory
      (supplies.wellFormed.above_directory higher isScratch.inside)

/-- What is in the scratch directory is not the source. -/
theorem elsewhere (isScratch : IsScratch base source place)
    (files : FileTree.AtWork base.files source (some place) tree) {name : Name}
    (absent : Bytes.slash ∉ name) {current : Place} {purpose : FileTree.Purpose}
    {target : FileTree.Target}
    (found : tree.lookup current (place.path ++ Bytes.slash :: name) purpose = .ok target) :
    target.place ≠ source := by
  have plain : ∀ name ∈ place, Name.IsPlain name := by
    obtain ⟨number, rfl⟩ := isScratch.number
    exact Session.isPlain_scratchPlace (isScratch.plain supplies) number
  obtain ⟨looseBase, apart⟩ := isScratch.apart (place ++ [name]) (List.prefix_append _ _)
  have loose : tree.IsLoose (place ++ [name]) := by
    apply files.loose _ looseBase
    intro same
    simpa using Option.some.inj same
  have notLink (target : Path) : tree.get? (place ++ [name]) ≠ some (.link target) :=
    fun found => nomatch loose _ found
  rcases FileTree.lookup_inside plain (fun _ => isScratch.directories supplies files) absent notLink
    found with here | isDirectory
  · rw [here]
    exact apart
  · rintro rfl
    obtain ⟨content, executable, stands⟩ := supplies.stands
    rw [(FileTree.IsLoose.of_file (files.kept.trans stands)).not_hasDirectory] at isDirectory
    cases isDirectory

end IsScratch

namespace Session.AtWork

/-- The place of a scratch directory is free when it is made. -/
theorem makeScratch (needed : session.scratch = none) :
    Ensures (session.AtWork base source binary) Session.makeScratch fun outcome host =>
      match outcome with
      | .error _ => session.AtWork base source binary host
      | .ok place =>
          Session.AtWork base source binary { session with scratch := some place } host := by
  intro host atWork
  unfold Session.makeScratch
  rw [Action.bind_apply, Action.get_apply]
  dsimp only
  cases isDirectory : host.files.hasDirectory host.temporary with
  | false => exact atWork
  | true =>
      have files := atWork.sparing.files
      rw [needed] at files
      have isFree := Session.get?_freeScratch host.files host.temporary host.scratchesMade
      have present : base.files.get? source ≠ none := by
        obtain ⟨content, executable, stands⟩ := supplies.stands
        rw [stands]
        nofun
      constructor
      · have made := files.makeDirectory present isFree
        exact ⟨atWork.sparing.directory, atWork.sparing.temporary, atWork.sparing.closed, made⟩
      · exact atWork.binary
      · rintro _ ⟨⟩
        constructor
        · exact ⟨_, by rw [atWork.sparing.temporary]⟩
        · rw [← atWork.sparing.temporary]
          exact files.hasDirectory_base isDirectory
        · exact fun _ => files.apart_of_free supplies.wellFormed present isFree
      · intro artifact compiled
        obtain ⟨_, _, scratch, -⟩ := atWork.artifact artifact compiled
        rw [needed] at scratch
        cases scratch

theorem needScratch (session : Session) :
    Ensures (session.AtWork base source binary) session.needScratch fun outcome host =>
      match outcome with
      | .error _ => session.AtWork base source binary host
      | .ok place =>
          Session.AtWork base source binary { session with scratch := some place } host := by
  cases found : session.scratch with
  | some place =>
      have made : session.needScratch = pure (.ok place) := by
        rw [Session.needScratch, found]
      have same : { session with scratch := some place } = session := by rw [← found]
      rw [made]
      apply Ensures.value
      dsimp only
      rw [same]
      exact fun _ atWork => atWork
  | none =>
      have made : session.needScratch = Session.makeScratch := by
        rw [Session.needScratch, found]
      rw [made]
      exact makeScratch supplies found

/-- An artifact is not the source. -/
theorem elsewhere (atWork : session.AtWork base source binary host) {artifact : Path}
    (compiled : session.artifact = some artifact) {current : Place} {purpose : FileTree.Purpose}
    {target : FileTree.Target} (found : host.files.lookup current artifact purpose = .ok target) :
    target.place ≠ source := by
  obtain ⟨place, input, made, rfl⟩ := atWork.artifact artifact compiled
  have isScratch := atWork.scratch place made
  have files := atWork.sparing.files
  rw [made] at files
  obtain ⟨number, rfl⟩ := isScratch.number
  rw [Session.artifactPath_eq] at found
  exact isScratch.elsewhere supplies files (Session.slash_not_mem_artifactName input) found

/-! ## Calls -/

/-- The compiler is asked to write into the scratch directory. -/
theorem tolerates_compiler (writes : launcher.WritesOnlyOutput binary) {seen : Host}
    {settings : Settings} {plugins : List String} {input : Path}
    (made : session.scratch = some place) :
    Tolerates (session.AtWork base source binary) launcher
      (session.compilerInvocation seen
        (buildArguments settings plugins input (artifactPath place input))) := by
  intro before host execution working started atWork
  have isScratch := working.scratch place made
  have files := working.sparing.files
  rw [made] at files
  apply atWork.takeOver working
  apply (writes.compiler working.binary started).weaken
  rintro _ ⟨options, output, last, target, arguments, found, rfl⟩
  have named : Bytes.ofText (Path.display (artifactPath place input)) = output := by
    simp only [Session.compilerInvocation, buildArguments, List.map_append, List.map_cons,
      List.map_nil] at arguments
    have ends := (List.append_inj' arguments rfl).2
    exact (List.cons.inj (List.cons.inj ends).2).1
  obtain ⟨number, rfl⟩ := isScratch.number
  rw [← named, Session.ofText_display_artifactPath,
    Session.ofText_display_scratchPlace supplies.text] at found
  exact isScratch.elsewhere supplies files
    (Utf8.slash_not_mem_lossy (Session.slash_not_mem_artifactName input)) found

omit supplies in
/-- The artifact is in the scratch directory. -/
theorem compiled (atWork : session.AtWork base source binary host)
    (made : session.scratch = some place) (input : Path) :
    Session.AtWork base source binary { session with artifact := some (artifactPath place input) }
      host := by
  constructor
  · exact atWork.sparing
  · exact atWork.binary
  · exact atWork.scratch
  · rintro _ ⟨⟩
    exact ⟨place, input, made, rfl⟩

theorem compile (writes : launcher.WritesOnlyOutput binary) (session : Session) :
    Ensures (session.AtWork base source binary) (session.compile launcher)
      fun reached => reached.2.AtWork base source binary := by
  unfold Session.compile
  split
  · exact .value fun _ atWork => atWork
  · rename_i input parsed
    refine (needScratch supplies session).bind fun made => ?_
    cases made with
    | error error => exact .value fun _ atWork => atWork
    | ok place =>
        refine .look fun seen _ => ?_
        refine (Ensures.collecting (lasting _)
          (tolerates_compiler supplies writes rfl)).bind fun started => ?_
        cases started with
        | error error => exact .value fun _ atWork => atWork
        | ok collected =>
            obtain ⟨output, status⟩ := collected
            dsimp only
            split
            · split
              · have made : Host.Lasting
                    (Session.AtWork base source binary { session with scratch := some place }) :=
                  lasting _
                have written := Ensures.of_steps made
                  (Speaks.writeStream (fun _ => not_false) .stderr output.stderr).spares
                exact written.bind fun _ => .value fun _ atWork => atWork.compiled rfl input
              · exact .value fun _ atWork => atWork.compiled rfl input
            · exact .value fun _ atWork => atWork

/-- A program changes nothing. -/
theorem tolerates_program (writes : launcher.WritesOnlyOutput binary) {root : Path}
    (isCompiler : binary = (root.joinText "bin").joinText "codon") {artifact : Path}
    (compiled : session.artifact = some artifact) {invocation : Invocation}
    (program : invocation.program = artifact) :
    Tolerates (session.AtWork base source binary) launcher invocation := by
  intro before host execution working started atWork
  have notCompiler : invocation.program ≠ binary := by
    obtain ⟨place, input, made, rfl⟩ := working.artifact artifact compiled
    have isScratch := working.scratch place made
    obtain ⟨number, rfl⟩ := isScratch.number
    rw [program, isCompiler]
    exact Session.artifactPath_ne_binary (isScratch.plain supplies) number input root
  apply atWork.takeOver working
  exact fun place => .inl (writes.program notCompiler started place)

theorem run (writes : launcher.WritesOnlyOutput binary) {root : Path}
    (isCompiler : binary = (root.joinText "bin").joinText "codon") (session : Session)
    (arguments : List String) :
    Ensures (session.AtWork base source binary) (session.run launcher arguments)
      fun reached => reached.2.AtWork base source binary := by
  unfold Session.run
  split
  · exact .value fun _ atWork => atWork
  · rename_i artifact compiled
    refine .look fun seen _ => ?_
    refine (Ensures.inheriting (lasting session) fun closed =>
      tolerates_program supplies writes isCompiler compiled rfl).bind fun started => ?_
    cases started with
    | error error => exact .value fun _ atWork => atWork
    | ok status =>
        dsimp only
        split
        · exact .value fun _ atWork => atWork
        · exact .value fun _ atWork => atWork

omit supplies in
/-- Opening an entry that is not the source. -/
theorem openOther (other : place ≠ source) :
    Ensures (session.AtWork base source binary) (SystemCall.openAs (.entry · place))
      fun _ => session.AtWork base source binary := by
  apply Ensures.openEntry (lasting session)
  intro host opening atWork
  exact ⟨atWork.sparing.occupy other opening, atWork.binary, atWork.scratch, atWork.artifact⟩

omit supplies in
theorem close (number : Nat) :
    Ensures (session.AtWork base source binary) (SystemCall.close number)
      fun _ => session.AtWork base source binary :=
  .of_steps (lasting session) (Spares.close not_false)

omit supplies in
/-- A copy is written to where its path has led from the beginning. -/
theorem takeCopy {before : Host} {files : FileTree} {artifact output : Path}
    (atWork : session.AtWork base source binary host)
    (earlier : session.AtWork base source binary before)
    (elsewhere : base.LeadsElsewhere source output)
    (copied : before.files.copy base.directory artifact output = .ok files) :
    session.AtWork base source binary { host with files } := by
  obtain ⟨target, leads, other⟩ := elsewhere
  obtain ⟨written, found, rewrites⟩ := FileTree.copy_ok copied
  obtain ⟨later, foundLater, same⟩ :=
    FileTree.lookup_alike earlier.sparing.files.ways leads (.inl rfl)
  rw [found] at foundLater
  cases foundLater
  apply atWork.takeOver earlier
  apply rewrites.weaken
  rintro _ rfl
  rw [same]
  exact other

omit supplies in
/-- After a copy its source is closed and the tree is taken over. -/
theorem finishCopy (input : Nat) (copied : Except OsError FileTree)
    (taken : ∀ host files, session.AtWork base source binary host → copied = .ok files →
      session.AtWork base source binary { host with files }) :
    Ensures (session.AtWork base source binary)
      (do SystemCall.close input
          Session.takeCopy copied) fun _ => session.AtWork base source binary := by
  refine (close input).bind fun _ => ?_
  cases copied with
  | error error => exact .value fun _ atWork => atWork
  | ok files => exact fun host atWork => taken host files atWork rfl

theorem copyFile {artifact output : Path} (compiled : session.artifact = some artifact)
    (elsewhere : base.LeadsElsewhere source output) :
    Ensures (session.AtWork base source binary) (Session.copyFile artifact output)
      fun _ => session.AtWork base source binary := by
  refine (Ensures.note (lasting session) _).bind fun _ => ?_
  refine .look fun seen working => ?_
  dsimp only
  split
  · exact .value fun _ atWork => atWork
  · rename_i place node found
    have apart : place ≠ source :=
      working.elsewhere supplies compiled (FileTree.lookup_of_entry found)
    refine (openOther apart).bind fun opened => ?_
    cases opened with
    | error error => exact .value fun _ atWork => atWork
    | ok input =>
        have second : Ensures (session.AtWork base source binary)
            (if node.isFile then SystemCall.openAs (.entry · place) else pure (.ok input))
            fun _ => session.AtWork base source binary := by
          split
          · exact openOther apart
          · exact .value fun _ atWork => atWork
        refine second.bind fun opened => ?_
        cases opened with
        | error error => exact (close input).bind fun _ => .value fun _ atWork => atWork
        | ok number =>
            refine .look fun before earlier => ?_
            rw [working.sparing.directory]
            have ended := finishCopy input (before.files.copy base.directory artifact output)
              fun host files atWork copied => takeCopy atWork earlier elsewhere copied
            split
            · exact (close number).bind fun _ => ended
            · exact ended

theorem writeExecutable (session : Session) {output : Path} (options : LinkOptions)
    (elsewhere : base.LeadsElsewhere source output) :
    Ensures (session.AtWork base source binary) (session.writeExecutable output options)
      fun reached => reached.2.AtWork base source binary := by
  unfold Session.writeExecutable
  split
  · exact .value fun _ atWork => atWork
  · split
    · exact .value fun _ atWork => atWork
    · rename_i artifact compiled
      refine (copyFile supplies compiled elsewhere).bind fun copied => ?_
      cases copied with
      | error error => exact .value fun _ atWork => atWork
      | ok copied => exact .value fun _ atWork => atWork

end Session.AtWork

/-! ## Whole sessions -/

omit supplies in
theorem lasting_keepsSource :
    Host.Lasting (Host.Sparing base source (FileTree.KeepsSource base.files source)) :=
  Host.Sparing.lasting fun rewrites known => known.rewrites rewrites

omit supplies in
theorem Session.AtWork.exit (atWork : session.AtWork base source binary host) :
    Host.Sparing base source (FileTree.KeepsSource base.files source) host :=
  atWork.sparing.weaken fun _ files => files.toKeepsSource

omit supplies in
/-- Nothing of before is removed with the scratch directory. -/
theorem Session.AtWork.closeSession (session : Session) :
    Ensures (session.AtWork base source binary) session.close
      fun _ => Host.Sparing base source (FileTree.KeepsSource base.files source) := by
  unfold Session.close
  split
  · exact .value fun _ => exit
  · rename_i place made
    have openScratch : Ensures (session.AtWork base source binary)
        (SystemCall.openAs (.entry · place)) fun _ => session.AtWork base source binary := by
      intro host atWork
      have other := ((atWork.scratch place made).apart place (List.prefix_refl place)).2
      exact openOther other host atWork
    refine openScratch.bind fun opened => ?_
    cases opened with
    | error error => exact .value fun _ => exit
    | ok number =>
        have removed : Ensures (session.AtWork base source binary)
            (modify fun host => { host with files := host.files.eraseAll place })
            fun _ => Host.Sparing base source (FileTree.KeepsSource base.files source) := by
          intro host atWork
          have apart := (atWork.scratch place made).apart
          exact atWork.sparing.withFiles (atWork.sparing.files.removeDirectory apart)
        exact removed.bind fun _ => .of_steps lasting_keepsSource (Spares.close not_false)

/-- The calls of a session spare the source, as long as the executable is written somewhere
else. -/
theorem maintains (writes : launcher.WritesOnlyOutput binary) {root : Path}
    (isCompiler : binary = (root.joinText "bin").joinText "codon") :
    (toolchain launcher binary).Maintains (SessionCall.Spares base source)
      (Host.Sparing base source (FileTree.AtWork base.files source none))
      (Session.AtWork base source binary)
      (Host.Sparing base source (FileTree.KeepsSource base.files source)) where
  lastingStart := Host.Sparing.lasting fun rewrites known => known.rewrites rewrites
  lasting := Session.AtWork.lasting
  lastingFinish := lasting_keepsSource
  create settings := .value fun host sparing => ⟨sparing, rfl, nofun, nofun⟩
  call session call permitted := by
    cases call with
    | create optimisation => exact .value fun _ atWork => atWork
    | plugin name =>
        refine .look fun seen _ => ?_
        split
        · exact .value fun _ atWork => atWork
        · exact .value fun _ atWork => { atWork with }
    | parse input =>
        refine .look fun seen _ => ?_
        split
        · exact .value fun _ atWork => { atWork with }
        · exact .value fun _ atWork => atWork
    | compile => exact Session.AtWork.compile supplies writes session
    | run arguments libs => exact Session.AtWork.run supplies writes isCompiler session arguments
    | link output options =>
        exact Session.AtWork.writeExecutable supplies session options permitted
  close := Session.AtWork.closeSession
  exit session host := Session.AtWork.exit

end Codon

end CompileDriver
