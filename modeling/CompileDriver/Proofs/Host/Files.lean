import CompileDriver.Host.Start
import CompileDriver.Proofs.Driver.Spares
import CompileDriver.Proofs.FileTree.Change
import CompileDriver.Proofs.Host.Spawn

/-!
# What the process does to the file tree

By itself the process only adds to files that it has open, and it opens none.  An assertion
is lasting when it survives this.  A program that is started changes the file tree besides,
and so do the calls on a session.
-/

namespace CompileDriver

namespace Host

/-- Some number refers to the entry at a place. -/
def HasOpen (host : Host) (place : Place) : Prop :=
  ∃ number opening, host.table.file? number = some (.entry opening place)

/-- A fresh process has opened no entry. -/
theorem not_hasOpen_of_standard {host : Host} (fresh : host.table = .standard)
    (place : Place) : ¬ host.HasOpen place := by
  rintro ⟨number, opening, found⟩
  rw [fresh] at found
  rcases number with _ | _ | _ | number
  all_goals cases found

/-- From one host to another, only files that were open are rewritten, and nothing is
opened. -/
structure Appends (before after : Host) : Prop where
  directory : after.directory = before.directory
  temporary : after.temporary = before.temporary
  files : FileTree.Rewrites before.HasOpen before.files after.files
  opened : ∀ place, after.HasOpen place → before.HasOpen place

namespace Appends

variable {first second third before after : Host}

/-- A change that leaves the file tree and the descriptors as they are. -/
theorem of_same (directory : after.directory = before.directory)
    (temporary : after.temporary = before.temporary) (files : after.files = before.files)
    (table : after.table = before.table) : Appends before after where
  directory := directory
  temporary := temporary
  files := files ▸ .refl _ _
  opened place isOpen := by
    unfold HasOpen at isOpen ⊢
    rwa [table] at isOpen

theorem refl (host : Host) : Appends host host :=
  .of_same rfl rfl rfl rfl

theorem trans (start : Appends first second) (rest : Appends second third) :
    Appends first third where
  directory := rest.directory.trans start.directory
  temporary := rest.temporary.trans start.temporary
  files := start.files.trans (rest.files.weaken start.opened)
  opened place isOpen := start.opened place (rest.opened place isOpen)

theorem of_readersRan (ran : ReadersRan before after) : Appends before after :=
  .of_same (by rw [ran.rest]) (by rw [ran.rest]) ran.files ran.table

/-- A change of the table that opens no entry. -/
theorem of_table {host : Host} {table : DescriptorTable}
    (known : ∀ number opening place, table.file? number = some (.entry opening place) →
      host.HasOpen place) : Appends host { host with table } where
  directory := rfl
  temporary := rfl
  files := .refl _ _
  opened place := fun ⟨number, opening, found⟩ => known number opening place found

theorem deliver {host : Host} {number : Nat} {file : OpenFile}
    (found : host.table.file? number = some file) (bytes : Bytes) :
    Appends host (host.deliver file bytes).2 := by
  cases file with
  | pipeWriter pipe =>
      unfold Host.deliver
      dsimp only
      split
      · have fed := fed_feed pipe host bytes
        exact .of_same (by rw [fed.rest]) (by rw [fed.rest]) (by rw [fed.rest]) (by rw [fed.rest])
      · exact .of_readersRan (readersRan_takeTurn host)
  | entry opening place =>
      have appended : Appends host { host with files := host.files.append place bytes } :=
        { directory := rfl
          temporary := rfl
          files := by
            apply (host.files.rewrites_append place bytes).weaken
            rintro _ rfl
            exact ⟨number, opening, found⟩
          opened := fun _ isOpen => isOpen }
      exact appended.trans (.of_readersRan (readersRan_takeTurn _))
  | initial stream =>
      have received : Appends host
          { host with received := host.received.modify stream (· ++ bytes) } :=
        .of_same rfl rfl rfl rfl
      exact received.trans (.of_readersRan (readersRan_takeTurn _))
  | emptyInput | pipeReader | discard => exact .of_readersRan (readersRan_takeTurn host)

end Appends

variable {foreign : Nat → Prop} {before after : Host}

theorem Step.appends (step : Step foreign before after) : Appends before after := by
  cases step with
  | utter utterance =>
      cases utterance with
      | turn => exact .of_readersRan (readersRan_takeTurn before)
      | deliver own found bytes => exact .deliver found bytes
      | note | lineBuffer | buffers => exact .of_same rfl rfl rfl rfl
  | occupy known =>
      apply Appends.of_table
      intro number opening place found
      rw [before.table.file?_occupy] at found
      split at found
      · rcases known with notEntry | ⟨other, -, same⟩
        · rw [Option.some.inj found] at notEntry
          cases notEntry
        · exact ⟨other, opening, same.trans found⟩
      · exact ⟨number, opening, found⟩
  | @pointTo source target ownSource ownTarget =>
      apply Appends.of_table
      intro number opening place found
      by_cases moved : number = target
      · subst moved
        cases stands : before.table.file? source with
        | none =>
            rw [DescriptorTable.pointTo, (before.table.file?_eq_none_iff source).mp stands] at found
            exact ⟨number, opening, found⟩
        | some file =>
            rw [before.table.file?_pointTo stands, if_pos rfl] at found
            exact ⟨source, opening, stands.trans found⟩
      · rw [before.table.file?_pointTo_of_ne source moved] at found
        exact ⟨number, opening, found⟩
  | close =>
      apply Appends.of_table
      intro number opening place found
      rw [before.table.file?_close] at found
      split at found
      · cases found
      · exact ⟨number, opening, found⟩
  | startReader started =>
      unfold Host.startReader at started
      split at started
      · cases started
      · cases started
        exact .of_same rfl rfl rfl rfl
  | join thread =>
      have joined : Appends (before.await _) (before.join thread).2 := .of_same rfl rfl rfl rfl
      exact (Appends.of_readersRan (readersRan_await before _)).trans joined
  | refusals | addPipe | opened | askToStop | measured => exact .of_same rfl rfl rfl rfl

theorem Steps.appends (steps : Steps foreign before after) : Appends before after := by
  induction steps with
  | refl => exact .refl _
  | tail _ step ih => exact ih.trans step.appends

/-- An assertion that survives what the process does to the file tree by itself. -/
def Lasting (holds : Host → Prop) : Prop :=
  ∀ {before after : Host}, Appends before after → holds before → holds after

end Host

/-! ## Actions -/

variable {α : Type}

/-- Only to add to files that are open. -/
def appending : Discipline where
  needs _ := True
  allows := Host.Appends
  refl := .refl
  trans := .trans
  keeps _ _ := trivial

theorem appending_letsServe : appending.LetsServe where
  anywhere _ := trivial
  steps := Host.Steps.appends
  crash _ := .of_same rfl rfl rfl rfl

namespace Ensures

variable {holds : Host → Prop}

/-- What is known besides the assertion can be used. -/
theorem given {fact : Prop} {action : Action α} {pre : Host → Prop} {post : α → Host → Prop}
    (ensures : fact → Ensures pre action post) :
    Ensures (fun host => fact ∧ pre host) action post :=
  fun host both => ensures both.1 host both.2

/-- What is known to exist can be chosen. -/
theorem chosen {ι : Sort*} {action : Action α} {pre : ι → Host → Prop} {post : α → Host → Prop}
    (ensures : ∀ choice, Ensures (pre choice) action post) :
    Ensures (fun host => ∃ choice, pre choice host) action post :=
  fun host known => known.elim fun choice holding => ensures choice host holding

/-- What follows a look at the host need only be right after what was seen. -/
theorem look {β : Type} {pre : Host → Prop} {next : Host → Action β} {post : β → Host → Prop}
    (rest : ∀ seen, pre seen → Ensures pre (next seen) post) : Ensures pre (get >>= next) post :=
  fun host holding => rest host holding host holding

/-- A lasting assertion survives every action that only adds to open files. -/
theorem of_appending (lasting : Host.Lasting holds) {action : Action α} {yields : α → Prop}
    (appends : appending.Governs action yields) :
    Ensures holds action fun value host => yields value ∧ holds host :=
  fun host holding =>
    ⟨(appends host trivial).2, lasting (appends host trivial).1 holding⟩

theorem of_steps (lasting : Host.Lasting holds) {action : Action α} {yields : α → Prop}
    (spares : Spares (fun _ => False) action yields) : Ensures holds action fun _ => holds :=
  (of_appending lasting (appending_letsServe.spares spares)).weaken fun _ _ reached => reached.2

/-- Opening an entry, which the assertion has to allow. -/
theorem openEntry (lasting : Host.Lasting holds) {place : Place}
    (opens : ∀ (host : Host) opening, holds host → holds
      { host with
        table := host.table.occupy ⟨.entry opening place, false⟩
        openings := host.openings + 1 }) :
    Ensures holds (SystemCall.openAs (.entry · place)) fun _ => holds := by
  intro host holding
  have ended (next : Host) (holdingNext : holds next) : holds next.endCall := by
    have steps : Host.Steps (fun _ => False) next next.endCall := Host.steps_endCall next
    exact lasting steps.appends holdingNext
  have withRefusals (refusals : List (Option OsError)) : holds { host with refusals } := by
    have same : Host.Appends host { host with refusals } := .of_same rfl rfl rfl rfl
    exact lasting same holding
  obtain ⟨refusals, ⟨error, failed⟩ | ⟨number, next, done, granted⟩⟩ :=
    SystemCall.acquire_cases (·.openAs (.entry · place)) host
  · rw [SystemCall.openAs, failed]
    exact ended _ (withRefusals refusals)
  · rw [SystemCall.openAs, granted]
    obtain ⟨rfl, rfl⟩ := Host.openAs_ok done
    exact ended _ (opens _ _ (withRefusals refusals))

theorem note (lasting : Host.Lasting holds) (event : Event) :
    Ensures holds (modify (·.note event) : Action PUnit) fun _ => holds :=
  fun host holding =>
    have noted : Host.Appends host (host.note event) := .of_same rfl rfl rfl rfl
    lasting noted holding

end Ensures

/-! ## Programs -/

/-- The assertion survives what a program makes of a file tree.  The process may have gone
on when it takes over the tree that the program has left. -/
def Tolerates (holds : Host → Prop) (launcher : Launcher) (invocation : Invocation) : Prop :=
  ∀ {before host : Host} {execution : Execution}, holds before →
    launcher invocation before.files = .ok execution → holds host →
      holds { host with files := execution.files }

namespace Ensures

variable {holds : Host → Prop} (lasting : Host.Lasting holds) {launcher : Launcher}
  {invocation : Invocation}

include lasting

theorem launch :
    Ensures holds (Spawn.launch launcher invocation) fun started host =>
      (∃ before, holds before ∧ started = launcher invocation before.files) ∧ holds host := by
  intro host holding
  have noted := note lasting (.launched invocation) host holding
  exact ⟨⟨_, noted, rfl⟩, noted⟩

theorem closeAll (numbers : List Nat) :
    Ensures holds (Spawn.closeAll numbers) fun _ => holds :=
  of_steps lasting (.each fun _ _ => Spares.close not_false)

/-- What the run of a collected program has left holds when its output is handed over. -/
theorem collectingOn {left : Execution → Host → Prop}
    (lastingLeft : ∀ execution, Host.Lasting (left execution))
    (takes : ∀ {before host execution}, holds before →
      launcher invocation before.files = .ok execution → holds host →
        left execution { host with files := execution.files })
    (input : Nat) (stdout stderr : Nat × Nat) :
    Ensures holds (Spawn.collectingOn launcher invocation input stdout stderr)
      fun outcome host => match outcome with
        | .error _ => holds host
        | .ok collected => ∃ execution, collected.status = execution.status ∧
            left execution host := by
  refine (launch lasting).bind fun started => given ?_
  rintro ⟨before, held, same⟩
  refine (closeAll lasting _).bind fun _ => ?_
  cases started with
  | error error => exact (closeAll lasting _).bind fun _ => .value fun _ holding => holding
  | ok execution =>
      have changed : Ensures holds (modify fun host => { host with files := execution.files })
          fun _ => left execution := fun _ holding => takes held same.symm holding
      refine changed.bind fun _ => (closeAll (lastingLeft execution) _).bind fun _ => ?_
      exact .value fun _ known => ⟨execution, rfl, known⟩

/-- The same when the program can also fail to start for want of descriptors. -/
theorem collectingLeft {left : Execution → Host → Prop}
    (lastingLeft : ∀ execution, Host.Lasting (left execution))
    (takes : ∀ {before host execution}, holds before →
      launcher invocation before.files = .ok execution → holds host →
        left execution { host with files := execution.files }) :
    Ensures holds (Spawn.collecting launcher invocation)
      fun outcome host => match outcome with
        | .error _ => holds host
        | .ok collected => ∃ execution, collected.status = execution.status ∧
            left execution host := by
  unfold Spawn.collecting
  split
  · exact .value fun _ holding => holding
  · refine (of_steps lasting Spares.openDiscard).bind fun opened => ?_
    cases opened with
    | error error => exact .value fun _ holding => holding
    | ok input =>
        refine (of_steps lasting Spares.pipe).bind fun made => ?_
        cases made with
        | error error =>
            exact (closeAll lasting _).bind fun _ => .value fun _ holding => holding
        | ok stdout =>
            refine (of_steps lasting Spares.pipe).bind fun made => ?_
            cases made with
            | error error =>
                exact (closeAll lasting _).bind fun _ => .value fun _ holding => holding
            | ok stderr => exact collectingOn lasting lastingLeft takes input stdout stderr

/-- A program whose output is collected. -/
theorem collecting (tolerates : Tolerates holds launcher invocation) :
    Ensures holds (Spawn.collecting launcher invocation) fun _ => holds := by
  refine (collectingLeft lasting (fun _ => lasting) tolerates).weaken fun outcome host known => ?_
  cases outcome with
  | error error => exact known
  | ok collected =>
      obtain ⟨_, -, holding⟩ := known
      exact holding

/-- A program that inherits the streams. -/
theorem inheriting
    (tolerates : ∀ closed, Tolerates holds launcher { invocation with closed }) :
    Ensures holds (Spawn.inheriting launcher invocation) fun _ => holds := by
  unfold Spawn.inheriting
  split
  · exact .value fun _ holding => holding
  · refine look fun seen _ => (launch lasting).bind fun started => given ?_
    rintro ⟨before, held, same⟩
    cases started with
    | error error => exact .value fun _ holding => holding
    | ok execution =>
        have changed : Ensures holds (modify fun host => { host with files := execution.files })
            fun _ => holds := fun _ holding => tolerates _ held same.symm holding
        have written : Ensures holds
            (execution.output.forM fun write => Spawn.writeInherited write.stream write.bytes)
            fun _ => holds :=
          of_steps lasting (.each fun write _ =>
            (Speaks.writeInherited (fun _ => not_false) write.stream write.bytes).spares)
        exact changed.bind fun _ => written.bind fun _ => .value fun _ holding => holding

end Ensures

end CompileDriver
