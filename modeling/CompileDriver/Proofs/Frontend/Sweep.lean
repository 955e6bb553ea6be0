import CompileDriver.Frontend.Basic
import CompileDriver.Host.Start
import CompileDriver.Proofs.FileTree.Sweep
import CompileDriver.Proofs.Host.Files

/-!
# The sweep of a process

Before a request the process sweeps stale sockets from a directory, and reports those that it
cannot remove.  The reports go where the log goes, which may be a file of the tree that the
process has open; such a file grows, and nothing else happens to the tree besides the sweep.
-/

namespace CompileDriver

/-! ## The tree under the log -/

namespace Host

/-- Writing lets files grow that are open, and keeps the tree well-formed. -/
structure Writes (before after : Host) : Prop where
  directory : after.directory = before.directory
  table : after.table = before.table
  files : FileTree.Grows before.HasOpen before.files after.files
  wellFormed : before.files.WellFormed → after.files.WellFormed

namespace Writes

variable {first second third before after : Host}

theorem of_same (directory : after.directory = before.directory)
    (table : after.table = before.table) (files : after.files = before.files) :
    Writes before after where
  directory := directory
  table := table
  files := files ▸ .refl _ _
  wellFormed wellFormed := files ▸ wellFormed

theorem refl (host : Host) : Writes host host :=
  .of_same rfl rfl rfl

theorem trans (start : Writes first second) (rest : Writes second third) : Writes first third where
  directory := rest.directory.trans start.directory
  table := rest.table.trans start.table
  files := start.files.trans <| rest.files.weaken fun place isOpen => by
    unfold HasOpen at isOpen ⊢
    rwa [start.table] at isOpen
  wellFormed wellFormed := rest.wellFormed (start.wellFormed wellFormed)

theorem of_readersRan (ran : ReadersRan before after) : Writes before after :=
  .of_same (by rw [ran.rest]) ran.table ran.files

theorem deliver {host : Host} {number : Nat} {file : OpenFile}
    (found : host.table.file? number = some file) (bytes : Bytes) :
    Writes host (host.deliver file bytes).2 := by
  cases file with
  | pipeWriter pipe =>
      unfold Host.deliver
      dsimp only
      split
      · have fed := fed_feed pipe host bytes
        exact .of_same (by rw [fed.rest]) fed.table (by rw [fed.rest])
      · exact .of_readersRan (readersRan_takeTurn host)
  | entry opening place =>
      have appended : Writes host { host with files := host.files.append place bytes } :=
        { directory := rfl
          table := rfl
          files := (host.files.grows_append place bytes).weaken <| by
            rintro _ rfl
            exact ⟨number, opening, found⟩
          wellFormed := fun wellFormed => wellFormed.append place bytes }
      exact appended.trans (.of_readersRan (readersRan_takeTurn _))
  | initial stream =>
      have received : Writes host
          { host with received := host.received.modify stream (· ++ bytes) } :=
        .of_same rfl rfl rfl
      exact received.trans (.of_readersRan (readersRan_takeTurn _))
  | emptyInput | pipeReader | discard => exact .of_readersRan (readersRan_takeTurn host)

end Writes

variable {foreign : Nat → Prop} {before after : Host}

theorem Utterance.writes (utterance : Utterance foreign before after) : Writes before after := by
  cases utterance with
  | turn => exact .of_readersRan (readersRan_takeTurn before)
  | deliver own found bytes => exact .deliver found bytes
  | note | lineBuffer | buffers => exact .of_same rfl rfl rfl

theorem Utterances.writes (utterances : Utterances foreign before after) : Writes before after := by
  induction utterances with
  | refl => exact .refl _
  | tail _ utterance ih => exact ih.trans utterance.writes

end Host

namespace Frontend

open FileTree (IsStale Permits)

/-- A sweep changes the tree, and writes reports. -/
theorem writes_sweepFrom (path : Path) (host : Host) :
    (sweepFrom path host).1 = (host.files.sweep host.directory path).removed ∧
      Host.Writes { host with files := (host.files.sweep host.directory path).tree }
        (sweepFrom path host).2 := by
  have reports (refused : List (Place × OsError)) :
      Speaks (fun _ => False) (refused.forM reportRefused) fun _ => True :=
    .each fun _ _ => Speaks.debug (fun _ => not_false) _
  exact ⟨rfl, (reports _ { host with files := (host.files.sweep host.directory path).tree }
    trivial).1.writes⟩

/-- What a sweep from a path does to the tree, and what it reports. -/
structure Sweeps (path : Path) (before : Host) (count : Nat) (after : Host) : Prop where
  /-- Stale files whose removal is permitted are gone. -/
  removed : ∀ place, before.files.IsStale before.directory path place →
    before.files.Permits place → after.files.get? place = none
  /-- Everything else is as it was, but for a file that the log is written to. -/
  kept : ∀ place,
    ¬ (before.files.IsStale before.directory path place ∧ before.files.Permits place) →
      after.files.get? place = before.files.get? place ∨
        before.HasOpen place ∧ ∃ content more executable,
          before.files.get? place = some (.file content executable) ∧
            after.files.get? place = some (.file (content ++ more) executable)
  /-- The files that are gone are counted. -/
  counted : count =
    {place | before.files.IsStale before.directory path place ∧ before.files.Permits place}.ncard

/-- A sweep rewrites the tree as it was, and keeps it well-formed. -/
theorem rewrites_sweepFrom {host : Host} (path : Path) (wellFormed : host.files.WellFormed) :
    FileTree.Rewrites (fun _ => True) host.files (sweepFrom path host).2.files ∧
      (sweepFrom path host).2.files.WellFormed := by
  have writes := (writes_sweepFrom path host).2
  have swept := FileTree.rewrites_sweep wellFormed host.directory path
  constructor
  · exact (swept.weaken fun _ _ => trivial).trans (writes.files.rewrites.weaken fun _ _ => trivial)
  · exact writes.wellFormed wellFormed.sweep

theorem sweeps {host : Host} (path : Path) (wellFormed : host.files.WellFormed)
    (here : host.files.hasDirectory host.directory = true) :
    Sweeps path host (sweepFrom path host).1 (sweepFrom path host).2 := by
  obtain ⟨count, writes⟩ := writes_sweepFrom path host
  have stands := FileTree.get?_sweep wellFormed host.directory path
  constructor
  · intro place stale permits
    rw [writes.files.get?_eq_none_iff, stands place]
    exact if_pos ((FileTree.mem_doomed_iff wellFormed here).mpr ⟨stale, permits⟩)
  · intro place spared
    have kept := writes.files place
    rw [stands place, if_neg fun doomed =>
      spared ((FileTree.mem_doomed_iff wellFormed here).mp doomed)] at kept
    exact kept
  · exact count.trans (FileTree.removed_sweep wellFormed here)

/-- From a path that names nothing, nothing is swept. -/
theorem sweepFrom_nowhere {host : Host} {path : Path} {error : OsError}
    (nowhere : host.files.entry host.directory path .useLink = .error error) :
    sweepFrom path host = (0, host) := by
  have nothing : host.files.sweepCandidates host.directory path = [] := by
    apply List.eq_nil_iff_forall_not_mem.mpr
    intro candidate member
    rcases FileTree.cases_of_mem_sweepCandidates member with
      ⟨place, content, executable, named⟩ | ⟨start, readable, writable, leads⟩
    · cases nowhere.symm.trans named
    · rcases FileTree.entry_useLink leads with named | ⟨there, link, named⟩
      · cases nowhere.symm.trans named
      · cases nowhere.symm.trans named
  have swept : host.files.sweep host.directory path = { tree := host.files } := by
    rw [FileTree.sweep, FileTree.staleSockets, nothing]
    rfl
  rw [sweepFrom, Action.bind_apply, Action.get_apply]
  dsimp only
  rw [swept]
  rfl

/-- After a sweep there is nothing left to remove. -/
theorem sweepFrom_again {host : Host} (path : Path) (wellFormed : host.files.WellFormed)
    (here : host.files.hasDirectory host.directory = true) {place : Place}
    (stale : (sweepFrom path host).2.files.IsStale host.directory path place) :
    ¬ (sweepFrom path host).2.files.Permits place := by
  intro permits
  have done := sweeps path wellFormed here
  obtain ⟨rewrites, -⟩ := rewrites_sweepFrom path wellFormed
  obtain ⟨content, executable, stands⟩ := stale.file
  have permitted : host.files.Permits place := (rewrites.permits_iff place).mp permits
  have stood : host.files.HasFile place := by
    by_cases gone : host.files.IsStale host.directory path place
    · exact gone.file
    · rcases done.kept place fun both => gone both.1 with same | ⟨-, before, _, mode, stood, -⟩
      · exact ⟨content, executable, same.symm.trans stands⟩
      · exact ⟨before, mode, stood⟩
  have removed := done.removed place (rewrites.isStale stale stood) permitted
  cases removed.symm.trans stands

/-- A sweep removes exactly the stale files that it may remove, counts them and leaves
everything else alone.  From a path that names nothing nothing is removed, and a second sweep
from the same path removes nothing. -/
theorem sweeps_remove_stale_sockets {host : Host} (path : Path)
    (wellFormed : host.files.WellFormed)
    (here : host.files.hasDirectory host.directory = true) :
    Sweeps path host (sweepFrom path host).1 (sweepFrom path host).2 ∧
      (∀ error, host.files.entry host.directory path .useLink = .error error →
        sweepFrom path host = (0, host)) ∧
      (sweepFrom path (sweepFrom path host).2).1 = 0 ∧
      FileTree.Grows host.HasOpen (sweepFrom path host).2.files
        (sweepFrom path (sweepFrom path host).2).2.files := by
  refine ⟨sweeps path wellFormed here, fun error => sweepFrom_nowhere, ?_⟩
  obtain ⟨rewrites, wellFormedAfter⟩ := rewrites_sweepFrom path wellFormed
  have writes := (writes_sweepFrom path host).2
  have same : (sweepFrom path host).2.directory = host.directory := writes.directory
  have again := sweeps path wellFormedAfter (same ▸ rewrites.hasDirectory here)
  have nothing (place : Place) :
      ¬ ((sweepFrom path host).2.files.IsStale (sweepFrom path host).2.directory path place ∧
        (sweepFrom path host).2.files.Permits place) := by
    rw [same]
    exact fun both => sweepFrom_again path wellFormed here both.1 both.2
  constructor
  · rw [again.counted]
    simp only [nothing, Set.ofPred_false, Set.ncard_empty]
  · have opened (place : Place) : (sweepFrom path host).2.HasOpen place → host.HasOpen place := by
      unfold Host.HasOpen
      rw [writes.table]
      exact id
    exact fun place => (again.kept place (nothing place)).imp_right (And.imp_left (opened place))

/-- A process in a directory with stale sockets: some that can be removed, one in a directory
that cannot be listed and one in a directory that nothing can be removed from. -/
def litteredHost : Host where
  table := .standard
  directory := Place.ofText "/work"
  files :=
    { entries :=
        [("/work", Node.openDirectory),
          ("/work/sock.0", .file [] false),
          ("/work/sock.dir", Node.openDirectory),
          ("/work/sock.dir/sock.1", .file [] false),
          ("/work/sock.dir/socket", .file [] false),
          ("/work/hidden", .directory false true),
          ("/work/hidden/sock.2", .file [] false),
          ("/work/locked", .directory true false),
          ("/work/locked/sock.3", .file [] false),
          ("/work/sock.link", .link (Bytes.ofText "sock.0"))].map
            fun (path, node) => (Place.ofText path, node) }

/-- Two of the files above are removed. -/
theorem sweeps_remove_stale_sockets_littered :
    (sweepFrom (Bytes.ofText ".") (sweepFrom (Bytes.ofText ".") litteredHost).2).1 = 0 ∧
      (sweepFrom (Bytes.ofText ".") litteredHost).1 = 2 ∧
      (sweepFrom (Bytes.ofText ".") litteredHost).2.files.entries.map (Place.path ∘ Prod.fst) =
        ["/work", "/work/sock.dir", "/work/sock.dir/socket", "/work/hidden", "/work/hidden/sock.2",
          "/work/locked", "/work/locked/sock.3", "/work/sock.link"].map Bytes.ofText := by
  refine ⟨(@sweeps_remove_stale_sockets litteredHost (Bytes.ofText ".") ?_ ?_).2.2.1, ?_, ?_⟩
  · exact ⟨by decide +kernel, by decide +kernel⟩
  · decide +kernel
  · decide +kernel
  · decide +kernel

end Frontend

end CompileDriver
