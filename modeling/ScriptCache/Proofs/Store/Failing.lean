import Mathlib
import ScriptCache.Proofs.Machine.Removal
import ScriptCache.Proofs.Slot.InfoFrame
import ScriptCache.Proofs.Slot.Names
import ScriptCache.Proofs.Store.Inserting
import ScriptCache.Proofs.Store.Ledger
import ScriptCache.Proofs.Store.Still

/-! Insertions that fail.

An insertion may fail at any of its steps, on whatever disk, because of locks that others hold or
because an action failed. Up to the removal of the info file all that was there still is
(`Slot.OnlyMade`); from then on the slot is without an info file that tells anything
(`Disk.Uninformed`), and stays so however often slots are looked up: every lookup of the slot is a
miss (`missed_of_uninformed`). So nobody is ever misled by what a failed insertion leaves
(`failed_insert_safe`). -/
namespace ScriptCache

open Routine

/-! ### Slots without information -/

section

variable [Wire.Memory]

/-- Whether nothing that could be read at a path tells of an artifact. -/
def Disk.Uninformed (d : Disk) (path : String) : Prop :=
  ∀ raw, d.contents? path = some (.ok raw) → Metadata.Illegible raw

namespace Disk

variable {d d' : Disk} {path : String}

theorem uninformed_of_reach (h : d.reach true path = none) : d.Uninformed path := by
  intro raw hraw
  rw [contents?] at hraw
  cases hexisting : d.existing path false with
  | error e =>
    rw [hexisting] at hraw
    cases hraw
  | ok id =>
    rw [existing_eq_ok, h] at hexisting
    cases hexisting

/-- A file that is made somewhere tells of nothing. -/
theorem Uninformed.ensured (h : d.Uninformed path) {other : String}
    (hensured : d.Ensured other d') : d'.Uninformed path := by
  rcases hensured.same_or_added with rfl | hadded
  · exact h
  · intro raw hraw
    rcases contents?_added hadded path with hsame | ⟨-, hempty | ⟨e, herror⟩⟩
    · exact h raw (hsame ▸ hraw)
    · rw [hempty] at hraw
      cases hraw
      exact Metadata.illegible_nil
    · rw [herror] at hraw
      cases hraw

end Disk

variable {m m' m'' : Machine} {slot : Slot} {dependencies : DependencyTable} {signature : Bytes}
  {store : Store} {outcome : LookupOutcome}

omit [Wire.Memory] in
theorem yields_during {α : Type} {lock : FileLock} {work : Routine α} {a : α}
    (h : (lock.during work).Yields m a m') :
    ∃ between, work.Yields m a between ∧ m'.disk = between.disk := by
  obtain ⟨result, between, hwork, hrest⟩ := yields_bind.mp h
  obtain ⟨u, dropped, hdrop, rfl, rfl⟩ := yields_bind.mp hrest
  exact ⟨between, hwork, (still_drop lock).disk hdrop⟩

omit [Wire.Memory] in
/-- What a file is read to be is what is there. -/
theorem yields_read {path : String} {raw : Bytes} (h : (Files.read path).Yields m (.ok raw) m') :
    m.disk.contents? path = some (.ok raw) := by
  obtain ⟨reply, between, hopen, hrest⟩ := yields_bind.mp h
  rcases (yields_perform.mp hopen).openFile with ⟨⟨e, rfl⟩, -⟩ | ⟨handle, rfl, hopened⟩
  · cases hrest.1
  obtain ⟨result, worked, hread, hclose⟩ := yields_bind.mp hrest
  obtain ⟨_, closed, -, rfl, -⟩ := yields_bind.mp hclose
  rw [Machine.openFile_read] at hopened
  refine (Machine.contents?_eq_ok.mp (Machine.contents_eq_ok.mp ?_)).2
  rw [Machine.contents_eq]
  cases hexisting : m.existing path with
  | error e =>
    rw [hexisting] at hopened
    cases hopened
  | ok node =>
    rw [hexisting] at hopened
    obtain ⟨hhandle, rfl⟩ := Prod.mk.inj hopened
    obtain rfl : m.files.length = handle := by simpa using hhandle
    have hfile : (m.addFile { node }).2.file? m.files.length = some { node } := by
      rw [Machine.file?_addFile, if_pos rfl]
    have hends := (yields_perform.mp hread).done_or_failed fun _ _ h => by cases h
    rcases hends with ⟨hreply, -⟩ | ⟨⟨e, herror⟩, -⟩
    · exact (Machine.readRest_start hfile rfl).1.symm.trans hreply.symm
    · cases herror

theorem yields_inspect {path : String} {answer : InfoOutcome} (h : m.disk.Uninformed path)
    (hyields : (Metadata.inspect path dependencies signature).Yields m answer m') :
    answer = .missing ∨ ∃ reason, answer = .corrupt reason := by
  obtain ⟨result, between, hread, hrest⟩ := yields_bind.mp hyields
  cases result with
  | error e =>
    cases e with
    | notFound => exact .inl hrest.1
    | _ => exact .inr ⟨_, hrest.1⟩
  | ok raw =>
    obtain ⟨flaw, hflaw, hwhole⟩ := h raw (yields_read hread)
    simp only [hflaw, hwhole] at hrest
    obtain ⟨_, said, -, rfl, -⟩ := yields_bind.mp hrest
    exact .inr ⟨_, rfl⟩

theorem readSlot_of_uninformed {handle : Handle} (h : m.disk.Uninformed slot.info)
    (hread : (Store.readSlot slot handle dependencies signature).Yields m outcome m') :
    ∃ reason, outcome = .miss reason := by
  obtain ⟨answer, between, hinspect, hrest⟩ := yields_bind.mp hread
  rcases yields_inspect h hinspect with rfl | ⟨reason, rfl⟩
  · exact ⟨_, hrest.1⟩
  · exact ⟨_, hrest.1⟩

theorem lookupLocked_of_uninformed {policy : RetryPolicy} (h : m.disk.Uninformed slot.info)
    (hlookup : (Store.lookupLocked policy slot dependencies signature).Yields m outcome m') :
    ∃ reason, outcome = .miss reason := by
  obtain ⟨reply, opened, hopen, hrest⟩ := yields_bind.mp hlookup
  have hread : (perform (.openFile slot.artifact .read)).Takes Action.Still := takes_perform rfl
  rw [← hread.disk hopen] at h
  cases reply with
  | error e =>
    cases e with
    | notFound => exact ⟨_, hrest.1⟩
    | _ =>
      obtain ⟨_, said, -, rfl, -⟩ := yields_bind.mp hrest
      exact ⟨_, rfl⟩
  | ok handle =>
    obtain ⟨result, locked, hlock, hwork⟩ := yields_bind.mp hrest
    rw [← (still_lockFile handle slot.artifact .shared policy).disk hlock] at h
    cases result with
    | error e =>
      obtain ⟨_, said, -, rfl, -⟩ := yields_bind.mp hwork
      exact ⟨_, rfl⟩
    | ok lock =>
      obtain ⟨read, hslot, -⟩ := yields_during hwork
      exact readSlot_of_uninformed h hslot

/-- A slot without information is missed by every lookup. -/
theorem missed_of_uninformed (h : m.disk.Uninformed slot.info)
    (hlookup : (store.lookup slot dependencies signature).Yields m outcome m') :
    ∃ reason, outcome = .miss reason := by
  obtain ⟨found, searched, hsearch, hsay⟩ := yields_bind.mp hlookup
  obtain ⟨_, said, -, rfl, -⟩ := yields_bind.mp hsay
  rw [Store.search] at hsearch
  split at hsearch
  · exact ⟨_, hsearch.1⟩
  obtain ⟨there, asked, hasked, hrest⟩ := yields_bind.mp hsearch
  obtain ⟨rfl, -⟩ := (yields_perform.mp hasked).fileExists
  cases there with
  | false => exact ⟨_, hrest.1⟩
  | true =>
    obtain ⟨taken, locked, hacquire, hwork⟩ := yields_bind.mp hrest
    cases taken with
    | error e =>
      obtain ⟨_, said, -, rfl, -⟩ := yields_bind.mp hwork
      exact ⟨_, rfl⟩
    | ok lock =>
      obtain ⟨read, hslot, -⟩ := yields_during hwork
      exact lookupLocked_of_uninformed (h.ensured (acquire_disk hacquire).ensured) hslot

end

/-! ### What is made on the way to an artifact -/

/-- Whether a disk is another one with some folders made, each at one of some paths. -/
inductive Disk.FoldersMade (paths : List String) : Disk → Disk → Prop
  | refl (d : Disk) : FoldersMade paths d d
  | make {d d' d'' : Disk} {path : String} (before : FoldersMade paths d d') (mem : path ∈ paths)
    (made : d'.makeFolder path = .ok d'') : FoldersMade paths d d''

/-- Whether a disk is another one with nothing made but a slot's folder, with those it is in, an
empty lock file and an empty artifact, each where it was missing: all that was there still is. -/
structure Slot.OnlyMade (slot : Slot) (d d' : Disk) : Prop where
  made : ∃ d₁ d₂, d.FoldersMade (Path.ancestors slot.folder) d₁ ∧ d₁.Ensured slot.lock d₂ ∧
    d₂.Ensured slot.artifact d'
  preserves : d.Preserves d'

section

variable {d d' d'' : Disk} {paths : List String} {m m' : Machine}

theorem Disk.FoldersMade.trans (h : d.FoldersMade paths d') (h' : d'.FoldersMade paths d'') :
    d.FoldersMade paths d'' := by
  induction h' with
  | refl => exact h
  | make _ hmem hmade ih => exact .make ih hmem hmade

theorem Disk.FoldersMade.preserves (h : d.FoldersMade paths d') : d.Preserves d' := by
  induction h with
  | refl => exact .refl _
  | make _ _ hmade ih => exact ih.trans ((Disk.makeFolder_added hmade).preserves nofun)

theorem Slot.onlyMade {slot : Slot} {d₁ d₂ : Disk}
    (hfolders : d.FoldersMade (Path.ancestors slot.folder) d₁) (hlock : d₁.Ensured slot.lock d₂)
    (hartifact : d₂.Ensured slot.artifact d') : slot.OnlyMade d d' :=
  ⟨⟨d₁, d₂, hfolders, hlock, hartifact⟩,
    (hfolders.preserves.trans hlock.preserves).trans hartifact.preserves⟩

theorem yields_makeFolders {path : String} {result : Except SysError Unit}
    (h : (Files.makeFolders path).Yields m result m') :
    m.disk.FoldersMade (Path.ancestors path) m'.disk := by
  have htakes : (Files.makeFolders path).Takes fun action =>
      action.Still ∨ ∃ above ∈ Path.ancestors path, action = .makeFolder above :=
    takes_makeFolderChain fun _ hmem => hmem
  refine htakes.leaves (R := Disk.FoldersMade (Path.ancestors path)) .refl (fun h h' => h.trans h')
    (fun {m m' action reply} haction hanswers => ?_) h
  rcases haction with hstill | ⟨above, hmem, rfl⟩
  · rw [hanswers.disk_still hstill]
    exact .refl _
  · rcases hanswers.done_or_failed nofun with ⟨-, rfl⟩ | ⟨-, rfl⟩
    · simp only [Machine.perform]
      cases hmade : m.disk.makeFolder above with
      | error e => exact .refl _
      | ok made => exact .make (.refl _) hmem hmade
    · exact .refl _

end

/-! ### Filling a slot anew -/

section

variable {m m' : Machine} {slot : Slot} {handle : Handle} {artifact : Bytes} {metadata : Metadata}
  {e : CacheError} {path : String}

/-- The info file is gone, or nothing was done. -/
theorem yields_removeInfo {result : Except SysError Unit} (hslash : Path.endsInSlash path = false)
    (h : (Store.removeInfo path).Yields m result m') :
    (∃ e, result = .error e) ∧ m'.disk = m.disk ∨ m'.disk.reach true path = none := by
  obtain ⟨reply, between, hunlink, hrest⟩ := yields_bind.mp h
  rcases (yields_perform.mp hunlink).done_or_failed nofun with ⟨rfl, rfl⟩ | ⟨⟨e, he, rfl⟩, rfl⟩
  · simp only [Machine.perform] at hrest
    cases hunlinked : m.disk.unlink path with
    | ok disk =>
      rw [hunlinked] at hrest
      obtain ⟨-, rfl⟩ := hrest
      exact .inr (Disk.reach_of_unlink hunlinked)
    | error e =>
      rw [hunlinked] at hrest
      cases e with
      | notFound =>
        obtain ⟨-, rfl⟩ := hrest
        exact .inr (Disk.reach_of_unlink_notFound hslash hunlinked)
      | _ =>
        obtain ⟨rfl, rfl⟩ := hrest
        exact .inl ⟨⟨_, rfl⟩, rfl⟩
  · cases e with
    | notFound => exact absurd rfl he
    | _ =>
      obtain ⟨rfl, rfl⟩ := hrest
      exact .inl ⟨⟨_, rfl⟩, rfl⟩

/-- No path leads anywhere else when an open file was filled anew. -/
theorem yields_refill {bytes : Bytes} {result : Except SysError Unit}
    (h : (Store.refill handle bytes).Yields m result m') : m.disk.SameTree m'.disk := by
  have hwrites : (Store.refill handle bytes).Takes Action.Writes := by
    have hempty : (perform (.setLength handle 0)).Takes Action.Writes := takes_perform trivial
    have hwrite : (perform (.write handle bytes)).Takes Action.Writes := takes_perform trivial
    have hkeep : (perform (.sync handle)).Takes Action.Writes := takes_perform trivial
    refine hempty.bind fun reply => ?_
    cases reply with
    | error e => trivial
    | ok u =>
      refine hwrite.bind fun reply => ?_
      cases reply with
      | error e => trivial
      | ok u => exact hkeep
  exact hwrites.leaves (R := Disk.SameTree) .refl (fun h h' => h.trans h')
    (fun haction hanswers => hanswers.sameTree haction) h

/-- A file that was made to be written to is there, open and empty. -/
theorem opened_new (hreach : m.disk.reach true path = none)
    (h : m.perform (.openFile path .replace) = (.ok handle, m')) :
    ∃ id, m'.disk.reach true path = some id ∧ m'.disk.node? id = some (.file []) ∧
      m'.file? handle = some ⟨id, 0, false, none⟩ := by
  cases hopening : m.opening path .replace with
  | error e =>
    simp only [Machine.perform, Machine.openFile, hopening] at h
    cases h
  | ok placed =>
    obtain ⟨id, disk⟩ := placed
    have hensured := ((Machine.opening_made .replace (by decide) (by decide)).mp hopening).2
    rcases Disk.ensureFile_eq_ok hensured with ⟨-, hold, -⟩ | ⟨-, hadded, rfl, hnew⟩
    · rw [hreach] at hold
      cases hold
    have hnode := hadded.node?_new
    simp only [Machine.perform, Machine.openFile, hopening, hnode, put_same hnode] at h
    cases h
    exact ⟨_, hnew, hnode, by rw [Machine.file?_addFile]; exact if_pos rfl⟩

variable [Wire.Memory]

/-- An info file that was not written to its end tells nothing. -/
theorem save_failed {e : SysError} (hfits : metadata.Fits) (hreach : m.disk.reach true path = none)
    (h : (metadata.save path).Yields m (.error e) m') : m'.disk.Uninformed path := by
  obtain ⟨reply, between, hopen, hrest⟩ := yields_bind.mp h
  rcases (yields_perform.mp hopen).openFile with ⟨⟨e, rfl⟩, rfl⟩ | ⟨handle, rfl, hopened⟩
  · obtain ⟨-, rfl⟩ := hrest
    exact Disk.uninformed_of_reach hreach
  obtain ⟨id, hreached, hnode, hfile⟩ := opened_new hreach hopened
  obtain ⟨result, written, hwrite, hend⟩ := yields_bind.mp hrest
  obtain ⟨_, closed, hclose, rfl, rfl⟩ := yields_bind.mp hend
  rw [Disk.Uninformed, (still_close handle).disk hclose]
  -- Whatever got through of the writing is a proper beginning of the encoding.
  have hbegun : ∃ cut, Metadata.Illegible cut ∧ written.disk = between.disk.put id (.file cut) := by
    generalize hfailed : (Except.error e : Except SysError Unit) = failed at hwrite
    cases yields_perform.mp hwrite with
    | done =>
      rw [(perform_write_empty hfile hnode metadata.encode).1] at hfailed
      cases hfailed
    | failed => exact ⟨[], Metadata.illegible_nil, (put_same hnode).symm⟩
    | partly _ _ size _ hsize =>
      refine ⟨metadata.encode.take size, Metadata.illegible_take hfits fun heq => ?_,
        (perform_write_empty hfile hnode _).2⟩
      have hlength := congrArg List.length heq
      rw [List.length_take] at hlength
      omega
  obtain ⟨cut, hcut, hdisk⟩ := hbegun
  have hthere : written.disk.existing path false = .ok id := by
    rw [Disk.existing_eq_ok, hdisk, (Disk.sameTree_put hnode cut).reach, hreached]
  have hcontent : written.disk.node? id = some (.file cut) := by
    rw [← Disk.fileContent?_eq_some, hdisk,
      Disk.fileContent?_put (Disk.fileContent?_eq_some.mpr hnode), if_pos rfl]
  intro raw hraw
  simp only [Disk.contents?, hthere, Disk.bytes?, hcontent] at hraw
  cases hraw
  exact hcut

/-- Filling a slot anew fails before anything was done, or it leaves no info file that tells. -/
theorem replaceSlot_failed (hfits : metadata.Fits)
    (h : (Store.replaceSlot slot handle artifact metadata).Yields m (.error e) m') :
    (m'.disk = m.disk ∨ m'.disk.Uninformed slot.info) ∧ ∀ path source, e ≠ .lock path source := by
  have hslash : Path.endsInSlash slot.info = false := by
    rw [slot.info_eq]
    exact Path.endsInSlash_join slot.plain_infoName.toIsPart
  obtain ⟨removed, bare, hremove, hrest⟩ := yields_bind.mp h
  rcases yields_removeInfo hslash hremove with ⟨⟨e', rfl⟩, hsame⟩ | hreach
  · obtain ⟨he, rfl⟩ := hrest
    cases he
    exact ⟨.inl hsame, nofun⟩
  cases removed with
  | error e' =>
    obtain ⟨he, rfl⟩ := hrest
    cases he
    exact ⟨.inr (Disk.uninformed_of_reach hreach), nofun⟩
  | ok u =>
    obtain ⟨refilled, filled, hrefill, hrest⟩ := yields_bind.mp hrest
    have hreach' : filled.disk.reach true slot.info = none :=
      ((yields_refill hrefill).reach true slot.info).trans hreach
    cases refilled with
    | error e' =>
      obtain ⟨he, rfl⟩ := hrest
      cases he
      exact ⟨.inr (Disk.uninformed_of_reach hreach'), nofun⟩
    | ok u =>
      obtain ⟨saved, written, hsave, hrest⟩ := yields_bind.mp hrest
      cases saved with
      | error e' =>
        obtain ⟨he, rfl⟩ := hrest
        cases he
        exact ⟨.inr (save_failed hfits hreach' hsave), nofun⟩
      | ok u =>
        obtain ⟨_, said, -, hok, -⟩ := yields_bind.mp hrest
        cases hok

theorem insertLocked_failed {policy : RetryPolicy} (hfits : metadata.Fits)
    (h : (Store.insertLocked policy slot artifact metadata).Yields m (.error e) m') :
    m.disk.Ensured slot.artifact m'.disk ∨
      m'.disk.Uninformed slot.info ∧ ∀ path source, e ≠ .lock path source := by
  obtain ⟨reply, opened, hopen, hrest⟩ := yields_bind.mp h
  rcases (yields_perform.mp hopen).openFile with ⟨⟨e', rfl⟩, rfl⟩ | ⟨handle, rfl, hopened⟩
  · obtain ⟨-, rfl⟩ := hrest
    exact .inl (.inl rfl)
  have hensured : m.disk.Ensured slot.artifact opened.disk := by
    have hreply : (m.perform (.openFile slot.artifact .write)).1 = .ok handle := by rw [hopened]
    obtain ⟨node, disk, hensure, -, hafter⟩ := openFile_ensure (.inr rfl) hreply
    rw [hopened] at hafter
    have hdisk : opened.disk = disk := congrArg Machine.disk hafter
    exact .inr ⟨node, hdisk ▸ hensure⟩
  obtain ⟨result, locked, hlock, hwork⟩ := yields_bind.mp hrest
  have hlocked := (still_lockFile handle slot.artifact .exclusive policy).disk hlock
  rw [← hlocked] at hensured
  cases result with
  | error e' =>
    obtain ⟨-, rfl⟩ := hwork
    exact .inl hensured
  | ok lock =>
    obtain ⟨worked, hreplace, hsame⟩ := yields_during hwork
    rw [hsame]
    obtain ⟨hkept | hgone, hno⟩ := replaceSlot_failed hfits hreplace
    · exact .inl (hkept ▸ hensured)
    · exact .inr ⟨hgone, hno⟩

/-- An insertion fails before it takes the info file away, or for no lock, with no info file that
tells. -/
theorem insert_failed {store : Store} (hfits : metadata.Fits)
    (h : (store.insert slot artifact metadata).Yields m (.error e) m') :
    slot.OnlyMade m.disk m'.disk ∨
      m'.disk.Uninformed slot.info ∧ ∀ path source, e ≠ .lock path source := by
  obtain ⟨made, foldered, hmake, hrest⟩ := yields_bind.mp h
  have hfolders := yields_makeFolders hmake
  cases made with
  | error e' =>
    obtain ⟨-, rfl⟩ := hrest
    exact .inl (Slot.onlyMade hfolders (.inl rfl) (.inl rfl))
  | ok u =>
    obtain ⟨result, locked, hacquire, hwork⟩ := yields_bind.mp hrest
    have hlock := (acquire_disk hacquire).ensured
    cases result with
    | error e' =>
      obtain ⟨-, rfl⟩ := hwork
      exact .inl (Slot.onlyMade hfolders hlock (.inl rfl))
    | ok lock =>
      obtain ⟨worked, hinsert, hsame⟩ := yields_during hwork
      rw [hsame]
      exact (insertLocked_failed hfits hinsert).imp_left fun hartifact =>
        Slot.onlyMade hfolders hlock hartifact

end

/-! ### What lookups find afterwards -/

section

variable [Wire.Memory]

/-- Whether a machine came from another by lookups, of whatever slots and in whatever number, and by
what leaves the disk as it is. -/
inductive Machine.Browsed (m : Machine) : Machine → Prop
  | refl : Browsed m m
  | still {m' m'' : Machine} (before : Browsed m m') (same : m''.disk = m'.disk) : Browsed m m''
  | lookup {m' m'' : Machine} {store : Store} {slot : Slot} {dependencies : DependencyTable}
    {signature : Bytes} {outcome : LookupOutcome} (before : Browsed m m')
    (yields : (store.lookup slot dependencies signature).Yields m' outcome m'') : Browsed m m''

theorem Disk.Uninformed.browsed {m m' : Machine} {path : String} (h : m.disk.Uninformed path)
    (hbrowsed : m.Browsed m') : m'.disk.Uninformed path := by
  induction hbrowsed with
  | refl => exact h
  | still _ hsame ih => rwa [hsame]
  | lookup _ hyields ih => exact ih.ensured (lookup_disk hyields).1.ensured

/-- An insertion that fails, whatever makes it fail, misleads nobody: all that was there still is
and nothing is new but folders, the lock file and an empty artifact; or the info file is gone or
tells nothing, and every lookup of the slot is a miss. For want of a lock it fails the first way. -/
theorem failed_insert_safe {store : Store} {slot : Slot} {artifact : Bytes} {metadata : Metadata}
    {e : CacheError} {m m' : Machine} (hfits : metadata.Fits)
    (h : (store.insert slot artifact metadata).Yields m (.error e) m') :
    slot.OnlyMade m.disk m'.disk ∨ (∀ path source, e ≠ .lock path source) ∧
      m'.disk.Uninformed slot.info ∧ ∀ m'', m'.Browsed m'' →
        ∀ (reader : Store) dependencies signature outcome after,
          (reader.lookup slot dependencies signature).Yields m'' outcome after →
            ∃ reason, outcome = .miss reason := by
  refine (insert_failed hfits h).imp_right fun ⟨hgone, hno⟩ => ⟨hno, hgone, ?_⟩
  intro m'' hbrowsed reader dependencies signature outcome after hlookup
  exact missed_of_uninformed (hgone.browsed hbrowsed) hlookup

end

section

attribute [local instance] Wire.Memory.addressSpace

/-- An insertion into a slot whose artifact is a device fails when the info file is gone already:
whoever looks the slot up then misses it. -/
theorem missed_after_failed_insert :
    let slot : Slot := ⟨"c", "a", by decide⟩
    let metadata := Metadata.ofArtifact ⟨[]⟩ [7] [1, 2]
    let m := { Machine.blank with disk :=
      ⟨[.folder [("c", 1)], .folder [("a.o", 2), ("a.o.info", 3)], .device .full,
        .file metadata.encode], [], [], [Disk.root]⟩ }
    let store : Store := {}
    let inserted := (store.insert slot [1, 2] metadata).run m
    metadata.Fits ∧ m.contents? slot.info = some (.ok metadata.encode) ∧
      inserted.1 = .error (.io "c/a.o" .invalid) ∧ ∀ (reader : Store) dependencies signature,
        ∃ reason, ((reader.lookup slot dependencies signature).run inserted.2).1 = .miss reason := by
  intro slot metadata m store inserted
  have hfits : metadata.Fits := by decide +kernel
  have hfailed : inserted.1 = .error (.io "c/a.o" .invalid) := by decide +kernel
  refine ⟨hfits, by decide +kernel, hfailed, fun reader dependencies signature => ?_⟩
  have hyields : (store.insert slot [1, 2] metadata).Yields m (.error (.io "c/a.o" .invalid))
      inserted.2 := hfailed ▸ yields_run _ m
  rcases failed_insert_safe hfits hyields with honly | ⟨-, -, hmissed⟩
  · have hbefore : m.disk.sight true slot.info = some (.file metadata.encode) := by decide +kernel
    have hafter : inserted.2.disk.sight true slot.info = none := by decide +kernel
    rw [honly.preserves true slot.info _ hbefore] at hafter
    cases hafter
  · exact hmissed _ .refl reader dependencies signature _ _ (yields_run _ _)

end

end ScriptCache
