import Mathlib
import ScriptCache.Proofs.Store.Refinement

/-! Insertions into clear slots.

A slot is clear if its folder is missing, or if its three names stand there for regular files of
their own or for nothing, whatever is in these files and whatever else is in the folder
(`Disk.Clear`). Looking a slot up keeps it clear, and an insertion that succeeds in a clear slot,
alone at work, leaves there what was inserted (`insert_stores`). -/
namespace ScriptCache

/-! ### Clear slots -/

/-- Whether a name is that of one of a slot's files. -/
def Slot.Owns (slot : Slot) (name : String) : Prop :=
  name = Slot.artifactName slot.name ∨ name = Slot.infoName slot.name ∨
    name = Slot.lockName slot.name

namespace Slot

variable (slot : Slot)

theorem owns_artifact : slot.Owns (artifactName slot.name) := .inl rfl

theorem owns_info : slot.Owns (infoName slot.name) := .inr (.inl rfl)

theorem owns_lock : slot.Owns (lockName slot.name) := .inr (.inr rfl)

end Slot

/-- Whether the folder of a slot is missing, or the slot's names stand in it for nothing or for
regular files, no two for the same. -/
def Disk.Clear (d : Disk) (slot : Slot) : Prop :=
  d.Absent slot.folder ∨ ∃ folder, d.Leads slot.folder folder ∧ d.Neat folder slot.Owns

/-- Whether a slot has its lock file, and an artifact and an info file with some content. -/
structure Disk.Stores (d : Disk) (slot : Slot) (folder : NodeId) (artifact info : Bytes) :
    Prop where
  leads : d.Leads slot.folder folder
  neat : d.Neat folder slot.Owns
  nameable : ∀ name, slot.Owns name → Disk.Nameable slot.folder name
  artifact : d.content? folder (Slot.artifactName slot.name) = some artifact
  info : d.content? folder (Slot.infoName slot.name) = some info
  lock : ∃ content, d.content? folder (Slot.lockName slot.name) = some content

section

variable {slot : Slot} {d : Disk} {m : Machine} {folder : NodeId}

theorem Disk.Clear.neat (h : d.Clear slot) (hleads : d.Leads slot.folder folder) :
    d.Neat folder slot.Owns := by
  rcases h with habsent | ⟨other, hother, hneat⟩
  · exact absurd hleads (habsent.not_leads folder)
  · exact hleads.unique hother ▸ hneat

theorem Machine.Fresh.clear (h : m.Fresh slot.folder) : m.disk.Clear slot :=
  h.empty.imp_right fun ⟨folder, hleads, hempty⟩ => ⟨folder, hleads, Disk.neat_of_empty hempty⟩

theorem Action.Harmless.clear {action : Action} (h : action.Harmless slot.folder)
    (hclear : m.disk.Clear slot) : (m.perform action).2.disk.Clear slot := by
  rcases h.disk m with hsame | hadded | ⟨hadded, hmissing⟩
  · rwa [hsame]
  · rcases hclear with habsent | ⟨folder, hleads, hneat⟩
    · exact (habsent.of_added hadded (.inl rfl)).imp_right fun ⟨folder, hleads, hempty⟩ =>
        ⟨folder, hleads, Disk.neat_of_empty hempty⟩
    · exact .inr ⟨folder, hleads.grows hadded.grows, hneat.added hadded⟩
  · rcases hclear with habsent | ⟨folder, hleads, -⟩
    · exact (habsent.of_added hadded (.inr rfl)).imp_right fun ⟨folder, hleads, hempty⟩ =>
        ⟨folder, hleads, Disk.neat_of_empty hempty⟩
    · exact absurd hleads (hmissing folder)

theorem Routine.Harmless.clear {α : Type} {routine : Routine α} (h : routine.Harmless slot.folder)
    (hclear : m.disk.Clear slot) : (routine.run m).2.disk.Clear slot := by
  induction routine generalizing m with
  | done a => exact hclear
  | act action next ih => exact ih _ (h.2 _) (h.1.clear hclear)

end

/-! ### Harmless parts of lookups and insertions -/

section

variable {path : String}

theorem harmless_makeFolderChain {chain : List String}
    (hchain : ∀ above ∈ chain, above ∈ Path.ancestors path) :
    (Files.makeFolderChain chain).Harmless path := by
  refine (takes_makeFolderChain hchain).harmless fun action haction => ?_
  rcases haction with hstill | ⟨above, habove, rfl⟩
  · exact hstill.harmless
  · exact habove

variable [Wire.Memory] {slot : Slot} {dependencies : DependencyTable} {signature : Bytes}

/-- A lookup leaves every slot as it is. -/
theorem harmless_lookup (store : Store) :
    (store.lookup slot dependencies signature).Harmless path := by
  have hsearch : (store.search slot dependencies signature).Harmless path := by
    rw [Store.search]
    split
    · trivial
    · have hexists : (Action.fileExists slot.artifact).Harmless path := trivial
      refine (Routine.harmless_perform hexists).bind fun found => ?_
      cases found with
      | false => trivial
      | true =>
        refine (harmless_acquire slot.lock .shared store.policy).bind fun result => ?_
        cases result with
        | error e => exact (Routine.harmless_of_still (still_say _)).bind fun _ => trivial
        | ok lock =>
          exact Routine.harmless_of_still (still_during lock (still_lookupLocked store.policy))
  exact hsearch.bind fun outcome =>
    (Routine.harmless_of_still (still_sayAll _)).bind fun _ => trivial

end

/-! ### Locks and the disk -/

section

variable {m m' : Machine} {handle : Handle} {path : String} {mode : LockMode}
  {policy : RetryPolicy} {lock : FileLock}

/-- Attempts to lock an open file change nothing on the disk, and one that succeeds nothing about
the file but that it is locked. -/
theorem attempt_run (handle : Handle) (path : String) (mode : LockMode) (policy : RetryPolicy)
    (left : Nat) (warned : Bool) (m : Machine) :
    ((FileLock.attempt handle path mode policy left warned).run m).2.disk = m.disk ∧
      ∀ lock, ((FileLock.attempt handle path mode policy left warned).run m).1 = .ok lock →
        lock.handle = handle ∧ ∃ file, m.file? handle = some file ∧
          ((FileLock.attempt handle path mode policy left warned).run m).2.file? handle =
            some { file with lock := some mode } := by
  induction left generalizing warned m with
  | zero => exact ⟨rfl, fun lock hlock => by cases hlock⟩
  | succ left ih =>
    rw [FileLock.attempt, Routine.run_perform_bind]
    cases hfile : m.file? handle with
    | none =>
      have hreply : m.perform (.tryLock handle mode) = (.failed .badHandle, m) := by
        simp only [Machine.perform, Machine.tryLock, hfile]
      rw [hreply]
      exact ⟨rfl, fun lock hlock => by cases hlock⟩
    | some file =>
      by_cases hblocked : m.blocked handle file.node mode = true
      · have hreply : m.perform (.tryLock handle mode) = (.held, m) := by
          simp only [Machine.perform, Machine.tryLock, hfile, if_pos hblocked]
        rw [hreply]
        -- Before the next attempt something may be said, and time may pass.
        have hrest {waited : Machine} (hdisk : waited.disk = m.disk)
            (hwaited : ∀ file, waited.file? handle = some file → m.file? handle = some file) :
            ((FileLock.attempt handle path mode policy left true).run waited).2.disk = m.disk ∧
              ∀ lock,
                ((FileLock.attempt handle path mode policy left true).run waited).1 = .ok lock →
                lock.handle = handle ∧ ∃ file', some file = some file' ∧
                  ((FileLock.attempt handle path mode policy left true).run waited).2.file?
                    handle = some { file' with lock := some mode } := by
          obtain ⟨hkept, hlocked⟩ := ih true waited
          refine ⟨hkept.trans hdisk, fun lock hlock => ?_⟩
          obtain ⟨hhandle, file', hfile', hafter⟩ := hlocked lock hlock
          exact ⟨hhandle, file', hfile.symm.trans (hwaited file' hfile'), hafter⟩
        have hpass (span : Nat) (said : Machine) (hsaid : said.files = m.files) (file : OpenFile)
            (hopen : (said.pass span).file? handle = some file) : m.file? handle = some file := by
          have hbefore := Machine.file?_of_pass hopen
          rwa [Machine.file?, hsaid] at hbefore
        by_cases hleft : left ≠ 0 <;> cases warned <;>
          simp only [hleft, Routine.run_bind, if_true, if_false, Bool.false_eq_true,
            not_false_eq_true, ne_eq]
        · exact hrest (Machine.disk_pass _ _) (hpass _ _ rfl)
        · exact hrest (Machine.disk_pass _ _) (hpass _ _ rfl)
        · exact hrest rfl fun _ h => h
        · exact hrest rfl fun _ h => h
      · have hreply : m.perform (.tryLock handle mode) =
            (.granted, m.setFile handle (some { file with lock := some mode })) := by
          simp only [Machine.perform, Machine.tryLock, hfile, if_neg hblocked]
        have hlocked : (m.setFile handle (some { file with lock := some mode })).file? handle =
            some { file with lock := some mode } := by
          rw [Machine.file?_setFile_of_some hfile, if_pos rfl]
        rw [hreply]
        cases warned <;>
        · refine ⟨rfl, ?_⟩
          rintro _ ⟨⟩
          exact ⟨rfl, file, rfl, hlocked⟩

theorem lockFile_run (h : (FileLock.lockFile handle path mode policy).run m = (.ok lock, m')) :
    lock.handle = handle ∧ m'.disk = m.disk ∧ ∃ file, m.file? handle = some file ∧
      m'.file? handle = some { file with lock := some mode } := by
  obtain ⟨hdisk, hlocked⟩ := attempt_run handle path mode policy policy.attempts false m
  rw [FileLock.lockFile, Routine.run_bind] at h
  rcases hattempt : (FileLock.attempt handle path mode policy policy.attempts false).run m with
    ⟨result, after⟩
  rw [hattempt] at h hdisk hlocked
  cases result with
  | error e => cases h
  | ok lock' =>
    cases h
    obtain ⟨hhandle, hfile⟩ := hlocked lock rfl
    exact ⟨hhandle, hdisk, hfile⟩

theorem acquire_run (h : (FileLock.acquire path mode policy).run m = (.ok lock, m')) :
    ∃ file, m.openingLock path = .ok (file, m'.disk) := by
  rw [FileLock.acquire, Routine.run_bind, openLock_run] at h
  cases hopening : m.openingLock path with
  | error e =>
    rw [hopening] at h
    cases h
  | ok opened =>
    rw [hopening] at h
    obtain ⟨-, hdisk, -⟩ := lockFile_run h
    exact ⟨opened.1, by rw [hdisk]; rfl⟩

/-- Work under a lock leaves the disk as the work does. -/
theorem disk_during {α : Type} (lock : FileLock) (work : Routine α) (m : Machine) :
    ((lock.during work).run m).2.disk = (work.run m).2.disk := by
  have hunlock (m : Machine) : (m.unlock lock.handle).disk = m.disk := by
    unfold Machine.unlock
    split <;> rfl
  rw [FileLock.during, Routine.run_bind, Routine.run_bind, FileLock.drop, FileLock.release]
  split
  · exact hunlock _
  · rfl

theorem run_of_during {α : Type} {work : Routine α} {a : α}
    (h : (lock.during work).run m = (a, m')) :
    ∃ worked, work.run m = (a, worked) ∧ m'.disk = worked.disk := by
  have hresult := during_run lock work m
  have hdisk := disk_during lock work m
  rw [h] at hresult hdisk
  exact ⟨(work.run m).2, Prod.ext hresult.symm rfl, hdisk⟩

end

/-! ### Filling a slot -/

/-- A sequence that fails with its first part succeeds only if that part does. -/
theorem ok_of_bind {ε ε' α β : Type} {routine : Routine (Except ε α)}
    {f : Except ε α → Routine (Except ε' β)} {b : β} {m m' : Machine}
    (h : (routine >>= f).run m = (.ok b, m'))
    (hfail : ∀ e m, ((f (.error e)).run m).1 ≠ .ok b) :
    ∃ a between, routine.run m = (.ok a, between) ∧ (f (.ok a)).run between = (.ok b, m') := by
  rw [Routine.run_bind] at h
  rcases hfirst : routine.run m with ⟨e | a, between⟩
  · rw [hfirst] at h
    exact absurd (congrArg Prod.fst h) (hfail e between)
  · rw [hfirst] at h
    exact ⟨a, between, rfl, h⟩

section

variable {m m' : Machine} {slot : Slot} {folder node : NodeId} {handle : Handle} {path : String}
  {artifact : Bytes} {metadata : Metadata} {lock : Option LockMode} {content : Bytes}

/-- Taking the info file away leaves the other files of the slot alone. -/
theorem removeInfo_run (hleads : m.disk.Leads slot.folder folder)
    (hneat : m.disk.Neat folder slot.Owns)
    (h : (Store.removeInfo slot.info).run m = (.ok (), m')) : ∃ disk, m' = { m with disk } ∧
      disk.Leads slot.folder folder ∧ disk.Neat folder slot.Owns ∧
      ∀ name ≠ Slot.infoName slot.name, disk.child? folder name = m.disk.child? folder name ∧
        disk.content? folder name = m.disk.content? folder name := by
  rw [Store.removeInfo, Routine.run_perform_bind] at h
  cases hunlink : m.disk.unlink slot.info with
  | ok disk =>
    have hreply : m.perform (.unlink slot.info) = (.ok (), { m with disk }) := by
      rw [Machine.perform, hunlink, Machine.changeDisk]
    rw [hreply] at h
    cases h
    rw [slot.info_eq, Disk.unlink_join hleads hneat slot.owns_info slot.plain_infoName] at hunlink
    obtain ⟨-, rfl, id, hentry⟩ := hunlink
    obtain ⟨content, hcontent⟩ := hneat.file slot.owns_info hentry
    refine ⟨_, rfl, hleads.grows (Disk.grows_without hentry hcontent), hneat.without _,
      fun name hname => ⟨?_, ?_⟩⟩
    · rw [Disk.child?_without hneat.isFolder, if_neg hname]
    · rw [hneat.content?_without, if_neg hname]
  | error e =>
    have hreply : m.perform (.unlink slot.info) = (.error e, m) := by
      rw [Machine.perform, hunlink, Machine.changeDisk]
    rw [hreply] at h
    cases e with
    | notFound =>
      cases h
      exact ⟨m.disk, rfl, hleads, hneat, fun _ _ => ⟨rfl, rfl⟩⟩
    | _ => cases h

/-- A file that is emptied is there, and empty. -/
theorem node?_emptied {d : Disk} (hnode : d.node? node = some (.file content)) :
    (d.put node (.file [])).node? node = some (.file []) := by
  have hlt : node < d.nodes.length :=
    Disk.lt_of_fileContent? (Disk.fileContent?_eq_some.mpr hnode)
  rw [Disk.node?_put hlt, if_pos rfl]

theorem put_put (d : Disk) (node : NodeId) (value new : Node) :
    (d.put node value).put node new = d.put node new := by
  simp only [Disk.put, List.set_set]

theorem refill_run (hfile : m.file? handle = some ⟨node, 0, false, lock⟩)
    (hnode : m.disk.node? node = some (.file content)) (bytes : Bytes) :
    ((Store.refill handle bytes).run m).2.disk = m.disk.put node (.file bytes) := by
  obtain ⟨hreply, hafter⟩ := perform_setLength_zero hfile hnode
  have hwritten := perform_write_empty (m := { m with disk := m.disk.put node (.file []) }) hfile
    (node?_emptied hnode) bytes
  rw [Store.refill, Routine.run_perform_bind, hreply, hafter]
  show ((Routine.perform (.write handle bytes) >>= _).run _).2.disk = _
  rw [Routine.run_perform_bind, hwritten.1]
  exact hwritten.2.trans (put_put _ _ _ _)

/-- A file that was written anew is there, with what was written. -/
theorem write_run {bytes : Bytes} (h : (Files.write path bytes).run m = (.ok (), m')) :
    ∃ node disk, m.disk.ensureFile path = .ok (node, disk) ∧
      ∀ content, disk.node? node = some (.file content) →
        m'.disk = disk.put node (.file bytes) := by
  rw [Files.write, Files.opened, Routine.run_perform_bind] at h
  cases hopening : m.opening path .replace with
  | error e =>
    have hreply : m.perform (.openFile path .replace) = (.error e, m) := by
      simp only [Machine.perform, Machine.openFile, hopening]
    rw [hreply] at h
    cases h
  | ok found =>
    obtain ⟨node, disk⟩ := found
    obtain ⟨-, hensured⟩ :=
      (Machine.opening_made .replace (by decide) (by decide)).mp hopening
    refine ⟨node, disk, hensured, fun content hnode => ?_⟩
    have hfile : ({ m with disk := disk.put node (.file []) }.addFile { node }).2.file?
        m.files.length = some { node } := by
      rw [Machine.file?_addFile]
      exact if_pos rfl
    have hwritten := perform_write_empty hfile (node?_emptied hnode) bytes
    rw [openFile_replace hopening hnode] at h
    obtain rfl := congrArg Prod.snd h
    exact hwritten.2.trans (put_put _ _ _ _)

/-- The lock file of a clear slot, opened, is the file of its name. -/
theorem lock_of_clear {file : OpenFile} {disk : Disk} (hclear : m.disk.Clear slot)
    (h : m.openingLock slot.lock = .ok (file, disk)) : ∃ folder, disk.Leads slot.folder folder ∧
      disk.Neat folder slot.Owns ∧ Disk.Nameable slot.folder (Slot.lockName slot.name) ∧
      disk.child? folder (Slot.lockName slot.name) = some file.node := by
  rw [slot.lock_eq] at h
  rcases (openingLock_eq_ok h).2 with hensure | ⟨hexisting, rfl⟩
  · obtain ⟨folder, hleads⟩ := leads_of_ensureFile slot.plain_lockName hensure
    have hneat := hclear.neat hleads
    obtain ⟨hlockName, -⟩ :=
      (Disk.ensureFile_join hleads hneat slot.owns_lock slot.plain_lockName).mp hensure
    obtain ⟨hleads', hneat', hentry, -⟩ :=
      hneat.ensured hleads slot.owns_lock slot.plain_lockName hensure
    exact ⟨folder, hleads', hneat', hlockName, hentry⟩
  · obtain ⟨folder, hleads⟩ := Disk.leads_of_existing slot.plain_lockName hexisting
    have hneat := hclear.neat hleads
    obtain ⟨hlockName, hentry⟩ :=
      (Disk.existing_join hleads hneat slot.owns_lock slot.plain_lockName).mp hexisting
    exact ⟨folder, hleads, hneat, hlockName, hentry⟩

variable [Wire.Memory]

/-- A slot whose artifact is there, once its info file is written. -/
theorem save_stores (hleads : m.disk.Leads slot.folder folder)
    (hneat : m.disk.Neat folder slot.Owns)
    (hartifactName : Disk.Nameable slot.folder (Slot.artifactName slot.name))
    (hlockName : Disk.Nameable slot.folder (Slot.lockName slot.name))
    (hlock : ∃ content, m.disk.content? folder (Slot.lockName slot.name) = some content)
    (hartifact : m.disk.content? folder (Slot.artifactName slot.name) = some artifact)
    (h : (metadata.save slot.info).run m = (.ok (), m')) :
    m'.disk.Stores slot folder artifact metadata.encode := by
  obtain ⟨node, disk, hensure, hwritten⟩ := write_run h
  rw [slot.info_eq] at hensure
  obtain ⟨hinfoName, -⟩ :=
    (Disk.ensureFile_join hleads hneat slot.owns_info slot.plain_infoName).mp hensure
  obtain ⟨hleads, hneat, hentry, hsame⟩ :=
    hneat.ensured hleads slot.owns_info slot.plain_infoName hensure
  obtain ⟨content, hcontent⟩ := hneat.file slot.owns_info hentry
  have hput {name : String} (hname : slot.Owns name) := hneat.content?_put slot.owns_info hentry
    hcontent metadata.encode hname
  have hkept {name : String} (hname : slot.Owns name) (hne : name ≠ Slot.infoName slot.name) :
      (disk.put node (.file metadata.encode)).content? folder name = m.disk.content? folder name := by
    rw [hput hname, if_neg hne, hsame name hname hne]
  rw [hwritten content (Disk.fileContent?_eq_some.mp hcontent)]
  refine ⟨hleads.grows (Disk.grows_put hcontent _), hneat.put hcontent _, ?_, ?_, ?_, ?_⟩
  · rintro name (rfl | rfl | rfl)
    · exact hartifactName
    · exact hinfoName
    · exact hlockName
  · rw [hkept slot.owns_artifact (Slot.artifactName_ne_infoName _ _), hartifact]
  · rw [hput slot.owns_info, if_pos rfl]
  · rwa [hkept slot.owns_lock (Slot.infoName_ne_lockName _ _).symm]

theorem replaceSlot_stores (hleads : m.disk.Leads slot.folder folder)
    (hneat : m.disk.Neat folder slot.Owns)
    (hartifactName : Disk.Nameable slot.folder (Slot.artifactName slot.name))
    (hlockName : Disk.Nameable slot.folder (Slot.lockName slot.name))
    (hlock : ∃ content, m.disk.content? folder (Slot.lockName slot.name) = some content)
    (hfile : m.file? handle = some ⟨node, 0, false, lock⟩)
    (hentry : m.disk.child? folder (Slot.artifactName slot.name) = some node)
    (h : (Store.replaceSlot slot handle artifact metadata).run m = (.ok (), m')) :
    m'.disk.Stores slot folder artifact metadata.encode := by
  obtain ⟨u, removed, hremoved, h⟩ := ok_of_bind h fun _ _ => nofun
  obtain ⟨u, refilled, hrefilled, h⟩ := ok_of_bind h fun _ _ => nofun
  obtain ⟨u, saved, hsaved, h⟩ := ok_of_bind h fun _ _ => nofun
  have hsaid : saved.disk = m'.disk := congrArg (fun result => result.2.disk) h
  rw [← hsaid]
  obtain ⟨disk, rfl, hleads, hneat, hsame⟩ := removeInfo_run hleads hneat hremoved
  have hentry' : disk.child? folder (Slot.artifactName slot.name) = some node := by
    rw [(hsame _ (Slot.artifactName_ne_infoName _ _)).1, hentry]
  obtain ⟨content, hcontent⟩ := hneat.file slot.owns_artifact hentry'
  have hdisk : refilled.disk = disk.put node (.file artifact) := by
    rw [← refill_run (m := { m with disk }) hfile (Disk.fileContent?_eq_some.mp hcontent) artifact,
      hrefilled]
  have hput {name : String} (hname : slot.Owns name) := hneat.content?_put slot.owns_artifact
    hentry' hcontent artifact hname
  refine save_stores ?_ ?_ hartifactName hlockName ?_ ?_ hsaved <;> rw [hdisk]
  · exact hleads.grows (Disk.grows_put hcontent _)
  · exact hneat.put hcontent _
  · rwa [hput slot.owns_lock, if_neg (Slot.artifactName_ne_lockName _ _).symm,
      (hsame _ (Slot.infoName_ne_lockName _ _).symm).2]
  · rw [hput slot.owns_artifact, if_pos rfl]

theorem insertLocked_stores {policy : RetryPolicy} (hleads : m.disk.Leads slot.folder folder)
    (hneat : m.disk.Neat folder slot.Owns)
    (hlockName : Disk.Nameable slot.folder (Slot.lockName slot.name))
    (hlock : ∃ content, m.disk.content? folder (Slot.lockName slot.name) = some content)
    (h : (Store.insertLocked policy slot artifact metadata).run m = (.ok (), m')) :
    m'.disk.Stores slot folder artifact metadata.encode := by
  obtain ⟨handle, opened, hopened, h⟩ := ok_of_bind h fun _ _ => nofun
  obtain ⟨taken, locked, hlocked, h⟩ := ok_of_bind h fun _ _ => nofun
  obtain ⟨replaced, hreplaced, hdropped⟩ := run_of_during h
  obtain ⟨node, disk, hensure, rfl, hafter⟩ :=
    openFile_ensure (.inr rfl) (congrArg Prod.fst hopened)
  obtain rfl : _ = opened := hafter.symm.trans (congrArg Prod.snd hopened)
  obtain ⟨hhandle, hdisk, file, hfile, hfile'⟩ := lockFile_run hlocked
  rw [Machine.file?_addFile] at hfile
  obtain rfl := Option.some.inj ((if_pos rfl).symm.trans hfile)
  rw [slot.artifact_eq] at hensure
  obtain ⟨hartifactName, -⟩ :=
    (Disk.ensureFile_join hleads hneat slot.owns_artifact slot.plain_artifactName).mp hensure
  obtain ⟨hleads, hneat, hentry, hsame⟩ :=
    hneat.ensured hleads slot.owns_artifact slot.plain_artifactName hensure
  rw [hdropped]
  have hlock' : ∃ content, disk.content? folder (Slot.lockName slot.name) = some content := by
    rwa [hsame _ slot.owns_lock (Slot.artifactName_ne_lockName _ _).symm]
  refine replaceSlot_stores ?_ ?_ hartifactName hlockName ?_ (hhandle ▸ hfile') ?_ hreplaced <;>
    rw [hdisk]
  · exact hleads
  · exact hneat
  · exact hlock'
  · exact hentry

/-- An insertion that succeeds in a clear slot leaves there what was inserted. -/
theorem insert_stores {store : Store} (hclear : m.disk.Clear slot)
    (h : (store.insert slot artifact metadata).run m = (.ok (), m')) :
    ∃ folder, m'.disk.Stores slot folder artifact metadata.encode := by
  obtain ⟨u, made, hmade, h⟩ := ok_of_bind h fun _ _ => nofun
  obtain ⟨taken, locked, hlocked, h⟩ := ok_of_bind h fun _ _ => nofun
  obtain ⟨inserted, hinserted, hdropped⟩ := run_of_during h
  have hclear' : made.disk.Clear slot := by
    have hharmless : (Files.makeFolders slot.folder).Harmless slot.folder :=
      harmless_makeFolderChain fun _ habove => habove
    have hkept := hharmless.clear hclear
    rwa [hmade] at hkept
  obtain ⟨file, hopening⟩ := acquire_run hlocked
  obtain ⟨folder, hleads, hneat, hlockName, hentry⟩ := lock_of_clear hclear' hopening
  rw [hdropped]
  exact ⟨folder, insertLocked_stores hleads hneat hlockName
    (hneat.content? slot.owns_lock hentry) hinserted⟩

end

end ScriptCache
