import Mathlib
import ScriptCache.Proofs.Machine.Reading
import ScriptCache.Proofs.Store.Alone
import ScriptCache.Proofs.Store.Still

/-! Lookups that get their locks.

A lookup asks for two locks, both shared: on the slot's lock file, which it makes if it is
missing, and on the artifact. If nobody has an exclusive lock on either file, a party alone at
work is granted both at the first attempt (`lookup_available`). -/
namespace ScriptCache

namespace Machine

variable {m m' : Machine} {handle : Handle} {node : NodeId} {path : String}

/-- Whether nobody has an exclusive lock on a file. -/
def Unlocked (m : Machine) (node : NodeId) : Prop :=
  ∀ other file, m.file? other = some file → file.node = node → file.lock ≠ some .exclusive

/-- Whether the lock file at a path can be opened and locked along with others. -/
def Lockable (m : Machine) (path : String) : Prop :=
  ∃ file disk, m.openingLock path = .ok (file, disk) ∧ m.Unlocked file.node

theorem tryLock_shared {file : OpenFile} (hfile : m.file? handle = some file)
    (hfree : m.Unlocked file.node) : (m.perform (.tryLock handle .shared)).1 = .granted ∧
      (m.perform (.tryLock handle .shared)).2 =
        m.setFile handle (some { file with lock := some .shared }) := by
  have hblocked : ¬ m.blocked handle file.node .shared = true := by
    rw [blocked_iff]
    rintro ⟨other, file', held, -, hfile', hnode, hlock, hexcludes⟩
    cases held with
    | shared => cases hexcludes
    | exclusive => exact hfree other file' hfile' hnode hlock
  simp only [perform, tryLock, hfile, if_neg hblocked, and_self]

/-- A shared lock keeps no other shared lock away. -/
theorem Unlocked.setFile {file : OpenFile} (h : m.Unlocked node) (hfile : m.file? handle = some file) :
    (m.setFile handle (some { file with lock := some .shared })).Unlocked node := by
  intro other file' hfile' hnode
  rw [file?_setFile_of_some hfile] at hfile'
  split at hfile'
  · cases hfile'
    nofun
  · exact h other file' hfile' hnode

/-- Nor does a file that was opened and not locked. -/
theorem Unlocked.addFile {file : OpenFile} (h : m.Unlocked node) (hlock : file.lock = none) :
    (m.addFile file).2.Unlocked node := by
  intro other file' hfile' hnode
  rw [file?_addFile] at hfile'
  split at hfile'
  · cases hfile'
    rw [hlock]
    nofun
  · exact h other file' hfile' hnode

end Machine

section

variable {m : Machine} {handle : Handle} {path : String} {policy : RetryPolicy}

theorem lockFile_granted {mode : LockMode}
    (h : (m.perform (.tryLock handle mode)).1 = .granted) :
    (FileLock.lockFile handle path mode policy).run m =
      (.ok ⟨path, handle, mode, true⟩, (m.perform (.tryLock handle mode)).2) := by
  obtain ⟨left, hleft⟩ : ∃ left, policy.attempts = left + 1 :=
    Nat.exists_eq_add_of_le' (Nat.le_max_right policy.maxAttempts.toNat 1)
  have hattempt : (FileLock.attempt handle path mode policy policy.attempts false).run m =
      (.ok ⟨path, handle, mode, true⟩, (m.perform (.tryLock handle mode)).2) := by
    rw [hleft, FileLock.attempt, Routine.run_perform_bind, h]
    rfl
  rw [FileLock.lockFile, Routine.run_bind, hattempt]
  rfl

/-- A lock that can be taken is taken, and other files can be locked along with it. -/
theorem acquire_shared (policy : RetryPolicy) (h : m.Lockable path) : ∃ lock m',
    (FileLock.acquire path .shared policy).run m = (.ok lock, m') ∧
      ∀ other, m.Unlocked other → m'.Unlocked other := by
  obtain ⟨file, disk, hopening, hfree⟩ := h
  obtain ⟨hlock, -⟩ := openingLock_eq_ok hopening
  have hopened {other : NodeId} (hother : m.Unlocked other) :
      (({ m with disk } : Machine).addFile file).2.Unlocked other :=
    Machine.Unlocked.addFile (m := { m with disk }) hother hlock
  have hfile : (({ m with disk } : Machine).addFile file).2.file? m.files.length = some file := by
    rw [Machine.file?_addFile]
    exact if_pos rfl
  obtain ⟨hgranted, hlocked⟩ := Machine.tryLock_shared hfile (hopened hfree)
  have hacquire : (FileLock.acquire path .shared policy).run m =
      (FileLock.lockFile m.files.length path .shared policy).run
        (({ m with disk } : Machine).addFile file).2 := by
    rw [FileLock.acquire, Routine.run_bind, openLock_run, hopening]
  rw [hacquire, lockFile_granted hgranted]
  refine ⟨_, _, rfl, fun other hother => ?_⟩
  rw [hlocked]
  exact (hopened hother).setFile hfile

end

/-! ### Whole lookups -/

/-- Whether the locks that a lookup in a slot asks for, if it asks for any, are to be had. -/
def Slot.Available (slot : Slot) (m : Machine) : Prop :=
  m.disk.exists? slot.artifact = true → m.Lockable slot.lock ∧
    ∀ node, m.existing slot.artifact = .ok node → m.Unlocked node

section

variable {m : Machine} {slot : Slot} {dependencies : DependencyTable} {signature : Bytes}

theorem during_run {α : Type} (lock : FileLock) (work : Routine α) (m : Machine) :
    ((lock.during work).run m).1 = (work.run m).1 := by
  rw [FileLock.during, Routine.run_bind, Routine.run_bind]
  rfl

/-- The artifact is the same file after the slot's lock was asked for. -/
theorem existing_after_lock {policy : RetryPolicy} {mode : LockMode}
    {result : Except LockError FileLock} {m' : Machine}
    (hexists : m.disk.exists? slot.artifact = true)
    (hacquire : (FileLock.acquire slot.lock mode policy).run m = (result, m')) :
    m'.existing slot.artifact = m.existing slot.artifact := by
  have hyields := Routine.yields_run (FileLock.acquire slot.lock mode policy) m
  rw [hacquire] at hyields
  exact (acquire_gained hyields).existing hexists

variable [Wire.Memory]

/-- Reading a slot is never a matter of locks. -/
theorem readSlot_run (handle : Handle) (e : LockError) :
    ((Store.readSlot slot handle dependencies signature).run m).1 ≠ .miss (.lockUnavailable e) := by
  rw [Store.readSlot, Routine.run_bind]
  cases ((Metadata.inspect slot.info dependencies signature).run m).1 with
  | valid metadata =>
    show ((Store.readArtifact slot handle metadata).run _).1 ≠ _
    rw [Store.readArtifact, Routine.run_perform_bind]
    cases ((((Metadata.inspect slot.info dependencies signature).run m).2).perform
      (.readRest handle)).1 with
    | error e => rintro ⟨⟩
    | ok bytes =>
      show Store.accept slot metadata bytes ≠ _
      rw [Store.accept]
      split <;> rintro ⟨⟩
  | missing | corrupt | stale | brokenOff => rintro ⟨⟩

theorem lookupLocked_available {policy : RetryPolicy}
    (hfree : ∀ node, m.existing slot.artifact = .ok node → m.Unlocked node)
    (lockError : LockError) :
    ((Store.lookupLocked policy slot dependencies signature).run m).1 ≠
      .miss (.lockUnavailable lockError) := by
  have hopen := m.openFile_read slot.artifact
  rw [Store.lookupLocked, Routine.run_perform_bind, hopen]
  cases hexisting : m.existing slot.artifact with
  | error e =>
    have hmissing : LookupOutcome.miss .artifactMissing ≠ .miss (.lockUnavailable lockError) := by
      rintro ⟨⟩
    cases e <;> exact hmissing
  | ok node =>
    have hfile : (m.addFile { node }).2.file? m.files.length = some { node } := by
      rw [Machine.file?_addFile, if_pos rfl]
    obtain ⟨hgranted, -⟩ := Machine.tryLock_shared hfile ((hfree node hexisting).addFile rfl)
    show ((FileLock.lockFile m.files.length slot.artifact .shared policy >>= _).run _).1 ≠ _
    rw [Routine.run_bind, lockFile_granted hgranted]
    show ((FileLock.during _ _).run _).1 ≠ _
    rw [during_run]
    exact readSlot_run _ lockError

/-- A lookup alone at work gets its locks, unless somebody has one that keeps it from them. -/
theorem lookup_available (store : Store) (h : slot.Available m) (e : LockError) :
    ((store.lookup slot dependencies signature).run m).1 ≠ .miss (.lockUnavailable e) := by
  have hsearch : ((store.search slot dependencies signature).run m).1 ≠
      .miss (.lockUnavailable e) := by
    rw [Store.search]
    by_cases hforce : store.force = true
    · rw [if_pos hforce]
      rintro ⟨⟩
    · rw [if_neg hforce, Routine.run_perform_bind]
      cases hexists : m.disk.exists? slot.artifact with
      | false =>
        have hreply : (m.perform (.fileExists slot.artifact)).1 = false := hexists
        rw [hreply]
        rintro ⟨⟩
      | true =>
        have hreply : (m.perform (.fileExists slot.artifact)).1 = true := hexists
        rw [hreply]
        obtain ⟨hlockable, hfree⟩ := h hexists
        obtain ⟨lock, m', hacquire, hkeeps⟩ := acquire_shared store.policy hlockable
        show ((FileLock.acquire slot.lock .shared store.policy >>= _).run m).1 ≠ _
        rw [Routine.run_bind, hacquire]
        show ((FileLock.during lock _).run m').1 ≠ _
        rw [during_run]
        refine lookupLocked_available (fun found hfound => hkeeps found (hfree found ?_)) e
        rwa [existing_after_lock hexists hacquire] at hfound
  rw [Store.lookup, Routine.run_bind, Routine.run_bind]
  exact hsearch

end

/-! ### Hits -/

/-- Whether nobody has a lock. -/
def Machine.Lockless (m : Machine) : Prop :=
  ∀ handle file, m.file? handle = some file → file.lock = none

/-- Whether a lookup was not kept from its locks. -/
def LookupOutcome.HadLocks (outcome : LookupOutcome) : Prop :=
  ∀ e, outcome ≠ .miss (.lockUnavailable e)

section

variable [Wire.Memory] {m : Machine} {ledger : Ledger} {slot : Slot}
  {dependencies : DependencyTable} {signature : Bytes} {store : Store}

theorem lookup_forced (h : store.force = true) :
    ((store.lookup slot dependencies signature).run m).1 = .miss .bypassed := by
  rw [Store.lookup, Store.search, if_pos h, Routine.run_bind, Routine.run_bind]
  rfl

/-- A slot that an insertion got to can be locked, if nobody has a lock. -/
theorem available_of_lockless (hs : Sound slot.folder ⟨m, ledger⟩) (hm : m.Lockless) {r : Record}
    (hr : ledger slot.name = some r) : slot.Available m := by
  have hunlocked (node : NodeId) : m.Unlocked node := by
    intro other file hfile _ hlock
    rw [hm other file hfile] at hlock
    cases hlock
  intro hexists
  rw [slot.artifact_eq] at hexists
  obtain ⟨folder, hleads⟩ : ∃ folder, m.disk.Leads slot.folder folder := by
    by_contra hno
    rw [Disk.exists?_of_not_leads (not_exists.mp hno) slot.plain_artifactName] at hexists
    cases hexists
  obtain ⟨htidy, hfiled⟩ := hs.site.of_leads hleads
  have hrecord : r.Filed m.disk slot.folder folder slot.name := by
    have hentry : Filed (ledger slot.name) m.disk slot.folder folder slot.name := hfiled slot.name
    rwa [hr] at hentry
  obtain ⟨made, hensure⟩ : ∃ made, m.disk.ensureFile slot.lock = .ok made := by
    rw [slot.lock_eq]
    cases hentry : m.disk.child? folder (Slot.lockName slot.name) with
    | some node =>
      exact ⟨(node, m.disk), (Disk.ensureFile_join hleads htidy trivial slot.plain_lockName).mpr
        ⟨hrecord.lockNameable, .inl ⟨hentry, rfl⟩⟩⟩
    | none =>
      exact ⟨(m.disk.nodes.length, _),
        (Disk.ensureFile_join hleads htidy trivial slot.plain_lockName).mpr
          ⟨hrecord.lockNameable, .inr ⟨hentry, rfl, rfl⟩⟩⟩
  refine ⟨⟨{ node := made.1, appends := true }, made.2, ?_, hunlocked _⟩, fun node _ =>
    hunlocked node⟩
  rw [openingLock_unrefused (hs.unrestricted _ _), hensure]
  rfl

/-- What a lookup hits on, by the entry for its slot, when no lock is held or it had its own. -/
theorem lookup_hit_iff (hs : Sound slot.folder ⟨m, ledger⟩)
    (h : m.Lockless ∨ ((store.lookup slot dependencies signature).run m).1.HadLocks)
    (hit : CachedArtifact) :
    ((store.lookup slot dependencies signature).run m).1 = .hit hit ↔ store.force = false ∧
      ∃ i, Record.whole? (ledger slot.name) = some i ∧ i.Serves dependencies signature ∧
        hit = ⟨slot.artifact, i.artifact, i.metadata⟩ := by
  by_cases hforce : store.force = true
  · have hmiss : LookupOutcome.miss .bypassed ≠ .hit hit := nofun
    simp [lookup_forced hforce, hforce, hmiss]
  have hforce' : store.force = false := by simpa using hforce
  obtain ⟨-, hreplied⟩ := lookup_run store hs
  cases hreplied with
  | bypassed forced => exact absurd forced hforce
  | served served => rw [served.hit_iff, and_iff_right hforce']
  | locked e miss =>
    constructor
    · intro hhit
      rw [miss] at hhit
      cases hhit
    · rintro ⟨-, i, hi, -⟩
      rcases h with hm | hlocks
      · exact absurd miss (lookup_available store
          (available_of_lockless hs hm (Record.whole?_eq_some.mp hi)) e)
      · exact absurd miss (hlocks e)

end

end ScriptCache
