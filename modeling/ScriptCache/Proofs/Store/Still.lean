import Mathlib
import ScriptCache.Proofs.Lock.Attempts
import ScriptCache.Proofs.Lock.Waiting
import ScriptCache.Proofs.Machine.Faults
import ScriptCache.Slot.Store

/-! What leaves the disk as it is.

Asking for locks, giving them up, reading the info file and the artifact: whatever they are
answered, none of these does anything to the disk. The one action of a lookup that may is to open
the slot's lock file (`acquire_disk`). -/
namespace ScriptCache

open Routine

section

variable {m m' : Machine} {slot : Slot} {dependencies : DependencyTable} {signature : Bytes}

theorem Routine.Takes.gained {α : Type} {routine : Routine α} {a : α} (h : routine.Takes Action.Still)
    (hyields : routine.Yields m a m') : m.Gained m' :=
  ⟨congrArg Prod.snd hyields.setting, .inl (h.disk hyields)⟩

theorem still_say (event : Event) : (say event).Takes Action.Still :=
  takes_perform trivial

theorem still_sayAll (events : List Event) : (sayAll events).Takes Action.Still := by
  induction events with
  | nil => trivial
  | cons event events ih => exact (still_say event).bind fun _ => ih

theorem still_folderOr (path : String) (e : SysError) :
    (Files.folderOr path e).Takes Action.Still := by
  have hask : (perform (.folderExists path)).Takes Action.Still := takes_perform trivial
  refine hask.bind fun there => ?_
  cases there <;> trivial

/-- Making folders is making some of them and looking at the others. -/
theorem takes_makeFolderChain {chain paths : List String} (hchain : ∀ above ∈ chain, above ∈ paths) :
    (Files.makeFolderChain chain).Takes fun action =>
      action.Still ∨ ∃ above ∈ paths, action = .makeFolder above := by
  have hfolder (above : String) (e : SysError) : (Files.folderOr above e).Takes fun action =>
      action.Still ∨ ∃ above ∈ paths, action = .makeFolder above :=
    (still_folderOr above e).mono fun _ => .inl
  induction chain with
  | nil => trivial
  | cons above chain ih =>
    have hmake : (perform (.makeFolder above)).Takes fun action =>
        action.Still ∨ ∃ above ∈ paths, action = .makeFolder above :=
      takes_perform (.inr ⟨above, hchain above List.mem_cons_self, rfl⟩)
    have hrest := ih fun other hother => hchain other (List.mem_cons_of_mem above hother)
    refine hmake.bind fun reply => ?_
    cases reply with
    | ok u => trivial
    | error e =>
      cases e with
      | notFound =>
        refine hrest.bind fun result => ?_
        cases result with
        | error e => trivial
        | ok u =>
          refine hmake.bind fun reply => ?_
          cases reply with
          | ok u => trivial
          | error e => exact hfolder above e
      | _ => exact hfolder above _

/-! ### Locks -/

theorem still_close (handle : Handle) : (perform (.closeFile handle)).Takes Action.Still :=
  takes_perform trivial

theorem still_lockFile (handle : Handle) (path : String) (mode : LockMode) (policy : RetryPolicy) :
    (FileLock.lockFile handle path mode policy).Takes Action.Still := by
  refine (FileLock.locking_lockFile handle path mode policy).mono fun action haction => ?_
  cases action with
  | tryLock | say | sleep | closeFile => trivial
  | _ => exact haction.elim

theorem still_release (lock : FileLock) : lock.release.Takes Action.Still := by
  have hunlock : (perform (.unlock lock.handle)).Takes Action.Still := takes_perform trivial
  rw [FileLock.release]
  split
  · exact hunlock.bind fun _ => trivial
  · trivial

theorem still_drop (lock : FileLock) : lock.drop.Takes Action.Still :=
  (still_release lock).bind fun released => still_close released.handle

theorem still_during {α : Type} (lock : FileLock) {work : Routine α}
    (h : work.Takes Action.Still) : (lock.during work).Takes Action.Still :=
  h.bind fun _ => (still_drop lock).bind fun _ => trivial

/-- Whatever fails, opening a lock file does no more to the disk than to make that file. -/
theorem openLock_disk {path : String} {reply : Except SysError Handle}
    (h : (FileLock.openLock path).Yields m reply m') : m.MadeLock path m'.disk := by
  obtain ⟨first, between, hopen, hrest⟩ := yields_bind.mp h
  have hstill : m'.disk = between.disk := by
    cases first with
    | ok handle =>
      obtain ⟨-, rfl⟩ := hrest
      rfl
    | error e =>
      have hagain : (if e.forbids then perform (.openFile path .read)
          else pure (.error e)).Takes Action.Still := by
        split
        · exact takes_perform rfl
        · trivial
      exact hagain.disk hrest
  rw [hstill]
  rcases (yields_perform.mp hopen).openFile with ⟨-, rfl⟩ | ⟨handle, -, hopened⟩
  · exact .inl rfl
  · have hmachine : between = (m.perform (.openFile path .append)).2 := by rw [hopened]
    rw [hmachine, m.openFile_kept path .append (by decide)]
    cases hopening : m.opening path .append with
    | error e => exact .inl rfl
    | ok made =>
      refine .inr ⟨{ node := made.1, appends := true }, ?_⟩
      rw [Machine.openingLock, hopening]
      rfl

/-- Nor does taking the lock. -/
theorem acquire_disk {path : String} {mode : LockMode} {policy : RetryPolicy}
    {result : Except LockError FileLock}
    (h : (FileLock.acquire path mode policy).Yields m result m') : m.MadeLock path m'.disk := by
  obtain ⟨reply, between, hopen, hrest⟩ := yields_bind.mp h
  have hstill : m'.disk = between.disk := by
    cases reply with
    | error e =>
      obtain ⟨-, rfl⟩ := hrest
      rfl
    | ok handle => exact (still_lockFile handle path mode policy).disk hrest
  rw [hstill]
  exact openLock_disk hopen

theorem acquire_gained {path : String} {mode : LockMode} {policy : RetryPolicy}
    {result : Except LockError FileLock}
    (h : (FileLock.acquire path mode policy).Yields m result m') : m.Gained m' :=
  ⟨congrArg Prod.snd h.setting, (acquire_disk h).ensured.same_or_added⟩

/-! ### Looking up -/

variable [Wire.Memory]

theorem still_inspect (path : String) :
    (Metadata.inspect path dependencies signature).Takes Action.Still := by
  have hread : (Files.read path).Takes Action.Still := by
    have hopen : (perform (.openFile path .read)).Takes Action.Still := takes_perform rfl
    have hrest (handle : Handle) : (perform (.readRest handle)).Takes Action.Still :=
      takes_perform trivial
    refine hopen.bind fun reply => ?_
    cases reply with
    | error e => trivial
    | ok handle =>
      exact (hrest handle).bind fun _ => (still_close handle).bind fun _ => trivial
  refine hread.bind fun result => ?_
  cases result with
  | error e => cases e <;> trivial
  | ok raw =>
    dsimp only
    cases Metadata.decode raw with
    | ok m => trivial
    | error flaw =>
      show Takes Action.Still (if flaw.breaksOff then _ else _)
      split
      · trivial
      · exact (still_say _).bind fun _ => trivial

theorem still_readSlot (handle : Handle) :
    (Store.readSlot slot handle dependencies signature).Takes Action.Still := by
  refine (still_inspect slot.info).bind fun outcome => ?_
  cases outcome with
  | valid metadata =>
    have hrest : (perform (.readRest handle)).Takes Action.Still := takes_perform trivial
    refine hrest.bind fun reply => ?_
    cases reply with
    | error e => exact (still_say _).bind fun _ => trivial
    | ok bytes => trivial
  | _ => trivial

theorem still_lookupLocked (policy : RetryPolicy) :
    (Store.lookupLocked policy slot dependencies signature).Takes Action.Still := by
  have hopen : (perform (.openFile slot.artifact .read)).Takes Action.Still := takes_perform rfl
  refine hopen.bind fun reply => ?_
  cases reply with
  | error e =>
    cases e with
    | notFound => trivial
    | _ => exact (still_say _).bind fun _ => trivial
  | ok handle =>
    refine (still_lockFile handle slot.artifact .shared policy).bind fun result => ?_
    cases result with
    | error e => exact (still_say _).bind fun _ => trivial
    | ok lock => exact still_during lock (still_readSlot lock.handle)

/-- A lookup leaves the disk as it is, or it opens the lock file: it does so only where the
artifact exists and lookups are not bypassed. -/
theorem lookup_disk {store : Store} {outcome : LookupOutcome}
    (h : (store.lookup slot dependencies signature).Yields m outcome m') :
    m.MadeLock slot.lock m'.disk ∧ (m'.disk = m.disk ∨ store.force = false ∧
      m.disk.exists? slot.artifact = true) := by
  obtain ⟨found, searched, hsearch, hsay⟩ := yields_bind.mp h
  have htold : m'.disk = searched.disk :=
    ((still_sayAll _).bind fun _ => takes_pure found).disk hsay
  rw [htold]
  rw [Store.search] at hsearch
  split at hsearch
  · obtain ⟨-, rfl⟩ := hsearch
    exact ⟨.inl rfl, .inl rfl⟩
  rename_i hforce
  obtain ⟨there, asked, hasked, hrest⟩ := yields_bind.mp hsearch
  obtain ⟨rfl, hthere⟩ := (yields_perform.mp hasked).fileExists
  cases there with
  | false =>
    obtain ⟨-, rfl⟩ := hrest
    exact ⟨.inl rfl, .inl rfl⟩
  | true =>
    obtain ⟨taken, between, hacquire, hlocked⟩ := yields_bind.mp hrest
    have hstill : searched.disk = between.disk := by
      cases taken with
      | error e => exact ((still_say _).bind fun _ => takes_pure _).disk hlocked
      | ok lock => exact (still_during lock (still_lookupLocked store.policy)).disk hlocked
    rw [hstill]
    exact ⟨acquire_disk hacquire, .inr ⟨by simpa using hforce, hthere rfl⟩⟩

end

end ScriptCache
