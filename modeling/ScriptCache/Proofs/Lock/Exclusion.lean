import Mathlib
import ScriptCache.Proofs.Lock.Rivals

/-! File locks exclude each other and know whether they are held.

Whatever rivals do, and in whatever order their actions are taken, the locks that say they are held
on a node are all shared or there is a single one (`Rivals.Exclusive`), a lock says that it is held
exactly while its open file is under its mode (`Rivals.Truthful`), an attempt is granted exactly
where no lock of another open file is in its way (`Rivals.Exact`), and nobody else's turn changes
anything about a lock (`Rivals.Lasting`). `file_locks_faithful` says all of it of every state that
can be reached. -/
namespace ScriptCache

namespace Rivals

variable {s : Rivals} {k : Nat} {turn : Turn} {lock : FileLock} {stake : Nat → Stake}

/-! ### Locks and what they say of themselves -/

/-- What a lock says of itself is so. -/
def Truthful (s : Rivals) : Prop :=
  ∀ k lock, s.lock? k = some lock → ∃ file, s.machine.file? lock.handle = some file ∧
    (lock.held = true ↔ file.lock = some lock.mode) ∧ (lock.held = false → file.lock = none)

theorem Accounted.truthful (h : s.Accounted stake) : s.Truthful := by
  intro k lock hlock
  have hstake : stake k = lock.stake := h.stake_eq hlock
  obtain ⟨file, hfile, hmode⟩ := (h.account k).backs _ _ hstake
  refine ⟨file, hfile, ?_, fun hheld => ?_⟩
  · rw [hmode]
    cases lock.held <;> simp
  · simpa [hheld] using hmode

/-- Whether a rival has a lock that says it is held, on a file that is open on a node. -/
def Holds (s : Rivals) (k : Nat) (node : NodeId) (mode : LockMode) : Prop :=
  ∃ lock file, s.lock? k = some lock ∧ lock.held = true ∧ lock.mode = mode ∧
    s.machine.file? lock.handle = some file ∧ file.node = node

/-- The locks held on a node are all shared, or there is a single one. -/
def Exclusive (s : Rivals) : Prop :=
  ∀ node, (∀ k mode, s.Holds k node mode → mode = .shared) ∨
    ∃ k, s.Holds k node .exclusive ∧ ∀ j mode, s.Holds j node mode → j = k

theorem Accounted.not_excludes (h : s.Accounted stake) {j : Nat} (hjk : j ≠ k) {node : NodeId}
    {mode mode' : LockMode} (hj : s.Holds j node mode) (hk : s.Holds k node mode') :
    mode.excludes mode' = false := by
  obtain ⟨lock, file, hlock, hheld, rfl, hfile, hnode⟩ := hj
  obtain ⟨lock', file', hlock', hheld', rfl, hfile', hnode'⟩ := hk
  have hne : lock.handle ≠ lock'.handle := by
    intro heq
    have hj : stake j = lock.stake := h.stake_eq hlock
    have hk : stake k = lock'.stake := h.stake_eq hlock'
    rw [FileLock.stake, heq] at hj
    exact hjk (h.unshared hj hk)
  obtain ⟨_, hsame, hmode, -⟩ := h.truthful j lock hlock
  obtain ⟨_, hsame', hmode', -⟩ := h.truthful k lock' hlock'
  cases hfile.symm.trans hsame
  cases hfile'.symm.trans hsame'
  exact h.apart.apart hne hfile hfile' (hnode.trans hnode'.symm) (hmode.mp hheld) (hmode'.mp hheld')

theorem Accounted.exclusive (h : s.Accounted stake) : s.Exclusive := by
  intro node
  by_cases hone : ∃ k, s.Holds k node .exclusive
  · obtain ⟨k, hk⟩ := hone
    refine .inr ⟨k, hk, fun j mode hj => ?_⟩
    by_contra hjk
    have hexcludes := h.not_excludes hjk hj hk
    rw [LockMode.excludes_exclusive] at hexcludes
    cases hexcludes
  · refine .inl fun k mode hk => ?_
    cases mode with
    | shared => rfl
    | exclusive => exact absurd ⟨k, hk⟩ hone

end Rivals

/-! ### Attempts -/

/-- Whether another open file has a lock on the same node that excludes a mode. -/
def Machine.Contested (m : Machine) (handle : Handle) (mode : LockMode) : Prop :=
  ∃ file other file' held, m.file? handle = some file ∧ other ≠ handle ∧
    m.file? other = some file' ∧ file'.node = file.node ∧ file'.lock = some held ∧
    held.excludes mode = true

/-- Asking for a lock on an open file is refused exactly where the file is contested. -/
theorem Machine.tryLock_reply {m : Machine} {handle : Handle} {file : OpenFile}
    (hfile : m.file? handle = some file) (mode : LockMode) :
    (m.perform (.tryLock handle mode)).1 = .held ∧ m.Contested handle mode ∨
      (m.perform (.tryLock handle mode)).1 = .granted ∧ ¬ m.Contested handle mode := by
  have hblocked : m.blocked handle file.node mode = true ↔ m.Contested handle mode := by
    rw [blocked_iff]
    constructor
    · rintro ⟨other, file', held, hne, hfile', hnode, hlock, hexcludes⟩
      exact ⟨file, other, file', held, hfile, hne, hfile', hnode, hlock, hexcludes⟩
    · rintro ⟨_, other, file', held, hsame, hne, hfile', hnode, hlock, hexcludes⟩
      cases hfile.symm.trans hsame
      exact ⟨other, file', held, hne, hfile', hnode, hlock, hexcludes⟩
  simp only [perform, tryLock, hfile]
  by_cases h : m.blocked handle file.node mode = true
  · exact .inl ⟨by rw [if_pos h], hblocked.mp h⟩
  · exact .inr ⟨by rw [if_neg h], fun hcontested => h (hblocked.mpr hcontested)⟩

/-- Whether every result that a routine can come to, whatever it is answered, is such. -/
def Routine.Ends {α : Type} (Q : α → Prop) : Routine α → Prop
  | done a => Q a
  | act _ next => ∀ reply, (next reply).Ends Q

/-- A lock is asked for by its path as it is on the file that was opened, for writing or else for
reading. -/
theorem Standing.acquiring_first (path : String) (mode : LockMode) (policy : RetryPolicy) :
    ∃ next : Except SysError Handle → Routine Standing,
      acquiring path mode policy = .act (.openFile path .append) next ∧
      (∀ handle, next (.ok handle) = locking handle path mode policy) ∧
      ∀ e, e.forbids = true → next (.error e) = reopening path mode policy := by
  refine ⟨_, rfl, fun _ => rfl, fun e hforbids => ?_⟩
  simp only [Routine.bind, hforbids, if_true]
  refine congrArg (Routine.act (.openFile path .read)) (funext fun reply => ?_)
  cases reply <;> rfl

/-- A single attempt is decided by the reply to its first action. -/
theorem Standing.locking_once {policy : RetryPolicy} (honce : policy.attempts = 1) (handle : Handle)
    (path : String) (mode : LockMode) :
    ∃ next : LockReply → Routine Standing,
      locking handle path mode policy = .act (.tryLock handle mode) next ∧
      next .granted = .done (.has ⟨path, handle, mode, true⟩) ∧
      (next .held).Ends (· = .refused (.timeout 1)) := by
  rw [locking, FileLock.lockFile, honce]
  refine ⟨_, rfl, rfl, fun _ _ => ?_⟩
  show Standing.refused (.timeout policy.attempts) = _
  rw [honce]

namespace Rivals

variable {s : Rivals} {k : Nat} {turn : Turn} {lock : FileLock} {stake : Nat → Stake}

/-- Whether a rival is bound to be refused. -/
def Refusing (s : Rivals) (k : Nat) (e : LockError) : Prop :=
  ∃ left, s.left[k]? = some left ∧ left.Ends (· = .refused e)

theorem Refusing.lock?_eq_none {e : LockError} (h : s.Refusing k e) : s.lock? k = none := by
  obtain ⟨left, hleft, hends⟩ := h
  cases hlock : s.lock? k with
  | none => rfl
  | some lock =>
    rw [left_of_lock? hlock] at hleft
    cases hleft
    cases hends

theorem Refusing.step {e : LockError} (h : s.Refusing k e) (turn : Turn) :
    (s.step turn).Refusing k e := by
  have hlock := h.lock?_eq_none
  obtain ⟨left, hleft, hends⟩ := h
  have hlt : k < s.left.length := (List.getElem?_eq_some_iff.mp hleft).1
  by_cases hturn : turn.rival? = some k
  · cases turn with
    | acquire | lockFile | other => cases hturn
    | release j | drop j =>
      cases hturn
      exact ⟨left, by simp only [Rivals.step, hlock, hleft], hends⟩
    | act j =>
      cases hturn
      cases left with
      | done standing => exact ⟨_, by simp only [Rivals.step, hleft], hends⟩
      | act action next =>
        refine ⟨next (s.machine.perform action).1, ?_, hends _⟩
        rw [step_act hleft]
        exact List.getElem?_set_self hlt
  · exact ⟨left, (left_step hlt hturn).trans hleft, hends⟩

theorem Refusing.run {e : LockError} (h : s.Refusing k e) (turns : List Turn) :
    (s.run turns).Refusing k e := by
  induction turns generalizing s with
  | nil => exact h
  | cons turn turns ih => exact ih (h.step turn)

/-- Every attempt of a rival is granted exactly where the file is not contested at that moment. So a
rival that makes a single one, on a file that is opened if there is none yet, for reading where it
may not be written, has its lock at once or never. -/
def Exact (s : Rivals) : Prop :=
  ∀ {k path mode policy},
    (∀ {handle next}, s.left[k]? = some (.act (.tryLock handle mode) next) →
      ((s.machine.perform (.tryLock handle mode)).1 = .granted ↔
        ¬ s.machine.Contested handle mode)) ∧
    (∀ {handle}, s.left[k]? = some (Standing.acquiring path mode policy) →
      (s.machine.perform (.openFile path .append)).1 = .ok handle →
      (s.step (.act k)).left[k]? = some (Standing.locking handle path mode policy)) ∧
    (∀ {e}, s.left[k]? = some (Standing.acquiring path mode policy) →
      (s.machine.perform (.openFile path .append)).1 = .error e → e.forbids = true →
      (s.step (.act k)).left[k]? = some (Standing.reopening path mode policy)) ∧
    (∀ {handle}, s.left[k]? = some (Standing.reopening path mode policy) →
      (s.machine.perform (.openFile path .read)).1 = .ok handle →
      (s.step (.act k)).left[k]? = some (Standing.locking handle path mode policy)) ∧
    ∀ {handle}, policy.attempts = 1 →
      s.left[k]? = some (Standing.locking handle path mode policy) →
      ((s.step (.act k)).lock? k = some ⟨path, handle, mode, true⟩ ↔
        ¬ s.machine.Contested handle mode) ∧
      (s.machine.Contested handle mode →
        ∀ turns, (s.run (.act k :: turns)).Refusing k (.timeout 1))

theorem Accounted.attempt (h : s.Accounted stake) {handle : Handle} {mode : LockMode}
    {next : LockReply → Routine Standing}
    (hleft : s.left[k]? = some (.act (.tryLock handle mode) next)) :
    (s.machine.perform (.tryLock handle mode)).1 = .held ∧ s.machine.Contested handle mode ∨
      (s.machine.perform (.tryLock handle mode)).1 = .granted ∧
        ¬ s.machine.Contested handle mode := by
  obtain ⟨before, hstake⟩ := ((h.account k).stakes hleft).1 handle (List.mem_singleton_self _)
  obtain ⟨file, hfile, -⟩ := (h.account k).backs _ _ hstake
  exact Machine.tryLock_reply hfile mode

theorem Accounted.exact (h : s.Accounted stake) : s.Exact := by
  intro k path mode policy
  refine ⟨fun {handle next} hleft => ?attempt, fun {handle} hleft hopen => ?opening,
    fun {e} hleft hrefused hforbids => ?refused, fun {handle} hleft hopen => ?reopening,
    fun {handle} honce hleft => ?once⟩
  case attempt =>
    rcases h.attempt hleft with ⟨hreply, hcontested⟩ | ⟨hreply, hfree⟩
    · simp [hreply, hcontested]
    · simp [hreply, hfree]
  case opening =>
    have hlt : k < s.left.length := (List.getElem?_eq_some_iff.mp hleft).1
    obtain ⟨next, hacts, hopened, -⟩ := Standing.acquiring_first path mode policy
    rw [hacts] at hleft
    rw [step_act hleft, hopen, hopened]
    exact List.getElem?_set_self hlt
  case refused =>
    have hlt : k < s.left.length := (List.getElem?_eq_some_iff.mp hleft).1
    obtain ⟨next, hacts, -, hreopens⟩ := Standing.acquiring_first path mode policy
    rw [hacts] at hleft
    rw [step_act hleft, hrefused, hreopens e hforbids]
    exact List.getElem?_set_self hlt
  case reopening =>
    have hlt : k < s.left.length := (List.getElem?_eq_some_iff.mp hleft).1
    rw [step_act hleft, hopen]
    exact List.getElem?_set_self hlt
  case once =>
    have hlt : k < s.left.length := (List.getElem?_eq_some_iff.mp hleft).1
    obtain ⟨next, hacts, hgranted, hheld⟩ := Standing.locking_once honce handle path mode
    rw [hacts] at hleft
    have hafter : (s.step (.act k)).left[k]? =
        some (next (s.machine.perform (.tryLock handle mode)).1) := by
      rw [step_act hleft]
      exact List.getElem?_set_self hlt
    rcases h.attempt hleft with ⟨hreply, hcontested⟩ | ⟨hreply, hfree⟩
    · rw [hreply] at hafter
      have hrefusing : (s.step (.act k)).Refusing k (.timeout 1) := ⟨_, hafter, hheld⟩
      refine ⟨⟨fun hlock => ?_, fun hfree => absurd hcontested hfree⟩, fun _ => hrefusing.run⟩
      rw [hrefusing.lock?_eq_none] at hlock
      cases hlock
    · rw [hreply, hgranted] at hafter
      refine ⟨⟨fun _ => hfree, fun _ => ?_⟩, fun hcontested => absurd hcontested hfree⟩
      rw [lock?, hafter]

/-! ### Locks of others -/

/-- A lock stays as it is, on its file, while its rival is left alone; releasing it again does
nothing, and dropping it after it was released closes its file and does nothing else. -/
def Lasting (s : Rivals) : Prop :=
  ∀ {k lock}, s.lock? k = some lock →
    (∀ turns : List Turn, (∀ turn ∈ turns, turn.rival? ≠ some k) →
      (s.run turns).lock? k = some lock ∧
        ((s.run turns).machine.file? lock.handle).map Machine.bearing =
          (s.machine.file? lock.handle).map Machine.bearing) ∧
    (lock.held = false → s.step (.release k) = s ∧
      (s.run [.drop k, .act k]).machine = s.machine.close lock.handle)

theorem Accounted.bearing_step (h : s.Accounted stake) (hlock : s.lock? k = some lock)
    (hturn : turn.rival? ≠ some k) :
    ((s.step turn).machine.file? lock.handle).map Machine.bearing =
      (s.machine.file? lock.handle).map Machine.bearing := by
  have hstake : stake k = lock.stake := h.stake_eq hlock
  obtain ⟨file, hfile, -⟩ := (h.account k).backs _ _ hstake
  have hlt := Machine.lt_of_file? hfile
  cases turn with
  | acquire path mode policy => rfl
  | lockFile handle path mode policy =>
    simp only [Rivals.step]
    split <;> rfl
  | release j | drop j =>
    simp only [Rivals.step]
    split <;> rfl
  | act j =>
    have hjk : k ≠ j := fun heq => hturn (congrArg some heq.symm)
    cases hleft : s.left[j]? with
    | none => simp only [Rivals.step, hleft]
    | some left =>
      cases left with
      | done standing => simp only [Rivals.step, hleft]
      | act action next =>
        rw [step_act hleft]
        exact Machine.bearing_unbound hlt h.quiet (h.not_binds hjk hleft hstake)
  | other action =>
    simp only [Rivals.step]
    split
    · rename_i hforeign
      exact Machine.bearing_unbound hlt h.quiet fun hmem =>
        (h.account k).own _ _ hstake (hforeign _ hmem)
    · rfl

theorem Accounted.kept (h : s.Accounted stake) (hlock : s.lock? k = some lock) (turns : List Turn)
    (hturns : ∀ turn ∈ turns, turn.rival? ≠ some k) :
    (s.run turns).lock? k = some lock ∧
      ((s.run turns).machine.file? lock.handle).map Machine.bearing =
        (s.machine.file? lock.handle).map Machine.bearing := by
  induction turns generalizing s stake with
  | nil => exact ⟨hlock, rfl⟩
  | cons turn turns ih =>
    have hturn := hturns turn List.mem_cons_self
    obtain ⟨stake', h'⟩ := h.step turn
    obtain ⟨hstill, hsame⟩ := ih h' (lock?_step hlock hturn) fun other hmem =>
      hturns other (List.mem_cons_of_mem turn hmem)
    exact ⟨hstill, hsame.trans (h.bearing_step hlock hturn)⟩

theorem release_released (hlock : s.lock? k = some lock) (hheld : lock.held = false) :
    s.step (.release k) = s := by
  obtain ⟨path, handle, mode, held⟩ := lock
  obtain rfl : held = false := hheld
  have hsame : s.left.set k (Standing.releasing ⟨path, handle, mode, false⟩) = s.left := by
    obtain ⟨hlt, hleft⟩ := List.getElem?_eq_some_iff.mp (left_of_lock? hlock)
    show s.left.set k (.done (.has ⟨path, handle, mode, false⟩)) = s.left
    rw [← hleft]
    exact List.set_getElem_self hlt
  simp only [step, hlock, hsame]

theorem drop_released (hlock : s.lock? k = some lock) (hheld : lock.held = false) :
    (s.run [.drop k, .act k]).machine = s.machine.close lock.handle := by
  obtain ⟨path, handle, mode, held⟩ := lock
  obtain rfl : held = false := hheld
  have hlt : k < s.left.length := (List.getElem?_eq_some_iff.mp (left_of_lock? hlock)).1
  have hdrop : s.step (.drop k) =
      { s with left := s.left.set k (Standing.dropping ⟨path, handle, mode, false⟩) } := by
    simp only [step, hlock]
  have hleft : (s.step (.drop k)).left[k]? =
      some (.act (.closeFile handle) fun _ => .done .gone) := by
    rw [hdrop]
    exact List.getElem?_set_self hlt
  show ((s.step (.drop k)).step (.act k)).machine = _
  rw [step_act hleft, hdrop]
  rfl

end Rivals

/-! ### File locks -/

/-- Whatever is on the disk and may be opened there, whatever locks are asked for, released again and
again and dropped, in whatever order the actions of all this are taken: the locks held on a node
exclude each other, each lock tells whether it is held, a single attempt succeeds exactly where no
lock is in its way, and nobody else's turn changes anything about a lock, least of all the release or
the drop of another that was released before. -/
theorem file_locks_faithful (disk : Disk) (launcher : Launcher) (refuses : Refusals)
    (turns : List Rivals.Turn) :
    let s := (Rivals.start disk launcher refuses).run turns
    s.Exclusive ∧ s.Truthful ∧ s.Exact ∧ s.Lasting := by
  intro s
  obtain ⟨stake, h⟩ := (Rivals.accounted_start disk launcher refuses).run turns
  exact ⟨h.exclusive, h.truthful, h.exact, fun hlock => ⟨h.kept hlock, fun hheld =>
    ⟨Rivals.release_released hlock hheld, Rivals.drop_released hlock hheld⟩⟩⟩

/-- A lock that was released is released again and dropped after another was granted. -/
example :
    let turns : List Rivals.Turn := [.acquire "a" .exclusive .once, .act 0, .act 0, .release 0, .act 0,
      .acquire "a" .exclusive .once, .act 1, .act 1, .release 0, .drop 0, .act 0]
    let m := Machine.blank
    ((Rivals.start m.disk m.launcher m.refuses).run turns).lock? 1 =
      some ⟨"a", 1, .exclusive, true⟩ := by
  decide +kernel

end ScriptCache
