import Mathlib
import ScriptCache.Proofs.Machine.Ensuring
import ScriptCache.Proofs.Machine.Lapse
import ScriptCache.Proofs.Store.Verdict

/-! Answers that last.

What a lookup answers depends on the disk, and on the files that others have open and on when they
close them. So on a machine that is in step with another it answers the same if the disk is the
same, and also if all that was done to the disk is that the slot's own lock file was made
(`lookup_again`). Where another file was made, a miss may have another reason, but a hit stays the
same hit (`hit_again`). -/
namespace ScriptCache

namespace Machine

variable {m base m' : Machine} {policy : RetryPolicy} {node : NodeId} {mode : LockMode}

/-! ### Locks in step -/

theorem InStep.barred (h : base.InStep m') (node : NodeId) (mode : LockMode) :
    m'.barred node mode = base.barred node mode := by
  rw [Bool.eq_iff_iff, barred_iff, barred_iff]
  simp only [h.file]

theorem InStep.atAttempt (h : base.InStep m') (policy : RetryPolicy) (n : Nat) :
    (base.atAttempt policy n).InStep (m'.atAttempt policy n) := by
  induction n with
  | zero => exact h
  | succ n ih => exact ih.pass _

theorem InStep.grantedAt? (h : base.InStep m') (policy : RetryPolicy) (node : NodeId)
    (mode : LockMode) : m'.grantedAt? policy node mode = base.grantedAt? policy node mode := by
  simp only [Machine.grantedAt?, (h.atAttempt policy _).barred]

/-- Asking for a lock ends in the same way on machines in step, and leaves them in step. -/
theorem InStep.lockAt (h : base.InStep m') (policy : RetryPolicy) (mode : LockMode)
    (found : Except SysError NodeId) :
    (∃ e, base.lockAt policy mode found = .error e ∧ m'.lockAt policy mode found = .error e) ∨
      ∃ left left', base.lockAt policy mode found = .ok left ∧
        m'.lockAt policy mode found = .ok left' ∧ left.InStep left' := by
  cases found with
  | error e => exact .inl ⟨.io e, rfl, rfl⟩
  | ok node =>
    simp only [Machine.lockAt, h.grantedAt?]
    cases base.grantedAt? policy node mode with
    | none => exact .inl ⟨_, rfl, rfl⟩
    | some n => exact .inr ⟨_, _, rfl, rfl, h.atAttempt policy n⟩

/-! ### Nodes that nobody has open -/

/-- Whether everything that is open on a machine is on its disk. -/
def Anchored (m : Machine) : Prop :=
  ∀ handle file, m.file? handle = some file → file.node < m.disk.nodes.length

theorem Anchored.pass (h : m.Anchored) (span : Nat) : (m.pass span).Anchored := by
  intro handle file hfile
  rw [disk_pass]
  exact h handle file (file?_of_pass hfile)

theorem Anchored.atAttempt (h : m.Anchored) (policy : RetryPolicy) (n : Nat) :
    (m.atAttempt policy n).Anchored := by
  induction n with
  | zero => exact h
  | succ n ih => exact ih.pass _

theorem Aged.anchored (h : m.Aged base) (hanchored : m.Anchored) : base.Anchored := by
  rcases h with rfl | ⟨span, rfl⟩
  · exact hanchored
  · exact hanchored.pass span

/-- Nothing stands in the way of a lock on a node that is not on the disk. -/
theorem Anchored.barred (h : m.Anchored) (hnode : m.disk.nodes.length ≤ node) (mode : LockMode) :
    m.barred node mode = false := by
  rw [Bool.eq_false_iff, ne_eq, barred_iff]
  rintro ⟨handle, file, held, hfile, rfl, -⟩
  exact absurd (h handle file hfile) (Nat.not_lt_of_le hnode)

/-- All nodes that are not on the disk are locked alike. -/
theorem Anchored.grantedAt? (h : m.Anchored) {node' : NodeId}
    (hnode : m.disk.nodes.length ≤ node) (hnode' : m.disk.nodes.length ≤ node')
    (policy : RetryPolicy) (mode : LockMode) :
    m.grantedAt? policy node mode = m.grantedAt? policy node' mode := by
  have hfree {other : NodeId} (hother : m.disk.nodes.length ≤ other) (n : Nat) :
      (m.atAttempt policy n).barred other mode = false :=
    (h.atAttempt policy n).barred (by rwa [disk_atAttempt]) mode
  simp only [Machine.grantedAt?, hfree hnode, hfree hnode']

end Machine

/-! ### The slot's own lock file -/

section

variable {m m' : Machine} {path : String} {file : OpenFile} {disk : Disk}

/-- A lock file that was opened is opened again, on the disk that it was opened on, as the same
file. -/
theorem openingLock_again (h : m.openingLock path = .ok (file, disk)) :
    ({ m with disk } : Machine).openingLock path = .ok (file, disk) := by
  rcases openingLock_iff.mp h with ⟨hrefuses, hensure, hfile⟩ | ⟨e, -, -, -, -, rfl⟩
  · exact openingLock_iff.mpr (.inl ⟨hrefuses, Disk.ensureFile_again hensure, hfile⟩)
  · exact h

theorem Machine.MadeLock.of_same (hrefuses : m'.refuses = m.refuses) (hdisk : m'.disk = m.disk)
    (h : m.MadeLock path disk) : m'.MadeLock path disk := by
  rcases h with rfl | ⟨file, hopening⟩
  · exact .inl hdisk.symm
  · exact .inr ⟨file, (openingLock_of_same hrefuses hdisk path).trans hopening⟩

end

section

variable {base m' : Machine} {store : Store} {slot : Slot} {dependencies : DependencyTable}
  {signature : Bytes}

/-- Making the lock file when it is made changes nothing. -/
theorem lockMade_again (hrefuses : m'.refuses = base.refuses)
    (hmade : base.MadeLock slot.lock m'.disk) :
    (slot.lockMade m').refuses = (slot.lockMade base).refuses ∧
      (slot.lockMade m').disk = (slot.lockMade base).disk ∧
      (m'.openingLock slot.lock).map (·.1.node) = (base.openingLock slot.lock).map (·.1.node) := by
  have hkept (m : Machine) : (slot.lockMade m).refuses = m.refuses := by
    rw [Slot.lockMade]
    split <;> rfl
  refine ⟨by rw [hkept, hkept, hrefuses], ?_⟩
  rcases hmade with hsame | ⟨file, hopening⟩
  · have hagain := openingLock_of_same hrefuses hsame slot.lock
    simp only [Slot.lockMade, hagain, and_true]
    split
    · rfl
    · exact hsame
  · have hagain : m'.openingLock slot.lock = .ok (file, m'.disk) :=
      (openingLock_of_same (m := { base with disk := m'.disk }) hrefuses rfl slot.lock).trans
        (openingLock_again hopening)
    simp only [Slot.lockMade, hopening, hagain, and_self]

variable [Wire.Memory]

/-- A lookup answers the same when time alone has passed, and when the slot's lock file was made. -/
theorem lookup_again (h : base.InStep m') (hcloses : base.ClosesOpened)
    (hmade : base.MadeLock slot.lock m'.disk)
    (hexists : m'.disk.exists? slot.artifact = base.disk.exists? slot.artifact) :
    ((store.lookup slot dependencies signature).run m').1 =
      ((store.lookup slot dependencies signature).run base).1 := by
  obtain ⟨hrefuses, hdisk, hlock⟩ := lockMade_again h.refuses hmade
  rw [lookup_search, lookup_search]
  cases hforce : store.force with
  | true => rw [search_forced hforce, search_forced hforce]
  | false =>
    cases hthere : base.disk.exists? slot.artifact with
    | false =>
      rw [search_absent hforce hthere, search_absent hforce (hexists.trans hthere)]
    | true =>
      rw [search_answer hcloses hforce hthere,
        search_answer (h.closesOpened hcloses) hforce (hexists.trans hthere)]
      simp only [Slot.lockGrant, Slot.opened, hlock, Machine.existing_of_same hrefuses hdisk,
        Machine.contents_of_same hrefuses hdisk, hdisk]
      rcases h.lockAt store.policy .shared ((base.openingLock slot.lock).map (·.1.node)) with
        ⟨e, hbase, hother⟩ | ⟨left, left', hbase, hother, hstep⟩
      · rw [hbase, hother]
      · rw [hbase, hother]
        cases (slot.lockMade base).existing slot.artifact with
        | error e => rfl
        | ok node =>
          rcases hstep.lockAt store.policy .shared (.ok node) with
            ⟨e, hbase', hother'⟩ | ⟨last, last', hbase', hother', -⟩ <;>
            simp only [hbase', hother']

/-! ### Other files -/

omit [Wire.Memory] in
/-- A lock file that could be opened can be when an empty file was added, and is the same or new
before and after. -/
theorem openingLock_gain {path : String} {file : OpenFile} {disk : Disk}
    (hrefuses : m'.refuses = base.refuses) (hadded : base.disk.Added (.file []) m'.disk)
    (h : base.openingLock path = .ok (file, disk)) :
    ∃ file' disk', m'.openingLock path = .ok (file', disk') ∧ (file'.node = file.node ∨
      base.disk.nodes.length ≤ file.node ∧ base.disk.nodes.length ≤ file'.node) := by
  rcases openingLock_iff.mp h with ⟨hallowed, hensure, -⟩ | ⟨e, hrefused, hforbids, hexisting, -, -⟩
  · obtain ⟨node', disk', hensure', hnodes⟩ := Disk.ensureFile_gain hadded hensure
    exact ⟨{ node := node', appends := true }, disk',
      openingLock_iff.mpr (.inl ⟨by rw [hrefuses, hallowed], hensure', rfl⟩), hnodes⟩
  · obtain ⟨hread, hthere⟩ := Machine.existing_eq_ok.mp hexisting
    have hexisting' : m'.existing path = .ok file.node :=
      Machine.existing_eq_ok.mpr ⟨by rw [hrefuses, hread], hadded.existing hthere⟩
    exact ⟨{ node := file.node }, m'.disk, openingLock_iff.mpr
      (.inr ⟨e, by rw [hrefuses, hrefused], hforbids, hexisting', rfl, rfl⟩), .inl rfl⟩

/-- What is in place for a hit is in place when an empty file was added. -/
theorem accepts_again {hit : CachedArtifact} (h : base.InStep m') (hanchored : base.Anchored)
    (hadded : base.disk.Added (.file []) m'.disk)
    (haccepts : store.Accepts slot dependencies signature base hit) :
    store.Accepts slot dependencies signature m' hit := by
  have hgained : base.Gained m' := ⟨h.refuses, .inr hadded⟩
  obtain ⟨file, disk, node, n, hopening, hexisting, hgranted, hboth⟩ := haccepts.locks
  obtain ⟨file', disk', hopening', hnodes⟩ := openingLock_gain h.refuses hadded hopening
  have hlocked : base.grantedAt? store.policy file'.node .shared = some n := by
    rcases hnodes with hsame | ⟨hnew, hnew'⟩
    · rw [hsame, hgranted]
    · rw [hanchored.grantedAt? hnew' hnew, hgranted]
  obtain ⟨raw, hraw, hdecode⟩ := haccepts.info
  exact {
    haccepts with
    present := Disk.exists?_of_added hadded haccepts.present
    locks := ⟨file', disk', node, n, hopening',
      (hgained.existing haccepts.present).trans hexisting,
      (h.grantedAt? _ _ _).trans hlocked, by rwa [(h.atAttempt store.policy n).grantedAt?]⟩
    info := ⟨raw, hgained.contents?_of_ok hraw, hdecode⟩
    artifact := hgained.contents?_of_ok haccepts.artifact }

/-- A hit stays the same hit when time alone has passed, and when an empty file was added to the
disk, wherever that is. -/
theorem hit_again {hit : CachedArtifact} (h : base.InStep m') (hcloses : base.ClosesOpened)
    (hanchored : base.Anchored)
    (hadded : m'.disk = base.disk ∨ base.disk.Added (.file []) m'.disk)
    (hhit : ((store.lookup slot dependencies signature).run base).1 = .hit hit) :
    ((store.lookup slot dependencies signature).run m').1 = .hit hit := by
  rcases hadded with hsame | hadded
  · rw [lookup_again h hcloses (.inl hsame) (by rw [hsame]), hhit]
  · exact (lookup_hits_iff (h.closesOpened hcloses)).mpr
      (accepts_again h hanchored hadded ((lookup_hits_iff hcloses).mp hhit))

end

end ScriptCache
