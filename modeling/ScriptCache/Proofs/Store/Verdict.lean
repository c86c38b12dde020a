import Mathlib
import ScriptCache.Proofs.Dependency.Multiset
import ScriptCache.Proofs.Lock.Waiting
import ScriptCache.Proofs.Machine.Sight
import ScriptCache.Proofs.Store.BreakOff
import ScriptCache.Proofs.Store.Stored

/-! What a lookup comes to, on any machine.

A lookup makes nine checks one after another (`LookupCheck`). What each of them would answer can
be told from the machine that the lookup starts on (`Store.failing`): from the disk with the slot's
lock file on it, from what may be opened, and from the locks that others hold at the attempts that
will be made. The lookup hits where no check fails, and else has the answer of the first that does
(`lookup_exact`). The one check without an answer is to read what has no end. -/
namespace ScriptCache

/-! ### The checks -/

/-- The checks of a lookup. -/
inductive LookupCheck where
  | bypass
  | existence
  | slotLock
  | opening
  | artifactLock
  | info
  | dependencies
  | signature
  | artifact
  deriving DecidableEq

/-- All checks, in the order in which they are made. -/
def LookupCheck.all : List LookupCheck :=
  [bypass, existence, slotLock, opening, artifactLock, info, dependencies, signature, artifact]

/-- How asking for a lock on a file ends: the machine at the attempt at which it is granted, as
the others have left it then, or the error. -/
def Machine.lockAt (m : Machine) (policy : RetryPolicy) (mode : LockMode) :
    Except SysError NodeId → Except LockError Machine
  | .error e => .error (.io e)
  | .ok node =>
    match m.grantedAt? policy node mode with
    | none => .error (.timeout policy.attempts)
    | some n => .ok (m.atAttempt policy n)

namespace Slot

/-- The machine with the slot's lock file on its disk, if that can be opened. -/
def lockMade (slot : Slot) (m : Machine) : Machine :=
  match m.openingLock slot.lock with
  | .ok (_, disk) => { m with disk }
  | .error _ => m

/-- How asking for the slot's lock ends. -/
def lockGrant (slot : Slot) (policy : RetryPolicy) (m : Machine) : Except LockError Machine :=
  m.lockAt policy .shared ((m.openingLock slot.lock).map (·.1.node))

/-- The artifact, opened when the slot's lock is held. -/
def opened (slot : Slot) (m : Machine) : Except SysError NodeId :=
  (slot.lockMade m).existing slot.artifact

/-- How asking for the artifact's lock ends, once the slot's is held. -/
def artifactGrant (slot : Slot) (policy : RetryPolicy) (m : Machine) : Except LockError Machine :=
  (slot.lockGrant policy m).bind fun m' => m'.lockAt policy .shared (slot.opened m)

end Slot

/-! ### Locks and files -/

section

variable {m m' : Machine} {slot : Slot} {policy : RetryPolicy} {handle : Handle}

theorem lockMade_gained (slot : Slot) (m : Machine) : m.Gained (slot.lockMade m) := by
  rw [Slot.lockMade]
  cases hopening : m.openingLock slot.lock with
  | error e => exact ⟨rfl, .inl rfl⟩
  | ok made =>
    have hmade : m.MadeLock slot.lock made.2 := .inr ⟨made.1, hopening⟩
    exact ⟨rfl, hmade.ensured.same_or_added⟩

/-- Bytes that are more than none were there before the lock file was made. -/
theorem contents_lockMade {path : String} {content : Bytes}
    (h : (slot.lockMade m).contents? path = some (.ok content)) :
    m.contents? path = some (.ok content) ∨ content = [] ∧ m.disk.reach true path = none := by
  rcases (lockMade_gained slot m).contents? path with hsame | ⟨hnone, hempty | ⟨e, herror⟩⟩
  · exact .inl (hsame ▸ h)
  · rw [hempty] at h
    cases h
    exact .inr ⟨rfl, hnone⟩
  · rw [herror] at h
    cases h

/-- A lock that is granted is granted at some attempt, on a file that is there. -/
theorem lockAt_ok {mode : LockMode} {found : Except SysError NodeId}
    (h : m.lockAt policy mode found = .ok m') : ∃ node n, found = .ok node ∧
      m.grantedAt? policy node mode = some n ∧ m' = m.atAttempt policy n := by
  cases found with
  | error e => cases h
  | ok node =>
    rw [Machine.lockAt] at h
    cases hgranted : m.grantedAt? policy node mode with
    | none =>
      rw [hgranted] at h
      cases h
    | some n =>
      rw [hgranted] at h
      cases h
      exact ⟨node, n, rfl, hgranted, rfl⟩

theorem lockGrant_ok (h : slot.lockGrant policy m = .ok m') : ∃ file disk n,
    m.openingLock slot.lock = .ok (file, disk) ∧
      m.grantedAt? policy file.node .shared = some n ∧ m' = m.atAttempt policy n := by
  obtain ⟨lockNode, n, hfound, hgranted, rfl⟩ := lockAt_ok h
  cases hopening : m.openingLock slot.lock with
  | error e =>
    rw [hopening] at hfound
    cases hfound
  | ok made =>
    rw [hopening] at hfound
    cases hfound
    exact ⟨made.1, made.2, n, rfl, hgranted, rfl⟩

theorem readArtifact_answer (slot : Slot) {file : OpenFile} (hfile : m.file? handle = some file)
    (hstart : file.offset = 0) (metadata : Metadata) :
    ((Store.readArtifact slot handle metadata).run m).1 =
      match m.disk.bytes file.node with
      | .error _ => .miss .artifactCorrupt
      | .ok bytes => Store.accept slot metadata bytes := by
  have hread : (m.perform (.readRest handle)).1 = m.disk.bytes file.node :=
    (Machine.readRest_start hfile hstart).1
  rw [Store.readArtifact, Routine.run_perform_bind, hread]
  cases m.disk.bytes file.node <;> rfl

end

/-! ### The answers -/

section

variable [Wire.Memory]

/-- What an info file tells, or the answer that a lookup has when it tells nothing. -/
def Metadata.told : Except SysError Bytes → Except LookupOutcome Metadata
  | .error .notFound => .error (.miss .metadataMissing)
  | .error e => .error (.miss (.metadataCorrupt (.unreadable e)))
  | .ok raw =>
    match decode raw with
    | .error flaw =>
      .error (if flaw.breaksOff then .brokenOff else .miss (.metadataCorrupt (.malformed flaw)))
    | .ok metadata => .ok metadata

/-- What the info file tells when the slot's lock is held, unless it is read without end. -/
def Slot.told? (slot : Slot) (m : Machine) : Option (Except LookupOutcome Metadata) :=
  ((slot.lockMade m).contents? slot.info).map Metadata.told

namespace Store

/-- The answer of a lookup for which a check is the first to fail, if it fails; there is none if
the check reads without end. -/
def failing (store : Store) (slot : Slot) (dependencies : DependencyTable) (signature : Bytes)
    (m : Machine) : LookupCheck → Option (Option LookupOutcome)
  | .bypass => if store.force then some (some (.miss .bypassed)) else none
  | .existence =>
    if m.disk.exists? slot.artifact then none else some (some (.miss .artifactMissing))
  | .slotLock =>
    match slot.lockGrant store.policy m with
    | .error e => some (some (.miss (.lockUnavailable e)))
    | .ok _ => none
  | .opening =>
    match slot.opened m with
    | .error _ => some (some (.miss .artifactMissing))
    | .ok _ => none
  | .artifactLock =>
    match slot.artifactGrant store.policy m with
    | .error e => some (some (.miss (.lockUnavailable e)))
    | .ok _ => none
  | .info =>
    match slot.told? m with
    | none => some none
    | some (.error answer) => some (some answer)
    | some (.ok _) => none
  | .dependencies =>
    match slot.told? m with
    | some (.ok metadata) =>
      if metadata.dependencies.entries.Perm dependencies.entries then none
      else some (some (.miss (.stale .dependencies)))
    | _ => none
  | .signature =>
    match slot.told? m with
    | some (.ok metadata) =>
      if metadata.signature = signature then none else some (some (.miss (.stale .signature)))
    | _ => none
  | .artifact =>
    match slot.told? m, (slot.lockMade m).contents? slot.artifact with
    | some (.ok _), none => some none
    | some (.ok _), some (.error _) => some (some (.miss .artifactCorrupt))
    | some (.ok metadata), some (.ok bytes) =>
      if Digest.ofBytes bytes = metadata.checksum then none
      else some (some (.miss .artifactCorrupt))
    | _, _ => none

/-- Whether everything is in place for a lookup to hit. -/
structure Accepts (store : Store) (slot : Slot) (dependencies : DependencyTable)
    (signature : Bytes) (m : Machine) (hit : CachedArtifact) : Prop where
  unforced : store.force = false
  present : m.disk.exists? slot.artifact = true
  /-- Both locks are to be had, the artifact's after the slot's. -/
  locks : ∃ file disk node n, m.openingLock slot.lock = .ok (file, disk) ∧
    m.existing slot.artifact = .ok node ∧
    m.grantedAt? store.policy file.node .shared = some n ∧
    ((m.atAttempt store.policy n).grantedAt? store.policy node .shared).isSome = true
  info : ∃ raw, m.contents? slot.info = some (.ok raw) ∧ Metadata.decode raw = .ok hit.metadata
  dependencies : hit.metadata.dependencies.entries.Perm dependencies.entries
  signature : hit.metadata.signature = signature
  artifact : m.contents? slot.artifact = some (.ok hit.bytes)
  checksum : Digest.ofBytes hit.bytes = hit.metadata.checksum
  path : hit.path = slot.artifact

end Store

variable {m m' : Machine} {slot : Slot} {dependencies : DependencyTable} {signature : Bytes}
  {store : Store} {policy : RetryPolicy} {handle : Handle}

/-! ### Reading the slot -/

/-- The answer of a lookup that has its locks, by what the info file tells and what is read from
the artifact. -/
def Store.answer (slot : Slot) (dependencies : DependencyTable) (signature : Bytes)
    (told : Except LookupOutcome Metadata) (found : Except SysError Bytes) : LookupOutcome :=
  match told, found with
  | .error answer, _ => answer
  | .ok metadata, found =>
    if ¬ metadata.dependencies.entries.Perm dependencies.entries then .miss (.stale .dependencies)
    else if metadata.signature ≠ signature then .miss (.stale .signature)
    else
      match found with
      | .error _ => .miss .artifactCorrupt
      | .ok bytes => accept slot metadata bytes

/-- The locks being held, the answer is by what the info file tells and the artifact holds. -/
theorem readSlot_answer {file : OpenFile} (hfile : m.file? handle = some file)
    (hstart : file.offset = 0) :
    ((Store.readSlot slot handle dependencies signature).run m).1 =
      Store.answer slot dependencies signature (Metadata.told (m.contents slot.info))
        (m.disk.bytes file.node) := by
  obtain ⟨hfound, hdisk, hfiles⟩ := inspect_found slot.info dependencies signature m
  have hopen := (hfiles handle (Machine.lt_of_file? hfile)).trans hfile
  have hartifact (metadata : Metadata) :=
    readArtifact_answer slot hopen hstart metadata
  rw [hdisk] at hartifact
  rw [Store.readSlot, Routine.run_bind, hfound]
  cases m.contents slot.info with
  | error e => cases e <;> rfl
  | ok raw =>
    simp only [Metadata.found, Metadata.told]
    cases Metadata.decode raw with
    | error flaw => cases hbreaks : flaw.breaksOff <;> simp [hbreaks, Store.answer]
    | ok metadata =>
      simp only [Metadata.judge_eq, Store.answer]
      by_cases hperm : metadata.dependencies.entries.Perm dependencies.entries
      · by_cases hsignature : metadata.signature = signature
        · simp only [hperm, hsignature, not_true_eq_false, ne_eq, if_false]
          exact hartifact metadata
        · simp only [hperm, hsignature, not_true_eq_false, not_false_eq_true, ne_eq, if_false, if_true]
          rfl
      · simp only [hperm, not_false_eq_true, if_true]
        rfl

/-! ### Locking -/

/-- The slot's lock being held, the answer is by the artifact's lock and then by what is read. -/
theorem lookupLocked_answer (hcloses : m.ClosesOpened) :
    ((Store.lookupLocked policy slot dependencies signature).run m).1 =
      match m.existing slot.artifact with
      | .error _ => .miss .artifactMissing
      | .ok node =>
        match m.lockAt policy .shared (.ok node) with
        | .error e => .miss (.lockUnavailable e)
        | .ok _ => Store.answer slot dependencies signature
            (Metadata.told (m.contents slot.info)) (m.disk.bytes node) := by
  have hopen := m.openFile_read slot.artifact
  rw [Store.lookupLocked, Routine.run_perform_bind]
  cases hexisting : m.existing slot.artifact with
  | error e =>
    rw [hexisting] at hopen
    rw [hopen]
    cases e <;> rfl
  | ok node =>
    rw [hexisting] at hopen
    rw [hopen]
    have hwaits := lockFile_waits hcloses (.refl (m.addFile { node }).2) slot.artifact .shared policy
    show ((FileLock.lockFile m.files.length slot.artifact .shared policy >>= _).run
      (m.addFile { node }).2).1 = _
    rw [Routine.run_bind]
    have hsetting := (Routine.yields_run (FileLock.lockFile m.files.length slot.artifact .shared
      policy) (m.addFile { node }).2).setting
    generalize (FileLock.lockFile m.files.length slot.artifact .shared policy).run
      (m.addFile { node }).2 = locked at *
    obtain ⟨result, after⟩ := locked
    have hrefuses : after.refuses = m.refuses := congrArg Prod.snd hsetting
    simp only [Machine.lockAt]
    cases hgranted : m.grantedAt? policy node .shared with
    | none =>
      obtain ⟨rfl, -⟩ := hwaits.refused hgranted
      rfl
    | some n =>
      obtain ⟨rfl, hspoken⟩ := hwaits.granted n hgranted
      have hdisk : after.disk = m.disk := hspoken.disk.trans (m.disk_atAttempt policy n)
      have hfile : after.file? m.files.length = some { node, lock := some .shared } := by
        obtain ⟨events, rfl⟩ := hspoken
        rw [← m.length_atAttempt policy n]
        show ((m.atAttempt policy n).addFile _).2.file? _ = _
        rw [Machine.file?_addFile, if_pos rfl]
      show ((FileLock.during _ _).run after).1 = _
      rw [during_run, readSlot_answer hfile rfl, Machine.contents_of_same hrefuses hdisk, hdisk]

/-- A lookup that is not bypassed and has an artifact to look for asks for its locks and reads. -/
theorem search_answer (hcloses : m.ClosesOpened) (hforce : store.force = false)
    (hexists : m.disk.exists? slot.artifact = true) :
    ((store.search slot dependencies signature).run m).1 =
      match slot.lockGrant store.policy m with
      | .error e => .miss (.lockUnavailable e)
      | .ok m' =>
        match slot.opened m with
        | .error _ => .miss .artifactMissing
        | .ok node =>
          match m'.lockAt store.policy .shared (.ok node) with
          | .error e => .miss (.lockUnavailable e)
          | .ok _ => Store.answer slot dependencies signature
              (Metadata.told ((slot.lockMade m).contents slot.info))
              ((slot.lockMade m).disk.bytes node) := by
  have hreply : (m.perform (.fileExists slot.artifact)) = (true, m) := Prod.ext hexists rfl
  rw [Store.search, if_neg (by simp [hforce]), Routine.run_perform_bind, hreply]
  show ((FileLock.acquire slot.lock .shared store.policy >>= _).run m).1 = _
  rw [Routine.run_bind, Slot.lockGrant, Slot.opened, Slot.lockMade]
  cases hopening : m.openingLock slot.lock with
  | error e =>
    rw [acquire_error hopening]
    rfl
  | ok made =>
    obtain ⟨file, disk⟩ := made
    obtain ⟨hunlocked, -⟩ := openingLock_eq_ok hopening
    have hwaits : Waits { m with disk } file slot.lock .shared store.policy
        (List.range store.policy.attempts)
        ((FileLock.acquire slot.lock .shared store.policy).run m) := acquire_waits hcloses hopening
    have hsetting :=
      (Routine.yields_run (FileLock.acquire slot.lock .shared store.policy) m).setting
    generalize (FileLock.acquire slot.lock .shared store.policy).run m = acquired at *
    obtain ⟨result, after⟩ := acquired
    have hrefuses : after.refuses = m.refuses := congrArg Prod.snd hsetting
    have hsame : ({ m with disk } : Machine).grantedAt? store.policy file.node .shared =
        m.grantedAt? store.policy file.node .shared := by
      simp only [Machine.grantedAt?, Machine.atAttempt_disk]
      rfl
    simp only [Except.map, Machine.lockAt]
    cases hgranted : m.grantedAt? store.policy file.node .shared with
    | none =>
      obtain ⟨rfl, -⟩ := hwaits.refused (hsame.trans hgranted)
      rfl
    | some n =>
      obtain ⟨rfl, hspoken⟩ := hwaits.granted n (hsame.trans hgranted)
      rw [Machine.atAttempt_disk] at hspoken
      have hdisk : after.disk = disk := hspoken.disk
      have hbeside (node : NodeId) : after.grantedAt? store.policy node .shared =
          (m.atAttempt store.policy n).grantedAt? store.policy node .shared :=
        Machine.grantedAt?_beside (hcloses.atAttempt store.policy n) rfl hspoken
      have hcloses' : after.ClosesOpened := by
        obtain ⟨events, rfl⟩ := hspoken
        intro release hrelease
        exact Nat.lt_of_lt_of_le (hcloses.atAttempt store.policy n release hrelease)
          (by simp [Machine.addFile])
      show ((FileLock.during _ _).run after).1 = _
      rw [during_run, lookupLocked_answer hcloses',
        Machine.existing_of_same (m := { m with disk }) hrefuses hdisk,
        Machine.contents_of_same (m := { m with disk }) hrefuses hdisk, hdisk]
      cases ({ m with disk } : Machine).existing slot.artifact with
      | error e => rfl
      | ok node =>
        simp only [Machine.lockAt, hbeside]
        cases (m.atAttempt store.policy n).grantedAt? store.policy node .shared <;> rfl

/-! ### Whole lookups -/

theorem lookup_search (store : Store) (m : Machine) :
    ((store.lookup slot dependencies signature).run m).1 =
      ((store.search slot dependencies signature).run m).1 := by
  rw [Store.lookup, Routine.run_bind, Routine.run_bind]
  rfl

theorem search_forced (hforce : store.force = true) :
    ((store.search slot dependencies signature).run m).1 = .miss .bypassed := by
  rw [Store.search, if_pos hforce]
  rfl

/-- A lookup that finds no artifact misses it. -/
theorem search_absent (hforce : store.force = false)
    (hexists : m.disk.exists? slot.artifact = false) :
    ((store.search slot dependencies signature).run m).1 = .miss .artifactMissing := by
  have hreply : (m.perform (.fileExists slot.artifact)) = (false, m) := Prod.ext hexists rfl
  rw [Store.search, if_neg (by simp [hforce]), Routine.run_perform_bind, hreply]
  rfl

/-- Whether an outcome is the answer of the check that failed, or the one to be had where no check
fails. For a check that reads without end there is no room left at last, and that is a miss. -/
def LookupOutcome.Follows (outcome : LookupOutcome) (failed : Option (Option LookupOutcome))
    (otherwise : LookupOutcome) : Prop :=
  match failed with
  | some (some answer) => outcome = answer
  | some none => ∃ reason, outcome = .miss reason
  | none => outcome = otherwise

/-- A lookup has the answer of the first check that fails, or hits with what it read. -/
theorem lookup_first (hcloses : m.ClosesOpened) :
    ((store.lookup slot dependencies signature).run m).1.Follows
      (LookupCheck.all.findSome? (store.failing slot dependencies signature m))
      (Store.answer slot dependencies signature
        (Metadata.told ((slot.lockMade m).contents slot.info))
        ((slot.lockMade m).contents slot.artifact)) := by
  rw [lookup_search]
  unfold Store.failing
  cases hforce : store.force with
  | true =>
    rw [search_forced hforce]
    simp [LookupCheck.all, LookupOutcome.Follows]
  | false =>
    cases hexists : m.disk.exists? slot.artifact with
    | false =>
      rw [search_absent hforce hexists]
      simp [LookupCheck.all, LookupOutcome.Follows]
    | true =>
      have hcontents : (slot.lockMade m).contents slot.artifact =
          (slot.opened m).bind (slot.lockMade m).disk.bytes := (slot.lockMade m).contents_eq _
      rw [search_answer hcloses hforce hexists, hcontents, Slot.told?]
      simp only [LookupCheck.all, List.findSome?_cons, Bool.false_eq_true, if_false, if_true,
        Slot.artifactGrant]
      cases slot.lockGrant store.policy m with
      | error e => rfl
      | ok m' =>
        cases hopened : slot.opened m with
        | error e => rfl
        | ok node =>
          have hexisting : (slot.lockMade m).existing slot.artifact = .ok node := hopened
          have hfound : (slot.lockMade m).contents? slot.artifact =
              (slot.lockMade m).disk.bytes? node := by
            rw [Machine.contents?, hexisting]
          simp only [Except.bind, hfound, Disk.bytes]
          cases m'.lockAt store.policy .shared (.ok node) with
          | error e => rfl
          | ok _ =>
            rw [Machine.contents]
            generalize (slot.lockMade m).disk.bytes? node = found
            cases (slot.lockMade m).contents? slot.info with
            | none => exact ⟨_, rfl⟩
            | some read =>
              simp only [Option.map_some, Option.getD_some]
              cases Metadata.told read with
              | error answer => rfl
              | ok metadata =>
                by_cases hperm : metadata.dependencies.entries.Perm dependencies.entries
                · by_cases hsignature : metadata.signature = signature
                  · rcases found with _ | _ | bytes
                    · simp [Store.answer, LookupOutcome.Follows, hperm, hsignature]
                    · simp [Store.answer, LookupOutcome.Follows, hperm, hsignature]
                    · by_cases hdigest : Digest.ofBytes bytes = metadata.checksum <;>
                        simp [Store.answer, Store.accept, Metadata.matchesArtifact,
                          LookupOutcome.Follows, hperm, hsignature, hdigest]
                  · simp [Store.answer, LookupOutcome.Follows, hperm, hsignature]
                · simp [Store.answer, LookupOutcome.Follows, hperm]

/-- What tells nothing makes a miss, or breaks its reader off. -/
theorem told_error {found : Except SysError Bytes} {answer : LookupOutcome}
    (h : Metadata.told found = .error answer) : (∃ reason, answer = .miss reason) ∨
      answer = .brokenOff ∧ ∃ raw, found = .ok raw ∧ Metadata.BreaksOff raw := by
  cases found with
  | error e =>
    cases e <;> cases h <;> exact .inl ⟨_, rfl⟩
  | ok raw =>
    rw [Metadata.told] at h
    cases hdecode : Metadata.decode raw with
    | ok metadata =>
      rw [hdecode] at h
      cases h
    | error flaw =>
      rw [hdecode] at h
      obtain rfl := Except.error.inj h
      cases hbreaks : flaw.breaksOff with
      | true => exact .inr ⟨rfl, raw, rfl, flaw, hdecode, hbreaks⟩
      | false => exact .inl ⟨_, rfl⟩

theorem told_ok {found : Except SysError Bytes} {metadata : Metadata}
    (h : Metadata.told found = .ok metadata) :
    ∃ raw, found = .ok raw ∧ Metadata.decode raw = .ok metadata := by
  cases found with
  | error e => cases e <;> cases h
  | ok raw =>
    rw [Metadata.told] at h
    cases hdecode : Metadata.decode raw with
    | ok metadata' =>
      rw [hdecode] at h
      cases h
      exact ⟨raw, rfl, hdecode⟩
    | error flaw =>
      rw [hdecode] at h
      cases h

/-- What an info file tells was there before the lock file was made. -/
theorem told?_ok {metadata : Metadata} (h : slot.told? m = some (.ok metadata)) :
    ∃ raw, m.contents? slot.info = some (.ok raw) ∧ Metadata.decode raw = .ok metadata := by
  obtain ⟨found, hfound, htold⟩ := Option.map_eq_some_iff.mp h
  obtain ⟨raw, rfl, hdecode⟩ := told_ok htold
  rcases contents_lockMade hfound with hold | ⟨rfl, -⟩
  · exact ⟨raw, hold, hdecode⟩
  · cases hdecode

theorem told?_error {answer : LookupOutcome} (h : slot.told? m = some (.error answer)) :
    (∃ reason, answer = .miss reason) ∨ answer = .brokenOff ∧
      ∃ raw, m.contents? slot.info = some (.ok raw) ∧ Metadata.BreaksOff raw := by
  obtain ⟨found, hfound, htold⟩ := Option.map_eq_some_iff.mp h
  refine (told_error htold).imp_right fun ⟨hbroken, raw, hraw, hbreaks⟩ =>
    ⟨hbroken, raw, ?_, hbreaks⟩
  subst hraw
  rcases contents_lockMade hfound with hold | ⟨rfl, -⟩
  · exact hold
  · exact absurd hbreaks Metadata.not_breaksOff_nil

/-- A check that fails with an answer makes a miss, unless it breaks the lookup off. -/
theorem failing_answer {check : LookupCheck} {answer : LookupOutcome}
    (h : store.failing slot dependencies signature m check = some (some answer)) :
    (∃ reason, answer = .miss reason) ∨ answer = .brokenOff ∧
      ∃ raw, m.contents? slot.info = some (.ok raw) ∧ Metadata.BreaksOff raw := by
  unfold Store.failing at h
  cases check with
  | info =>
    dsimp only at h
    split at h
    · cases h
    · rename_i htold
      cases h
      exact told?_error htold
    · cases h
  | bypass | existence =>
    dsimp only at h
    split at h <;> cases h
    exact .inl ⟨_, rfl⟩
  | slotLock | opening | artifactLock =>
    dsimp only at h
    split at h <;> cases h
    exact .inl ⟨_, rfl⟩
  | dependencies | signature =>
    dsimp only at h
    split at h
    · split at h <;> cases h
      exact .inl ⟨_, rfl⟩
    · cases h
  | artifact =>
    dsimp only at h
    split at h
    · cases h
    · cases h
      exact .inl ⟨_, rfl⟩
    · split at h <;> cases h
      exact .inl ⟨_, rfl⟩
    · cases h

/-- A check that fails without one reads a file that has no end. -/
theorem failing_endless {check : LookupCheck}
    (h : store.failing slot dependencies signature m check = some none) :
    m.contents? slot.info = none ∨ m.contents? slot.artifact = none := by
  have hends {path : String} (hnone : (slot.lockMade m).contents? path = none) :
      m.contents? path = none := by
    by_contra hends
    exact (lockMade_gained slot m).contents?_ends hends hnone
  unfold Store.failing at h
  cases check with
  | info =>
    dsimp only at h
    split at h
    · rename_i htold
      exact .inl (hends (Option.map_eq_none_iff.mp htold))
    · cases h
    · cases h
  | artifact =>
    dsimp only at h
    split at h
    · rename_i hnone
      exact .inr (hends hnone)
    · cases h
    · split at h <;> cases h
    · cases h
  | bypass | existence | slotLock | opening | artifactLock =>
    dsimp only at h
    split at h <;> cases h
  | dependencies | signature =>
    dsimp only at h
    split at h
    · split at h <;> cases h
    · cases h

/-- Where no check fails, everything is in place for a hit. -/
theorem accepts_of_passing
    (h : LookupCheck.all.findSome? (store.failing slot dependencies signature m) = none) :
    ∃ hit, store.Accepts slot dependencies signature m hit := by
  have hpass (check : LookupCheck) : store.failing slot dependencies signature m check = none :=
    List.findSome?_eq_none_iff.mp h check (by cases check <;> decide)
  unfold Store.failing at hpass
  have hforce : store.force = false := by
    simpa using hpass .bypass
  have hexists : m.disk.exists? slot.artifact = true := by
    simpa using hpass .existence
  obtain ⟨node, hopened⟩ : ∃ node, slot.opened m = .ok node := by
    cases hopened : slot.opened m with
    | error e => simpa [hopened] using hpass .opening
    | ok node => exact ⟨node, rfl⟩
  have hexisting : m.existing slot.artifact = .ok node := by
    rw [← (lockMade_gained slot m).existing hexists, ← Slot.opened, hopened]
  obtain ⟨m', hlock⟩ : ∃ m', slot.lockGrant store.policy m = .ok m' := by
    cases hlock : slot.lockGrant store.policy m with
    | error e => simpa [hlock] using hpass .slotLock
    | ok m' => exact ⟨m', rfl⟩
  obtain ⟨file, disk, n, hopening, hgranted, rfl⟩ := lockGrant_ok hlock
  obtain ⟨m'', hboth⟩ : ∃ m'', slot.artifactGrant store.policy m = .ok m'' := by
    cases hboth : slot.artifactGrant store.policy m with
    | error e => simpa [hboth] using hpass .artifactLock
    | ok m'' => exact ⟨m'', rfl⟩
  have hsecond : (m.atAttempt store.policy n).lockAt store.policy .shared (.ok node) = .ok m'' := by
    simpa only [Slot.artifactGrant, hlock, Except.bind, hopened] using hboth
  obtain ⟨_, n', ⟨rfl⟩, hgranted', -⟩ := lockAt_ok hsecond
  obtain ⟨metadata, htold⟩ : ∃ metadata, slot.told? m = some (.ok metadata) := by
    rcases htold : slot.told? m with _ | answer | metadata
    · simpa [htold] using hpass .info
    · simpa [htold] using hpass .info
    · exact ⟨metadata, rfl⟩
  obtain ⟨bytes, hbytes⟩ :
      ∃ bytes, (slot.lockMade m).contents? slot.artifact = some (.ok bytes) := by
    rcases hbytes : (slot.lockMade m).contents? slot.artifact with _ | e | bytes
    · simpa [htold, hbytes] using hpass .artifact
    · simpa [htold, hbytes] using hpass .artifact
    · exact ⟨bytes, rfl⟩
  -- What was read with the lock file in place was there before it.
  have hbytes' : m.contents? slot.artifact = some (.ok bytes) := by
    rcases contents_lockMade hbytes with hold | ⟨-, hnone⟩
    · exact hold
    · rw [Machine.existing_eq_ok, Disk.existing_eq_ok, hnone] at hexisting
      cases hexisting.2
  exact ⟨⟨slot.artifact, bytes, metadata⟩, {
    unforced := hforce
    present := hexists
    locks := ⟨file, disk, node, n, hopening, hexisting, hgranted, by rw [hgranted']; rfl⟩
    info := told?_ok htold
    dependencies := by simpa [htold] using hpass .dependencies
    signature := by simpa [htold] using hpass .signature
    artifact := hbytes'
    checksum := by simpa [htold, hbytes] using hpass .artifact
    path := rfl }⟩

/-- Where everything is in place for a hit, no check fails and the hit is the answer. -/
theorem passing_of_accepts {hit : CachedArtifact}
    (h : store.Accepts slot dependencies signature m hit) :
    LookupCheck.all.findSome? (store.failing slot dependencies signature m) = none ∧
      Store.answer slot dependencies signature
        (Metadata.told ((slot.lockMade m).contents slot.info))
        ((slot.lockMade m).contents slot.artifact) = .hit hit := by
  have hgained := lockMade_gained slot m
  obtain ⟨file, disk, node, n, hopening, hexisting, hgranted, hboth⟩ := h.locks
  obtain ⟨n', hn'⟩ := Option.isSome_iff_exists.mp hboth
  obtain ⟨raw, hraw, hdecode⟩ := h.info
  have hopened : slot.opened m = .ok node := by
    rw [Slot.opened, hgained.existing h.present, hexisting]
  have hinfo := hgained.contents?_of_ok hraw
  have hbytes := hgained.contents?_of_ok h.artifact
  have htold : Metadata.told (.ok raw) = .ok hit.metadata := by
    rw [Metadata.told, hdecode]
  have htold? : slot.told? m = some (.ok hit.metadata) := by
    rw [Slot.told?, hinfo, Option.map_some, htold]
  have hlock : slot.lockGrant store.policy m = .ok (m.atAttempt store.policy n) := by
    simp only [Slot.lockGrant, hopening, Except.map, Machine.lockAt, hgranted]
  have hartifact : slot.artifactGrant store.policy m =
      .ok ((m.atAttempt store.policy n).atAttempt store.policy n') := by
    simp only [Slot.artifactGrant, hlock, Except.bind, hopened, Machine.lockAt, hn']
  constructor
  · rw [List.findSome?_eq_none_iff]
    intro check _
    unfold Store.failing
    cases check <;> simp only [h.unforced, h.present, hlock, hopened, hartifact, htold?, hbytes,
      h.dependencies, h.signature, h.checksum, if_true, if_false, Bool.false_eq_true]
  · rw [Machine.contents_eq_ok.mpr hinfo, Machine.contents_eq_ok.mpr hbytes, htold]
    simp only [Store.answer, h.dependencies, h.signature, not_true_eq_false, ne_eq,
      if_false, Store.accept, Metadata.matchesArtifact, h.checksum, beq_self_eq_true, if_true]
    rw [← h.path]

/-- Where everything is in place for a hit, no check fails and it is the answer. -/
theorem lookup_of_accepts (hcloses : m.ClosesOpened) {hit : CachedArtifact}
    (h : store.Accepts slot dependencies signature m hit) :
    LookupCheck.all.findSome? (store.failing slot dependencies signature m) = none ∧
      ((store.lookup slot dependencies signature).run m).1 = .hit hit := by
  obtain ⟨hnone, hanswer⟩ := passing_of_accepts h
  have hfirst : ((store.lookup slot dependencies signature).run m).1.Follows none _ :=
    hnone ▸ lookup_first hcloses
  exact ⟨hnone, Eq.trans hfirst hanswer⟩

/-- A lookup for which a check fails does not hit; it has the check's answer, if that has one. -/
theorem lookup_of_failing (hcloses : m.ClosesOpened) {verdict : Option LookupOutcome}
    (h : LookupCheck.all.findSome? (store.failing slot dependencies signature m) = some verdict) :
    let outcome := ((store.lookup slot dependencies signature).run m).1
    ((∃ reason, outcome = .miss reason) ∨ outcome = .brokenOff ∧
        ∃ raw, m.contents? slot.info = some (.ok raw) ∧ Metadata.BreaksOff raw) ∧
      (verdict = none ∨ verdict = some outcome) := by
  intro outcome
  have hfirst : outcome.Follows (some verdict) _ := h ▸ lookup_first hcloses
  obtain ⟨check, -, hcheck⟩ := List.exists_of_findSome?_eq_some h
  cases verdict with
  | none => exact ⟨.inl hfirst, .inl rfl⟩
  | some answer =>
    have hanswer : outcome = answer := hfirst
    rw [hanswer]
    exact ⟨failing_answer hcheck, .inr rfl⟩

/-- A lookup hits on exactly what is in place. -/
theorem lookup_hits_iff (hcloses : m.ClosesOpened) {hit : CachedArtifact} :
    ((store.lookup slot dependencies signature).run m).1 = .hit hit ↔
      store.Accepts slot dependencies signature m hit := by
  refine ⟨fun hhit => ?_, fun h => (lookup_of_accepts hcloses h).2⟩
  cases hfailed : LookupCheck.all.findSome? (store.failing slot dependencies signature m) with
  | none =>
    obtain ⟨hit', haccepts⟩ := accepts_of_passing hfailed
    cases hhit.symm.trans (lookup_of_accepts hcloses haccepts).2
    exact haccepts
  | some verdict =>
    rcases (lookup_of_failing hcloses hfailed).1 with ⟨reason, hmiss⟩ | ⟨hbroken, -⟩
    · cases hhit.symm.trans hmiss
    · cases hhit.symm.trans hbroken

/-- What a lookup comes to on any machine on which what others are to close was opened: it hits on
exactly what is in place, and else it has the answer of the first check that fails, unless that
check reads an info file or an artifact that has no end. It is broken off only by an info file that
breaks its reader off. -/
theorem lookup_exact (hcloses : m.ClosesOpened) (store : Store) (slot : Slot)
    (dependencies : DependencyTable) (signature : Bytes) :
    let outcome := ((store.lookup slot dependencies signature).run m).1
    let failed := LookupCheck.all.findSome? (store.failing slot dependencies signature m)
    (∀ hit, outcome = .hit hit ↔ store.Accepts slot dependencies signature m hit) ∧
      ((∀ hit, outcome ≠ .hit hit) → failed = some (some outcome) ∨ failed = some none) ∧
      (failed = some none → m.contents? slot.info = none ∨ m.contents? slot.artifact = none) ∧
      (outcome = .brokenOff →
        ∃ raw, m.contents? slot.info = some (.ok raw) ∧ Metadata.BreaksOff raw) := by
  intro outcome failed
  refine ⟨fun hit => lookup_hits_iff hcloses, fun hmissed => ?missed, fun hendless => ?endless,
    fun hbroken => ?broken⟩
  case missed =>
    cases hfailed : failed with
    | none =>
      obtain ⟨hit, haccepts⟩ := accepts_of_passing hfailed
      exact absurd (lookup_of_accepts hcloses haccepts).2 (hmissed hit)
    | some verdict =>
      rcases (lookup_of_failing hcloses hfailed).2 with rfl | rfl
      · exact .inr rfl
      · exact .inl rfl
  case endless =>
    obtain ⟨check, -, hcheck⟩ := List.exists_of_findSome?_eq_some hendless
    exact failing_endless hcheck
  case broken =>
    cases hfailed : failed with
    | none =>
      obtain ⟨hit, haccepts⟩ := accepts_of_passing hfailed
      cases hbroken.symm.trans (lookup_of_accepts hcloses haccepts).2
    | some verdict =>
      rcases (lookup_of_failing hcloses hfailed).1 with ⟨reason, hmiss⟩ | ⟨-, hraw⟩
      · cases hbroken.symm.trans hmiss
      · exact hraw

end

/-! ### Two slots -/

/-- A cache folder with an artifact and an info file in it. -/
def Machine.withSlot (artifact info : Bytes) : Machine :=
  { Machine.blank with disk := {
      nodes := [.folder [("c", 1)], .folder [("a.o", 2), ("a.o.info", 3)], .file artifact, .file info],
      here := [Disk.root] } }

section

attribute [local instance] Wire.Memory.addressSpace

/-- A lookup that finds the artifact locked waits until the other has closed it, and hits. -/
theorem hit_after_release :
    let slot : Slot := ⟨"c", "a", by decide⟩
    let metadata := Metadata.ofArtifact ⟨[]⟩ [7] [1, 2]
    let m := { Machine.withSlot [1, 2] metadata.encode with
      files := [some { node := 2, lock := some .exclusive }], releases := [(1000000, 0)] }
    let reader : Store := {}
    m.ClosesOpened ∧ ((reader.lookup slot ⟨[]⟩ [7]).run m).1 = .hit ⟨"c/a.o", [1, 2], metadata⟩ ∧
      reader.Accepts slot ⟨[]⟩ [7] m ⟨"c/a.o", [1, 2], metadata⟩ := by
  intro slot metadata m reader
  have hcloses : m.ClosesOpened := by
    intro release hrelease
    obtain rfl := List.mem_singleton.mp hrelease
    decide
  have hhit : ((reader.lookup slot ⟨[]⟩ [7]).run m).1 = .hit ⟨"c/a.o", [1, 2], metadata⟩ := by
    decide +kernel
  exact ⟨hcloses, hhit, ((lookup_exact hcloses reader slot ⟨[]⟩ [7]).1 _).mp hhit⟩

/-- An info file that announces a text beyond all memory is none of the misses. -/
theorem lookup_of_boundless_info :
    let slot : Slot := ⟨"c", "a", by decide⟩
    let m := Machine.withSlot [] [0x15, 0x00, 0x00, 0x00, 0x52, 0x53, 0x43, 0x49, 0x01, 0x29, 0xfa,
      0x54, 0xaa, 0x89, 0x03, 0x15, 0x85, 0xb3, 0x88, 0x08, 0x00, 0xe1, 0x34, 0xb4, 0x17, 0x01,
      0xfd, 0x00, 0x00, 0x00, 0x00, 0x00, 0x00, 0x00, 0x80, 0x61, 0x62]
    let reader : Store := {}
    m.disk.exists? slot.artifact = true ∧ m.files = [] ∧
      ((reader.lookup slot ⟨[]⟩ []).run m).1 = .brokenOff := by
  decide +kernel

end

end ScriptCache
