import Mathlib
import ScriptCache.Proofs.Store.Harmless

/-! Locks taken, held and dropped by a party.

A fact about some open files (`Lasting`) outlasts what others do and every harmless action of
the party's own on other files. The triples for asking for a lock (`triple_lockFile`), for
opening and locking a lock file (`triple_acquire`) and for dropping a lock (`triple_drop`) pass
such facts on. `Gripping` is what a slot's lock is good for: while it is held, the ledger's
entry for the slot stays what it is. -/
namespace ScriptCache

/-! ### Facts that last -/

variable [Wire.Memory]

/-- Whether a trace goes on from another with nothing done to the slot and, unless it `parts`,
no lock given up. -/
structure Continues (i : Option Insertion) (parts : Bool) (t t' : Trace) : Prop where
  mem : ∀ moment ∈ t, moment ∈ t'
  stage : ∀ insertion ∈ i, insertion.stage (Trace.deeds t') = insertion.stage (Trace.deeds t)
  unlocked : parts = false →
    (Trace.deeds t').any Deed.unlocks = (Trace.deeds t).any Deed.unlocks

namespace Continues

variable {i : Option Insertion} {parts : Bool} {t t' : Trace}

theorem refl (i : Option Insertion) (parts : Bool) (t : Trace) : Continues i parts t t :=
  ⟨fun _ h => h, fun _ _ => rfl, fun _ => rfl⟩

theorem opened (h : Continues i parts t t') {handle : Handle} (hopened : handle ∈ Trace.opened t) :
    handle ∈ Trace.opened t' := by
  simp only [Trace.opened, List.mem_filterMap] at hopened ⊢
  obtain ⟨moment, hmem, hmoment⟩ := hopened
  exact ⟨moment, h.mem moment hmem, hmoment⟩

theorem of_harmless {path : String} {action : Action} (haction : action.Harmless path)
    (hquiet : parts = false → ∀ handle, action ≠ .unlock handle) (i : Option Insertion) (t : Trace)
    (s : Tracked) : Continues i parts t (s.moment action :: t) := by
  refine ⟨fun moment hmem => List.mem_cons_of_mem _ hmem,
    fun insertion _ => haction.stage insertion _ _, fun hparts => ?_⟩
  have hdeed : (s.moment action).deed.unlocks = false := by
    cases action with
    | unlock handle => exact absurd rfl (hquiet hparts handle)
    | _ => rfl
  rw [Trace.deeds_cons, List.any_cons, hdeed, Bool.false_or]

end Continues

/-- Whether a fact depends on some open files of the party's own only. If it `parts`, it outlasts
locks being given up. -/
structure Lasting (path : String) (i : Option Insertion) (parts : Bool) (own : List Handle)
    (P : Trace → Tracked → Prop) : Prop where
  opened : ∀ {t s}, P t s → ∀ handle ∈ own, handle ∈ Trace.opened t
  lasts : ∀ {t t' s s'}, P t s → Continues i parts t t' → Rely path own s s' → Sound path s' →
    P t' s'

section

variable {path : String} {i : Option Insertion} {parts : Bool} {own own' : List Handle}
  {P P' : Trace → Tracked → Prop} {action : Action}

omit [Wire.Memory] in
theorem Rely.sub {s s' : Tracked} (h : Rely path own s s') (hsub : ∀ handle ∈ own', handle ∈ own) :
    Rely path own' s s' := by
  have hholds {name : String} {mode : LockMode} (hheld : Holds path own' name mode s.machine) :
      Holds path own name mode s.machine := by
    obtain ⟨handle, hown, hgrips⟩ := hheld
    exact ⟨handle, hsub handle hown, hgrips⟩
  exact {
    files := fun handle hown => h.files handle (hsub handle hown)
    leads := h.leads
    entries := h.entries
    length := h.length
    releases := h.releases
    info := fun hleads hheld hentry => h.info hleads (hholds hheld) hentry
    ledger := fun hheld => h.ledger (hholds hheld) }

theorem lasting_pure (p : Prop) : Lasting path i parts [] fun _ _ => p :=
  ⟨fun _ => nofun, fun h _ _ _ => h⟩

theorem lasting_never : Lasting path i parts own fun _ _ => False :=
  ⟨False.elim, False.elim⟩

theorem Lasting.stable (h : Lasting path i parts own P) : Stable path P :=
  fun {t _ _} hP hrely hs => h.lasts hP (.refl i parts t) (hrely.sub (h.opened hP)) hs

theorem Lasting.quiet (h : Lasting path i true own P) : Lasting path i parts own P where
  opened := h.opened
  lasts hP ht hrely hs := h.lasts hP ⟨ht.mem, ht.stage, nofun⟩ hrely hs

theorem Lasting.and (h : Lasting path i parts own P) (h' : Lasting path i parts own' P') :
    Lasting path i parts (own ++ own') fun t s => P t s ∧ P' t s where
  opened hP handle hown := by
    rcases List.mem_append.mp hown with hown | hown
    · exact h.opened hP.1 handle hown
    · exact h'.opened hP.2 handle hown
  lasts hP ht hrely hs :=
    ⟨h.lasts hP.1 ht (hrely.sub fun _ hown => List.mem_append_left own' hown) hs,
      h'.lasts hP.2 ht (hrely.sub fun _ hown => List.mem_append_right own hown) hs⟩

theorem Lasting.mine (h : Lasting path i parts own P) (handle : Handle) :
    Lasting path i parts own fun t s => P t s ∧ handle ∈ Trace.opened t :=
  ⟨fun hP => h.opened hP.1, fun hP ht hrely hs => ⟨h.lasts hP.1 ht hrely hs, ht.opened hP.2⟩⟩

/-- A harmless action on other files leaves what lasts. -/
theorem Lasting.harmless (h : Lasting path i parts own P) (haction : action.Harmless path)
    (hquiet : parts = false → ∀ handle, action ≠ .unlock handle)
    (hapart : ∀ handle ∈ own, handle ∉ action.handles) {t : Trace} {s : Tracked}
    (hs : Sound path s) (howned : Owned (Trace.opened t) s.machine) (hP : P t s) :
    P (s.moment action :: t) ⟨(s.machine.perform action).2, s.ledger⟩ :=
  h.lasts hP (.of_harmless haction hquiet i t s)
    (rely_harmless hs (fun handle hown => howned handle (h.opened hP handle hown)) haction hapart)
    (hs.harmless haction)

end

/-! ### Triples for single actions -/

namespace Triple

variable {path : String} {i : Option Insertion} {parting : Trace → Tracked → Prop}
  {parts : Bool} {own : List Handle} {P : Trace → Tracked → Prop} {α : Type}

/-- A harmless action, with what its reply tells besides what lasts. -/
theorem telling {action : Action} {R : action.Reply → Trace → Tracked → Prop}
    (hP : Lasting path i parts own P) (haction : action.Harmless path)
    (hquiet : ∀ handle, action ≠ .unlock handle) (hapart : ∀ handle ∈ own, handle ∉ action.handles)
    (hown : ∀ {t s}, P t s → ∀ handle ∈ action.handles, handle ∈ Trace.opened t)
    (hR : ∀ {t s}, Sound path s → Owned (Trace.opened t) s.machine → P t s →
      R (s.machine.perform action).1 (s.moment action :: t)
        ⟨(s.machine.perform action).2, s.ledger⟩) :
    Triple path i parting P (Routine.perform action) fun reply t s => P t s ∧ R reply t s :=
  .harmless hP.stable haction hown (fun _ _ handle h => absurd h (hquiet handle))
    fun hs howned hPs => ⟨hP.harmless haction (fun _ => hquiet) hapart hs howned hPs, hR hs howned hPs⟩

theorem keeping {action : Action} (hP : Lasting path i parts own P) (haction : action.Harmless path)
    (hquiet : ∀ handle, action ≠ .unlock handle) (hapart : ∀ handle ∈ own, handle ∉ action.handles)
    (hown : ∀ {t s}, P t s → ∀ handle ∈ action.handles, handle ∈ Trace.opened t) :
    Triple path i parting P (Routine.perform action) fun _ => P :=
  .harmless hP.stable haction hown (fun _ _ handle h => absurd h (hquiet handle))
    fun hs howned hPs => hP.harmless haction (fun _ => hquiet) hapart hs howned hPs

theorem say (hP : Lasting path i parts own P) (event : Event) :
    Triple path i parting P (Routine.say event) fun _ => P :=
  .keeping hP trivial nofun nofun nofun

theorem closeFile (hP : Lasting path i parts own P) {handle : Handle} (hapart : handle ∉ own)
    (hown : ∀ {t s}, P t s → handle ∈ Trace.opened t) :
    Triple path i parting P (Routine.perform (.closeFile handle)) fun _ => P := by
  refine .keeping hP trivial nofun (fun other hother hmem => ?_) fun hPs other hmem => ?_
  · obtain rfl := List.mem_singleton.mp hmem
    exact hapart hother
  · obtain rfl := List.mem_singleton.mp hmem
    exact hown hPs

theorem exists_left {γ : Type} {P : γ → Trace → Tracked → Prop} {routine : Routine α}
    {Q : α → Trace → Tracked → Prop} (h : ∀ x, Triple path i parting (P x) routine Q) :
    Triple path i parting (fun t s => ∃ x, P x t s) routine Q :=
  fun t s hs howned ⟨x, hP⟩ => h x t s hs howned hP

/-- Work on an open file, which is closed in the end. -/
theorem closing {work : Routine α} {Q : α → Trace → Tracked → Prop} {handle : Handle}
    (hwork : Triple path i parting P work Q) (hQ : ∀ a, Lasting path i parts own (Q a))
    (hapart : handle ∉ own) (hown : ∀ t s, P t s → handle ∈ Trace.opened t) :
    Triple path i parting P (Files.closing handle work) Q := by
  have hkept := hwork.remember (fun {moment t} h => Trace.mem_opened_cons h moment) hown
  refine .bind hkept fun a => .bind (.closeFile ((hQ a).mine handle) hapart fun h => h.2) fun _ => ?_
  exact .done fun _ _ _ h => h.1

theorem pure_left {p : Prop} {routine : Routine α} {Q : α → Trace → Tracked → Prop}
    (h : p → Triple path i parting P routine Q) :
    Triple path i parting (fun t s => p ∧ P t s) routine Q :=
  fun t s hs howned hP => h hP.1 t s hs howned hP.2

end Triple

/-! ### Asking for a lock -/

section

variable {path : String} {i : Option Insertion} {parting : Trace → Tracked → Prop}
  {parts : Bool} {own own' : List Handle} {P : Trace → Tracked → Prop}

/-- What a lock that is granted has to give, from where it is asked for. -/
def Granting (path : String) (handle : Handle) (mode : LockMode)
    (P G : Trace → Tracked → Prop) : Prop :=
  ∀ {t s}, Sound path s → Owned (Trace.opened t) s.machine → P t s →
    (s.machine.perform (.tryLock handle mode)).1 = .granted →
    G (s.moment (.tryLock handle mode) :: t)
      ⟨(s.machine.perform (.tryLock handle mode)).2, s.ledger⟩

omit [Wire.Memory] in
theorem tryLock_refused {m : Machine} {handle : Handle} {mode : LockMode}
    (h : (m.tryLock handle mode).1 ≠ .granted) : (m.tryLock handle mode).2 = m := by
  simp only [Machine.tryLock] at h ⊢
  split
  · rfl
  · rename_i file hfile
    simp only [hfile] at h
    split
    · rfl
    · rename_i hblocked
      simp [hblocked] at h

/-- What asking once for a lock comes to. -/
def Answered (G P : Trace → Tracked → Prop) : LockReply → Trace → Tracked → Prop
  | .granted => G
  | .held | .failed _ => P

theorem triple_tryLock {G : Trace → Tracked → Prop} {handle : Handle} {mode : LockMode}
    (hP : Lasting path i parts own P) (hhandle : ∀ {t s}, P t s → handle ∈ Trace.opened t)
    (hgrant : Granting path handle mode P G) :
    Triple path i parting P (Routine.perform (.tryLock handle mode)) (Answered G P) := by
  have haction : (Action.tryLock handle mode).Harmless path := trivial
  refine .harmless hP.stable haction (fun hPs other hmem => ?_) nofun fun {t s} hs howned hPs => ?_
  · obtain rfl := List.mem_singleton.mp hmem
    exact hhandle hPs
  · have hkept : P (s.moment (.tryLock handle mode) :: t) s :=
      hP.lasts hPs (.of_harmless haction (fun _ => nofun) i t s) (.refl path own s) hs
    by_cases hgranted : (s.machine.perform (.tryLock handle mode)).1 = .granted
    · rw [hgranted]
      exact hgrant hs howned hPs hgranted
    · have hsame : (s.machine.perform (.tryLock handle mode)).2 = s.machine :=
        tryLock_refused hgranted
      rw [hsame]
      cases hreply : (s.machine.perform (.tryLock handle mode)).1 with
      | granted => exact absurd hreply hgranted
      | held => exact hkept
      | failed e => exact hkept

/-- What asking for a lock on an open file comes to. -/
def Asked (lockPath : String) (handle : Handle) (mode : LockMode) (G P : Trace → Tracked → Prop)
    (result : Except LockError FileLock) (t : Trace) (s : Tracked) : Prop :=
  match result with
  | .ok lock => lock = ⟨lockPath, handle, mode, true⟩ ∧ G t s
  | .error _ => P t s

/-- By induction on the attempts that are left. -/
theorem triple_attempt {G : Trace → Tracked → Prop} {handle : Handle} {mode : LockMode}
    (hP : Lasting path i parts own P) (hG : Lasting path i parts own' G)
    (hhandle : ∀ {t s}, P t s → handle ∈ Trace.opened t) (hgrant : Granting path handle mode P G)
    (lockPath : String) (policy : RetryPolicy) (left : Nat) (warned : Bool) :
    Triple path i parting P (FileLock.attempt handle lockPath mode policy left warned)
      (Asked lockPath handle mode G P) := by
  induction left generalizing warned with
  | zero => exact .done fun _ _ _ h => h
  | succ left ih =>
    refine .bind (triple_tryLock hP hhandle hgrant) fun reply => ?_
    cases reply with
    | failed e => exact .done fun _ _ _ h => h
    | granted =>
      cases warned with
      | false => exact .done fun _ _ _ h => ⟨rfl, h⟩
      | true => exact .bind (.say hG _) fun _ => .done fun _ _ _ h => ⟨rfl, h⟩
    | held =>
      have hrest (warned : Bool) : Triple path i parting P (do
          if left ≠ 0 then
            Routine.perform (.sleep (policy.backoff (policy.attempts - (left + 1))))
          FileLock.attempt handle lockPath mode policy left warned)
          (Asked lockPath handle mode G P) := by
        by_cases hleft : left ≠ 0
        · rw [if_pos hleft]
          exact .bind (.keeping hP trivial nofun nofun nofun) fun _ => ih warned
        · rw [if_neg hleft]
          exact ih warned
      cases warned with
      | true => exact hrest true
      | false => exact .bind (.say hP _) fun _ => hrest true

/-- If the lock is not granted, the file is closed, and what does not depend on it is left. -/
theorem triple_lockFile {G P' : Trace → Tracked → Prop} {before : List Handle} {handle : Handle}
    {mode : LockMode} (hP : Lasting path i parts own P) (hG : Lasting path i parts own' G)
    (hhandle : ∀ {t s}, P t s → handle ∈ Trace.opened t) (hgrant : Granting path handle mode P G)
    (hbefore : Lasting path i parts before P') (hapart : handle ∉ before)
    (hleave : ∀ {t s}, P t s → P' t s) (lockPath : String) (policy : RetryPolicy) :
    Triple path i parting P (FileLock.lockFile handle lockPath mode policy)
      (Asked lockPath handle mode G P') := by
  refine .bind (triple_attempt hP hG hhandle hgrant lockPath policy policy.attempts false)
    fun result => ?_
  cases result with
  | ok lock => exact .done fun _ _ _ h => h
  | error e =>
    refine .bind ((Triple.closeFile (hbefore.mine handle) hapart fun h => h.2).weaken
      (fun _ _ h => ⟨hleave h, hhandle h⟩) fun _ _ _ _ h => h) fun _ => ?_
    exact .done fun _ _ _ h => h.1

/-! ### Giving a lock up -/

/-- What is left, once a lock is given up, of what held before. -/
theorem triple_drop {P' : Trace → Tracked → Prop} (hP : Lasting path i true own P)
    (hP' : Lasting path i true own' P') {lock : FileLock} (hapart : lock.handle ∉ own')
    (hown : ∀ {t s}, P t s → lock.handle ∈ Trace.opened t)
    (hparting : ∀ {t s}, Sound path s → P t s → parting t s) (hleave : ∀ {t s}, P t s → P' t s) :
    Triple path i parting P lock.drop fun _ => P' := by
  have hopen := hP'.mine lock.handle
  have hunlock : Triple path i parting P (Routine.perform (.unlock lock.handle)) fun _ t s =>
      P' t s ∧ lock.handle ∈ Trace.opened t := by
    have haction : (Action.unlock lock.handle).Harmless path := trivial
    refine .harmless hP.stable haction (fun hPs other hmem => ?_) (fun hs hPs _ _ => hparting hs hPs)
      fun hs howned hPs => hopen.harmless haction nofun (fun other hother hmem => ?_) hs howned
        ⟨hleave hPs, hown hPs⟩
    · obtain rfl := List.mem_singleton.mp hmem
      exact hown hPs
    · obtain rfl := List.mem_singleton.mp hmem
      exact hapart hother
  have hrelease : Triple path i parting P lock.release fun released t s =>
      released.handle = lock.handle ∧ P' t s ∧ lock.handle ∈ Trace.opened t := by
    unfold FileLock.release
    by_cases hheld : lock.held
    · rw [if_pos hheld]
      exact .bind hunlock fun _ => .done fun _ _ _ h => ⟨rfl, h⟩
    · rw [if_neg hheld]
      exact .done fun _ _ _ h => ⟨rfl, hleave h, hown h⟩
  refine .bind hrelease fun released => .pure_left fun hsame => ?_
  rw [hsame]
  exact (Triple.closeFile hopen hapart fun h => h.2).weaken (fun _ _ h => h) fun _ _ _ _ h => h.1

theorem triple_during {α : Type} {work : Routine α} {Q Q' : α → Trace → Tracked → Prop}
    {lock : FileLock} (hwork : Triple path i parting P work Q)
    (hQ : ∀ a, Lasting path i true own (Q a)) (hQ' : ∀ a, Lasting path i true own' (Q' a))
    (hapart : lock.handle ∉ own') (hown : ∀ t s, P t s → lock.handle ∈ Trace.opened t)
    (hparting : ∀ {a t s}, Sound path s → Q a t s → parting t s)
    (hleave : ∀ {a t s}, Q a t s → Q' a t s) :
    Triple path i parting P (lock.during work) Q' := by
  have hkept := hwork.remember (fun {moment t} h => Trace.mem_opened_cons h moment) hown
  refine .bind hkept fun a => ?_
  have hdrop := triple_drop ((hQ a).mine lock.handle) (hQ' a) hapart (fun h => h.2) (fun hs h => hparting hs h.1)
    fun h => hleave h.1
  exact .bind hdrop fun _ => .done fun _ _ _ h => h

end

end ScriptCache
