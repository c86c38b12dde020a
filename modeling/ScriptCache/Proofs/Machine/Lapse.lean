import Mathlib
import ScriptCache.Proofs.Machine.Faults

/-! Open files and locks after a routine.

A routine that closes what it opens leaves the open files of the others as time alone would have
left them (`Lapse`): what is missing was due to be closed by its owner. So the locks that are held
after it are those that were held before it, but for what others let go of (`Keeps.locks`). That
holds of every end of the routine, whatever failed on the way. -/
namespace ScriptCache

namespace Machine

variable {m m' m'' base : Machine} {action : Action} {reply : action.Reply}

/-! ### Time alone -/

/-- Whether a machine is another one, or what some span of time has made of it. -/
def Aged (m base : Machine) : Prop :=
  base = m ∨ ∃ span, base = m.pass span

theorem Aged.disk (h : m.Aged base) : base.disk = m.disk := by
  rcases h with rfl | ⟨span, rfl⟩
  · rfl
  · exact disk_pass m span

theorem Aged.refuses (h : m.Aged base) : base.refuses = m.refuses := by
  rcases h with rfl | ⟨span, rfl⟩
  · rfl
  · exact congrArg Prod.snd (setting_pass m span)

theorem Aged.closesOpened (h : m.Aged base) (hcloses : m.ClosesOpened) : base.ClosesOpened := by
  rcases h with rfl | ⟨span, rfl⟩
  · exact hcloses
  · exact hcloses.pass span

theorem Aged.length (h : m.Aged base) : base.files.length = m.files.length := by
  rcases h with rfl | ⟨span, rfl⟩
  · rfl
  · exact length_pass m span

/-- Whether the clock, the closings that others have ahead and the files that were open on a
machine are those of another. -/
structure Abreast (m base m' : Machine) : Prop where
  clock : m'.clock = base.clock
  releases : m'.releases = base.releases
  file : ∀ handle < m.files.length, m'.file? handle = base.file? handle

theorem Abreast.pass (h : Abreast m base m') (span : Nat) :
    Abreast m (base.pass span) (m'.pass span) := by
  refine ⟨by rw [clock_pass, clock_pass, h.clock], ?_, fun handle hlt => ?_⟩
  · rw [releases_pass, releases_pass, h.clock, h.releases]
  · rw [file?_pass, file?_pass, h.clock, h.releases, h.file handle hlt]

/-- Whether the files that were open on a machine are as time alone has left them. -/
def Lapse (m m' : Machine) : Prop :=
  ∃ base, m.Aged base ∧ Abreast m base m'

theorem Lapse.refl (m : Machine) : m.Lapse m :=
  ⟨m, .inl rfl, rfl, rfl, fun _ _ => rfl⟩

/-- What is done to other files leaves the files that were open to time. -/
theorem Lapse.perform (h : m.Lapse m') (hlength : m.files.length ≤ m'.files.length)
    (hapart : ∀ handle ∈ action.handles, m.files.length ≤ handle) :
    m.Lapse (m'.perform action).2 := by
  obtain ⟨base, haged, habreast⟩ := h
  rcases m'.touched_or_passed action with htouched | ⟨disk, span, hpassed⟩
  · refine ⟨base, haged, htouched.clock.trans habreast.clock,
      htouched.releases.trans habreast.releases, fun handle hlt => ?_⟩
    have hnot : handle ∉ action.handles := fun hmem => Nat.not_le_of_lt hlt (hapart handle hmem)
    exact (htouched.file handle (Nat.lt_of_lt_of_le hlt hlength) hnot).trans
      (habreast.file handle hlt)
  · have habreast' : Abreast m base { m' with disk } :=
      ⟨habreast.clock, habreast.releases, habreast.file⟩
    rw [hpassed]
    rcases haged with rfl | ⟨first, rfl⟩
    · exact ⟨base.pass span, .inr ⟨span, rfl⟩, habreast'.pass span⟩
    · exact ⟨(m.pass first).pass span, .inr ⟨first + span, m.pass_pass first span⟩,
        habreast'.pass span⟩

theorem Lapse.answers (h : m.Lapse m') (hanswers : m'.Answers action reply m'')
    (hlength : m.files.length ≤ m'.files.length)
    (hapart : ∀ handle ∈ action.handles, m.files.length ≤ handle) : m.Lapse m'' := by
  rcases hanswers.cases with ⟨-, rfl⟩ | ⟨-, rfl⟩ | ⟨part, hhandles, rfl, -⟩
  · exact h.perform hlength hapart
  · exact h
  · exact h.perform hlength (hhandles ▸ hapart)

/-- Whether a machine has the files open that another has, with the same closings ahead by the same
clock, and refuses what that refuses. -/
structure InStep (base m' : Machine) : Prop where
  refuses : m'.refuses = base.refuses
  clock : m'.clock = base.clock
  releases : m'.releases = base.releases
  length : base.files.length ≤ m'.files.length
  file : ∀ handle, m'.file? handle = base.file? handle

theorem InStep.pass (h : base.InStep m') (span : Nat) : (base.pass span).InStep (m'.pass span) := by
  refine ⟨?_, by rw [clock_pass, clock_pass, h.clock], ?_, ?_, fun handle => ?_⟩
  · exact (congrArg Prod.snd (setting_pass m' span)).trans
      (h.refuses.trans (congrArg Prod.snd (setting_pass base span)).symm)
  · rw [releases_pass, releases_pass, h.clock, h.releases]
  · rw [length_pass, length_pass]
    exact h.length
  · rw [file?_pass, file?_pass, h.clock, h.releases, h.file]

theorem InStep.closesOpened (h : base.InStep m') (hcloses : base.ClosesOpened) :
    m'.ClosesOpened :=
  fun release hrelease => Nat.lt_of_lt_of_le (hcloses release (h.releases ▸ hrelease)) h.length

/-! ### Locks -/

/-- The lock on an open file, with the node and the mode. -/
def lockOn? (m : Machine) (handle : Handle) : Option (Handle × NodeId × LockMode) :=
  (m.file? handle).bind fun file => file.lock.map fun mode => (handle, file.node, mode)

theorem locks_eq (m : Machine) {bound : Nat} (h : m.files.length ≤ bound) :
    m.locks = (List.range bound).filterMap m.lockOn? := by
  have hopen : (List.range m.files.length).filterMap m.lockOn? = m.locks := by
    have hzip : m.files.zipIdx = (List.range m.files.length).map fun handle =>
        (m.file? handle, handle) := by
      refine List.ext_getElem? fun i => ?_
      by_cases hlt : i < m.files.length
      · simp [file?, hlt]
      · simp [hlt]
    rw [locks, hzip, List.filterMap_map]
    refine List.filterMap_congr fun handle _ => ?_
    simp only [lockOn?, Function.comp]
    cases m.file? handle with
    | none => rfl
    | some file => cases hlock : file.lock <;> simp [hlock]
  obtain ⟨more, rfl⟩ := Nat.exists_eq_add_of_le h
  have hrest : ((List.range more).map (m.files.length + ·)).filterMap m.lockOn? = [] := by
    rw [List.filterMap_map]
    refine List.filterMap_eq_nil_iff.mpr fun i _ => ?_
    simp [lockOn?, file?]
  rw [List.range_add, List.filterMap_append, hopen, hrest, List.append_nil]

/-- Who has the same files open has the same locks. -/
theorem locks_of_file? (h : ∀ handle, m'.file? handle = m.file? handle) : m'.locks = m.locks := by
  rw [m'.locks_eq (Nat.le_max_left m'.files.length m.files.length),
    m.locks_eq (Nat.le_max_right m'.files.length m.files.length)]
  exact List.filterMap_congr fun handle _ => by rw [lockOn?, lockOn?, h]

/-- Whether the locks that are held are those that were, but for what others have let go of in the
time that has passed. -/
def LocksLast (m m' : Machine) : Prop :=
  ∃ base, m.Aged base ∧ m'.clock = base.clock ∧ m'.locks = base.locks

/-- Time alone frees nothing that nobody has left to close. -/
theorem locks_pass (h : m.releases = []) (span : Nat) : (m.pass span).locks = m.locks :=
  locks_of_file? fun handle => by rw [file?_pass, h]; rfl

/-- Where others let nothing go, the locks are those that were held before. -/
theorem LocksLast.locks (h : m.LocksLast m') (hreleases : m.releases = []) :
    m'.locks = m.locks := by
  obtain ⟨base, rfl | ⟨span, rfl⟩, -, hlocks⟩ := h
  · exact hlocks
  · exact hlocks.trans (locks_pass hreleases span)

end Machine

namespace Routine

variable {α : Type} {m m' m'' : Machine} {own : List Handle}

/-- An action that fails opens nothing and closes nothing. -/
theorem openAfter_of_failsWith {action : Action} {reply : action.Reply}
    (h : action.FailsWith reply) (own : List Handle) : action.openAfter own reply = own := by
  cases action with
  | openFile path mode =>
    obtain ⟨e, rfl⟩ := h
    rfl
  | closeFile handle => exact h.elim
  | _ => rfl

theorem Beside.answers (h : Beside m own m') {action : Action} {reply : action.Reply}
    (hanswers : m'.Answers action reply m'') (hown : ∀ handle ∈ action.handles, handle ∈ own) :
    Beside m (action.openAfter own reply) m'' := by
  rcases hanswers.cases with ⟨rfl, rfl⟩ | ⟨hfails, rfl⟩ | ⟨part, hhandles, rfl, hpart, hsame⟩
  · exact h.perform hown
  · rw [openAfter_of_failsWith hfails]
    exact h
  · have hbeside : Beside m (part.openAfter own (m'.perform part).1) (m'.perform part).2 :=
      h.perform (hhandles ▸ hown)
    rw [hpart] at hbeside
    rwa [hsame]

/-- Whatever its actions are answered, a routine that names files of its own only leaves those of
others to time. -/
theorem Uses.yields {Q : α → List Handle → Prop} {routine : Routine α} {result : α}
    (huses : routine.Uses Q own) (hbeside : Beside m own m') (hlapse : m.Lapse m')
    (hyields : routine.Yields m' result m'') :
    ∃ after, Q result after ∧ Beside m after m'' ∧ m.Lapse m'' := by
  induction routine generalizing own m' with
  | done a =>
    obtain ⟨rfl, rfl⟩ := hyields
    exact ⟨own, huses, hbeside, hlapse⟩
  | act action next ih =>
    obtain ⟨reply, between, hanswers, hnext⟩ := hyields
    exact ih reply (huses.2 reply) (hbeside.answers hanswers huses.1)
      (hlapse.answers hanswers hbeside.length fun handle hmem =>
        (hbeside.mine handle (huses.1 handle hmem)).1) hnext

/-- A routine that closes what it opens leaves a machine in step with what time alone has made of
the one it began on. -/
theorem Keeps.inStep {routine : Routine α} {result : α} (h : routine.Keeps [])
    (hyields : routine.Yields m result m') : ∃ base, m.Aged base ∧ base.InStep m' := by
  obtain ⟨after, rfl, hbeside, base, haged, habreast⟩ := h.yields (.refl m) (.refl m) hyields
  have hrefuses : m'.refuses = base.refuses :=
    (congrArg Prod.snd hyields.setting).trans haged.refuses.symm
  refine ⟨base, haged, hrefuses, habreast.clock, habreast.releases,
    haged.length ▸ hbeside.length, fun handle => ?_⟩
  by_cases hlt : handle < m.files.length
  · exact habreast.file handle hlt
  · have hnone : base.file? handle = none := by
      simp [Machine.file?, List.getElem?_eq_none (haged.length ▸ Nat.le_of_not_lt hlt)]
    rw [hbeside.closed handle (Nat.le_of_not_lt hlt) List.not_mem_nil, hnone]

/-- A routine that closes what it opens leaves the locks to those who hold them. -/
theorem Keeps.locks {routine : Routine α} {result : α} (h : routine.Keeps [])
    (hyields : routine.Yields m result m') : m.LocksLast m' := by
  obtain ⟨base, haged, hstep⟩ := h.inStep hyields
  exact ⟨base, haged, hstep.clock, Machine.locks_of_file? hstep.file⟩

end Routine

end ScriptCache
