import Mathlib
import ScriptCache.Proofs.Machine.Keeping
import ScriptCache.Proofs.Machine.Passing

/-! Runs in which anything may fail.

A machine does what is asked of it, or the action fails: then the machine is as it was, but for a
write that may have got through in part (`Machine.Answers`). A routine ends in as many ways as its
actions can be answered (`Routine.Yields`), and its run is the one in which none fails that need not
(`Routine.yields_run`). What holds of all ends of a routine holds of every exit that it has,
whatever makes it take the exit. -/
namespace ScriptCache

/-! ### Actions -/

/-- The answers by which an action can fail. What is looked for may not be seen; a name cannot fail
to be removed because it is not there. -/
def Action.FailsWith : (action : Action) → action.Reply → Prop
  | .fileExists _, found | .folderExists _, found | .isRegular _, found => found = false
  | .makeFolder _, reply | .makeLink .., reply | .setLength .., reply | .write .., reply
  | .sync _, reply => ∃ e, reply = .error e
  | .unlink _, reply => ∃ e, e ≠ .notFound ∧ reply = .error e
  | .openFile .., reply => ∃ e, reply = .error e
  | .tryLock .., reply => ∃ e, reply = .failed e
  | .readRest _, reply => ∃ e, reply = .error e
  | .launch .., reply => ∃ e, reply = .error e
  | .say _, _ | .closeFile _, _ | .unlock _, _ | .copyMode .., _ | .sleep _, _ => False

/-- How an action can be answered, and the machine that it leaves. -/
inductive Machine.Answers (m : Machine) : (action : Action) → action.Reply → Machine → Prop
  | done (action : Action) : Answers m action (m.perform action).1 (m.perform action).2
  | failed {action : Action} {reply : action.Reply} (h : action.FailsWith reply) :
    Answers m action reply m
  | partly (handle : Handle) (bytes : Bytes) (size : Nat) (e : SysError)
    (h : size < bytes.length) : Answers m (.write handle bytes) (.error e)
      (m.perform (.write handle (bytes.take size))).2

/-- Whether an action leaves the disk as it is. -/
def Action.Still : Action → Prop
  | .say _ | .fileExists _ | .folderExists _ | .closeFile _ | .tryLock .. | .unlock _
  | .readRest _ | .isRegular _ | .sync _ | .sleep _ => True
  | .openFile _ mode => mode = .read
  | _ => False

namespace Machine

variable {m m' : Machine} {action : Action} {reply : action.Reply}

/-- An action that is answered has been performed, in part if it is a write, or nothing was done. -/
theorem Answers.cases (h : m.Answers action reply m') :
    reply = (m.perform action).1 ∧ m' = (m.perform action).2 ∨ action.FailsWith reply ∧ m' = m ∨
      ∃ part, part.handles = action.handles ∧ m' = (m.perform part).2 ∧
        (∀ own (reply' : part.Reply), part.openAfter own reply' = own) ∧
        ∀ own, action.openAfter own reply = own := by
  cases h with
  | done => exact .inl ⟨rfl, rfl⟩
  | failed h => exact .inr (.inl ⟨h, rfl⟩)
  | partly handle bytes size e h =>
    exact .inr (.inr ⟨.write handle (bytes.take size), rfl, rfl, fun _ _ => rfl, fun _ => rfl⟩)

theorem disk_still (h : action.Still) (m : Machine) : (m.perform action).2.disk = m.disk := by
  cases action with
  | say | fileExists | folderExists | closeFile | isRegular | sync => rfl
  | sleep span => exact disk_pass m span.nanoseconds
  | tryLock handle mode =>
    simp only [perform, tryLock]
    split
    · rfl
    · split <;> rfl
  | unlock handle =>
    simp only [perform, unlock]
    split <;> rfl
  | readRest handle =>
    simp only [perform, readRest]
    split
    · rfl
    · split <;> rfl
  | openFile path mode =>
    obtain rfl : mode = .read := h
    rw [openFile_read]
    cases m.existing path <;> rfl
  | makeFolder | makeLink | setLength | write | unlink | copyMode | launch => exact h.elim

/-- Only a write can get through in part. -/
theorem Answers.done_or_failed (h : m.Answers action reply m')
    (hwrite : ∀ handle bytes, action ≠ .write handle bytes) :
    reply = (m.perform action).1 ∧ m' = (m.perform action).2 ∨ action.FailsWith reply ∧ m' = m := by
  cases h with
  | done => exact .inl ⟨rfl, rfl⟩
  | failed hfails => exact .inr ⟨hfails, rfl⟩
  | partly handle bytes => exact absurd rfl (hwrite handle bytes)

/-- A file that could not be opened leaves the machine as it was. -/
theorem Answers.openFile {path : String} {mode : OpenMode} {reply : Except SysError Handle}
    (h : m.Answers (.openFile path mode) reply m') :
    (∃ e, reply = .error e) ∧ m' = m ∨
      ∃ handle, reply = .ok handle ∧ m.perform (.openFile path mode) = (.ok handle, m') := by
  cases h with
  | done =>
    cases hreply : (m.perform (.openFile path mode)).1 with
    | error e => exact .inl ⟨⟨e, rfl⟩, perform_openFile_error hreply⟩
    | ok handle => exact .inr ⟨handle, rfl, Prod.ext hreply rfl⟩
  | failed hfails => exact .inl ⟨hfails, rfl⟩

/-- What is seen is there. -/
theorem Answers.fileExists {path : String} {found : Bool}
    (h : m.Answers (.fileExists path) found m') :
    m' = m ∧ (found = true → m.disk.exists? path = true) := by
  cases h with
  | done => exact ⟨rfl, id⟩
  | failed hfails => exact ⟨rfl, fun hfound => Bool.noConfusion (hfails.symm.trans hfound)⟩

theorem Answers.disk_still (h : m.Answers action reply m') (hstill : action.Still) :
    m'.disk = m.disk := by
  cases h with
  | done => exact Machine.disk_still hstill m
  | failed => rfl
  | partly => exact hstill.elim

theorem setting_pass (m : Machine) (span : Nat) : (m.pass span).setting = m.setting := by
  rw [pass_eq]
  rfl

/-- Programs do what they did before, and the same may be opened, whatever is done. -/
theorem setting_perform (m : Machine) (action : Action) :
    (m.perform action).2.setting = m.setting := by
  rcases m.touched_or_passed action with htouched | ⟨disk, span, hpassed⟩
  · exact htouched.setting
  · rw [hpassed, setting_pass]
    rfl

/-- Whether everything may be opened. -/
def Unrestricted (m : Machine) : Prop :=
  ∀ path mode, m.refuses path mode = none

theorem Unrestricted.perform (h : m.Unrestricted) (action : Action) :
    (m.perform action).2.Unrestricted := by
  have hsame : (m.perform action).2.refuses = m.refuses :=
    congrArg Prod.snd (setting_perform m action)
  intro path mode
  rw [hsame]
  exact h path mode

theorem Answers.setting (h : m.Answers action reply m') : m'.setting = m.setting := by
  rcases h.cases with ⟨-, rfl⟩ | ⟨-, rfl⟩ | ⟨part, -, rfl, -⟩
  · exact setting_perform m action
  · rfl
  · exact setting_perform m part

end Machine

/-! ### Routines -/

namespace Routine

variable {α β : Type} {m m' : Machine} {P : Action → Prop}

/-- Whether a routine can end with a result and leave a machine. -/
def Yields : Routine α → Machine → α → Machine → Prop
  | done a, m, result, m' => result = a ∧ m' = m
  | act action next, m, result, m' =>
    ∃ reply between, m.Answers action reply between ∧ (next reply).Yields between result m'

/-- The run of a routine is one of its ends. -/
theorem yields_run (routine : Routine α) (m : Machine) :
    routine.Yields m (routine.run m).1 (routine.run m).2 := by
  induction routine generalizing m with
  | done a => exact ⟨rfl, rfl⟩
  | act action next ih => exact ⟨_, _, .done action, ih _ _⟩

theorem yields_bind {routine : Routine α} {f : α → Routine β} {b : β} :
    (routine >>= f).Yields m b m' ↔
      ∃ a between, routine.Yields m a between ∧ (f a).Yields between b m' := by
  show (routine.bind f).Yields m b m' ↔ _
  induction routine generalizing m with
  | done a =>
    constructor
    · exact fun h => ⟨a, m, ⟨rfl, rfl⟩, h⟩
    · rintro ⟨_, _, ⟨rfl, rfl⟩, h⟩
      exact h
  | act action next ih =>
    constructor
    · rintro ⟨reply, first, hanswers, hyields⟩
      obtain ⟨a, between, hnext, hf⟩ := (ih reply).mp hyields
      exact ⟨a, between, ⟨reply, first, hanswers, hnext⟩, hf⟩
    · rintro ⟨a, between, ⟨reply, first, hanswers, hnext⟩, hf⟩
      exact ⟨reply, first, hanswers, (ih reply).mpr ⟨a, between, hnext, hf⟩⟩

theorem yields_perform {action : Action} {reply : action.Reply} :
    (perform action).Yields m reply m' ↔ m.Answers action reply m' := by
  constructor
  · rintro ⟨reply', between, hanswers, rfl, rfl⟩
    exact hanswers
  · exact fun h => ⟨reply, m', h, rfl, rfl⟩

theorem Yields.setting {routine : Routine α} {a : α} (h : routine.Yields m a m') :
    m'.setting = m.setting := by
  induction routine generalizing m with
  | done b =>
    obtain ⟨-, rfl⟩ := h
    rfl
  | act action next ih =>
    obtain ⟨reply, between, hanswers, hnext⟩ := h
    exact (ih reply hnext).trans hanswers.setting

/-! ### The actions of a routine -/

/-- Whether a routine takes actions of a kind only, whatever it is answered. -/
def Takes (P : Action → Prop) : Routine α → Prop
  | done _ => True
  | act action next => P action ∧ ∀ reply, (next reply).Takes P

theorem Takes.bind {routine : Routine α} {f : α → Routine β} (h : routine.Takes P)
    (hf : ∀ a, (f a).Takes P) : (routine >>= f).Takes P := by
  show (routine.bind f).Takes P
  induction routine with
  | done a => exact hf a
  | act action next ih => exact ⟨h.1, fun reply => ih reply (h.2 reply)⟩

theorem takes_perform {action : Action} (h : P action) : (perform action).Takes P :=
  ⟨h, fun _ => trivial⟩

theorem takes_pure (a : α) : (pure a : Routine α).Takes P := trivial

theorem Takes.mono {Q : Action → Prop} {routine : Routine α} (h : routine.Takes P)
    (hsub : ∀ action, P action → Q action) : routine.Takes Q := by
  induction routine with
  | done a => trivial
  | act action next ih => exact ⟨hsub _ h.1, fun reply => ih reply (h.2 reply)⟩

/-- What every action of a routine does to the disk, the routine does, if it adds up. -/
theorem Takes.leaves {R : Disk → Disk → Prop} (hrefl : ∀ d, R d d)
    (htrans : ∀ {d d' d''}, R d d' → R d' d'' → R d d'')
    (haction : ∀ {m m' : Machine} {action : Action} {reply : action.Reply}, P action →
      m.Answers action reply m' → R m.disk m'.disk)
    {routine : Routine α} {a : α} (h : routine.Takes P) (hyields : routine.Yields m a m') :
    R m.disk m'.disk := by
  induction routine generalizing m with
  | done b =>
    obtain ⟨-, rfl⟩ := hyields
    exact hrefl _
  | act action next ih =>
    obtain ⟨reply, between, hanswers, hnext⟩ := hyields
    exact htrans (haction h.1 hanswers) (ih reply (h.2 reply) hnext)

/-- A routine of still actions leaves the disk as it is. -/
theorem Takes.disk {routine : Routine α} {a : α} (h : routine.Takes Action.Still)
    (hyields : routine.Yields m a m') : m'.disk = m.disk :=
  h.leaves (R := fun d d' => d' = d) (fun _ => rfl) (fun h h' => h'.trans h)
    (fun haction hanswers => hanswers.disk_still haction) hyields

end Routine

end ScriptCache
