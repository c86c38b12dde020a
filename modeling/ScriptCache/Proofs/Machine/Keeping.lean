import Mathlib
import ScriptCache.Machine.Files
import ScriptCache.Proofs.Machine.OpenFiles

/-! Routines that mind their own open files.

`Uses` follows a routine along with the files that it has open: whatever it is answered, it
names no open files but those, and it ends with some of them open. A routine that ends with
those it began with `Keeps` them. Whoever else has files open, a run of such a routine leaves them
to them (`Keeps.run`), and if the routine is cut short, what it opened can be told from what was
open before (`Keeps.cut`). -/
namespace ScriptCache

/-! ### Files that a routine has open -/

/-- The open files after an action. -/
def Action.openAfter (own : List Handle) : (action : Action) → action.Reply → List Handle
  | openFile _ _, .ok handle => handle :: own
  | closeFile handle, _ => own.erase handle
  | _, _ => own

/-- Closes all open files from one on. -/
def Machine.closeFrom (m : Machine) (first : Handle) : Machine :=
  { m with files := m.files.take first ++ (m.files.drop first).map fun _ => none }

@[simp] theorem Machine.length_closeFrom (m : Machine) (first : Handle) :
    (m.closeFrom first).files.length = m.files.length := by
  simp only [closeFrom, List.length_append, List.length_take, List.length_map, List.length_drop]
  omega

theorem Machine.file?_closeFrom (m : Machine) (first handle : Handle) :
    (m.closeFrom first).file? handle = if handle < first then m.file? handle else none := by
  have hlength : (m.files.take first).length = min first m.files.length := List.length_take
  simp only [file?, closeFrom, List.getElem?_append]
  split
  · rename_i hkept
    have hlt : handle < first := Nat.lt_of_lt_of_le hkept (hlength ▸ Nat.min_le_left _ _)
    rw [if_pos hlt, List.getElem?_take_of_lt hlt]
  · rename_i hclosed
    have hnone : ((m.files.drop first).map fun _ => (none : Option OpenFile))[
        handle - (m.files.take first).length]?.join = none := by
      rw [List.getElem?_map]
      cases (m.files.drop first)[handle - (m.files.take first).length]? <;> rfl
    rw [hnone]
    split
    · rename_i hlt
      have hpast : m.files.length ≤ handle := by
        by_contra hopen
        exact hclosed (hlength ▸ Nat.lt_min.mpr ⟨hlt, Nat.lt_of_not_le hopen⟩)
      rw [List.getElem?_eq_none hpast, Option.join_none]
    · rfl

namespace Routine

variable {α β : Type} {own : List Handle}

/-- Whether a routine names open files of its own only, and ends where `Q` holds of its result
and of the files that it has open then. -/
def Uses (Q : α → List Handle → Prop) : Routine α → List Handle → Prop
  | done a, own => Q a own
  | act action next, own => (∀ handle ∈ action.handles, handle ∈ own) ∧
    ∀ reply, (next reply).Uses Q (action.openAfter own reply)

/-- Whether a routine ends with the same files open with which it began. -/
def Keeps (own : List Handle) (routine : Routine α) : Prop :=
  routine.Uses (fun _ after => after = own) own

theorem Uses.bind {Q : β → List Handle → Prop} {R : α → List Handle → Prop} {routine : Routine α}
    {f : α → Routine β} (h : routine.Uses R own) (hf : ∀ {a after}, R a after → (f a).Uses Q after) :
    (routine >>= f).Uses Q own := by
  show (routine.bind f).Uses Q own
  induction routine generalizing own with
  | done a => exact hf h
  | act action next ih => exact ⟨h.1, fun reply => ih reply (h.2 reply)⟩

theorem Keeps.bind {Q : β → List Handle → Prop} {routine : Routine α} {f : α → Routine β}
    (h : routine.Keeps own) (hf : ∀ a, (f a).Uses Q own) : (routine >>= f).Uses Q own :=
  Uses.bind h fun hafter => hafter ▸ hf _

theorem Keeps.pure (a : α) : (Pure.pure a : Routine α).Keeps own := rfl

theorem uses_open (path : String) (mode : OpenMode) : (perform (.openFile path mode)).Uses
    (fun reply after => after = Action.openAfter own (.openFile path mode) reply) own :=
  ⟨nofun, fun _ => rfl⟩

/-- An action that neither opens nor closes a file. -/
theorem keeps_perform {action : Action} (h : ∀ handle ∈ action.handles, handle ∈ own)
    (hsame : ∀ reply, action.openAfter own reply = own) : (perform action).Keeps own :=
  ⟨h, hsame⟩

/-- Such an action on the file that was opened last. -/
theorem keeps_first {action : Action} {handle : Handle} (h : action.handles = [handle])
    (hsame : ∀ reply, action.openAfter (handle :: own) reply = handle :: own) :
    (perform action).Keeps (handle :: own) := by
  refine keeps_perform (fun other hother => ?_) hsame
  rw [h] at hother
  rw [List.mem_singleton.mp hother]
  exact List.mem_cons_self

theorem keeps_say (event : Event) : (say event).Keeps own :=
  keeps_perform nofun fun _ => rfl

theorem keeps_sayAll (events : List Event) : (sayAll events).Keeps own := by
  induction events with
  | nil => exact .pure ()
  | cons event events ih => exact Keeps.bind (keeps_say event) fun _ => ih

theorem uses_close (handle : Handle) :
    (perform (.closeFile handle)).Uses (fun _ after => after = own) (handle :: own) := by
  refine ⟨fun other hother => ?_, fun _ => ?_⟩
  · rw [List.mem_singleton.mp hother]
    exact List.mem_cons_self
  · show (handle :: own).erase handle = own
    rw [List.erase_cons_head]

theorem uses_closing {work : Routine α} {handle : Handle} (h : work.Keeps (handle :: own)) :
    (Files.closing handle work).Uses (fun _ after => after = own) (handle :: own) :=
  Keeps.bind h fun _ => Uses.bind (uses_close handle) fun hafter => hafter

theorem keeps_opened {path : String} {mode : OpenMode} {work : Handle → Routine (Except SysError α)}
    (h : ∀ handle, (work handle).Keeps (handle :: own)) : (Files.opened path mode work).Keeps own := by
  refine Uses.bind (uses_open path mode) fun {reply after} hafter => ?_
  subst hafter
  cases reply with
  | error e => exact Keeps.pure _
  | ok handle => exact uses_closing (h handle)

/-! ### Runs -/

/-- What a machine has become while a routine ran: others' files are as they were, unless they were
due to be closed, and of the new ones only some are open. -/
structure Beside (m : Machine) (own : List Handle) (m' : Machine) : Prop where
  length : m.files.length ≤ m'.files.length
  others : ∀ handle < m.files.length, m'.file? handle = m.file? handle ∨
    handle ∈ m.releases.map Prod.snd ∧ m'.file? handle = none
  releases : ∀ release ∈ m'.releases, release ∈ m.releases
  mine : ∀ handle ∈ own, m.files.length ≤ handle ∧ handle < m'.files.length
  closed : ∀ handle, m.files.length ≤ handle → handle ∉ own → m'.file? handle = none

variable {m m' : Machine}

theorem Beside.refl (m : Machine) : Beside m [] m where
  length := Nat.le_refl _
  others _ _ := .inl rfl
  releases _ h := h
  mine := nofun
  closed handle hle _ := by simp [Machine.file?, List.getElem?_eq_none hle]

/-- An action on one's own files leaves others' as they are. -/
theorem Beside.perform (h : Beside m own m') {action : Action}
    (hown : ∀ handle ∈ action.handles, handle ∈ own) :
    Beside m (action.openAfter own (m'.perform action).1) (m'.perform action).2 := by
  have hframe := Machine.frame_perform m' action
  have hlength := Nat.le_trans h.length hframe.length
  have hothers : ∀ handle < m.files.length, (m'.perform action).2.file? handle = m.file? handle ∨
      handle ∈ m.releases.map Prod.snd ∧ (m'.perform action).2.file? handle = none := by
    intro handle hlt
    have hapart : handle ∉ action.handles :=
      fun hmem => Nat.not_le_of_lt hlt (h.mine handle (hown handle hmem)).1
    rcases hframe.file handle (Nat.lt_of_lt_of_le hlt h.length) hapart with hsame | ⟨hdue, hclosed⟩
    · rw [hsame]
      exact h.others handle hlt
    · obtain ⟨release, hrelease, rfl⟩ := List.mem_map.mp hdue
      exact .inr ⟨List.mem_map_of_mem (h.releases release hrelease), hclosed⟩
  have hreleases : ∀ release ∈ (m'.perform action).2.releases, release ∈ m.releases :=
    fun release hrelease => h.releases release (hframe.releases release hrelease)
  -- What is not open any more was closed before or is closed now; what is new is one's own.
  have hstays : ∀ handle, m.files.length ≤ handle → handle ∉ own → handle < m'.files.length →
      (m'.perform action).2.file? handle = none := by
    intro handle hle hnot hlt
    rcases hframe.file handle hlt fun hmem => hnot (hown handle hmem) with hsame | ⟨-, hclosed⟩
    · rw [hsame]
      exact h.closed handle hle hnot
    · exact hclosed
  have hmine : ∀ handle ∈ own, m.files.length ≤ handle ∧
      handle < (m'.perform action).2.files.length := fun handle hmem =>
    ⟨(h.mine handle hmem).1, Nat.lt_of_lt_of_le (h.mine handle hmem).2 hframe.length⟩
  have hnone {handle : Handle} (hge : (m'.perform action).2.files.length ≤ handle) :
      (m'.perform action).2.file? handle = none := by
    simp [Machine.file?, List.getElem?_eq_none hge]
  by_cases hopen : ∃ path mode, action = .openFile path mode
  · obtain ⟨path, mode, rfl⟩ := hopen
    cases hreply : (m'.perform (.openFile path mode)).1 with
    | error e =>
      rw [Machine.perform_openFile_error hreply]
      exact h
    | ok handle =>
      obtain ⟨rfl, file, hfiles⟩ := Machine.perform_openFile hreply
      refine ⟨hlength, hothers, hreleases, fun handle hmem => ?_, fun handle hle hnot => ?_⟩
      · rcases List.mem_cons.mp hmem with rfl | hmem
        · exact ⟨h.length, by simp [hfiles]⟩
        · exact hmine handle hmem
      · rcases Nat.lt_or_gt_of_ne (List.ne_of_not_mem_cons hnot) with hlt | hgt
        · exact hstays handle hle (List.not_mem_of_not_mem_cons hnot) hlt
        · exact hnone (by rw [hfiles]; simpa using hgt)
  · have hsame : (m'.perform action).2.files.length = m'.files.length :=
      Machine.length_perform fun path mode heq => hopen ⟨path, mode, heq⟩
    have hafter : ∀ handle, m.files.length ≤ handle → handle ∉ own →
        (m'.perform action).2.file? handle = none := by
      intro handle hle hnot
      by_cases hlt : handle < m'.files.length
      · exact hstays handle hle hnot hlt
      · exact hnone (by rw [hsame]; exact Nat.le_of_not_lt hlt)
    cases action with
    | openFile path mode => exact absurd ⟨path, mode, rfl⟩ hopen
    | closeFile handle =>
      refine ⟨hlength, hothers, hreleases, fun other hmem => hmine other (List.mem_of_mem_erase hmem),
        fun other hle hnot => ?_⟩
      by_cases hother : other = handle
      · show (m'.close handle).file? other = none
        rw [Machine.file?_close, if_pos hother]
      · exact hafter other hle fun hmem => hnot ((List.mem_erase_of_ne hother).mpr hmem)
    | _ => exact ⟨hlength, hothers, hreleases, hmine, hafter⟩

theorem Beside.run {Q : α → List Handle → Prop} {routine : Routine α} (h : Beside m own m')
    (huses : routine.Uses Q own) :
    ∃ after, Q (routine.run m').1 after ∧ Beside m after (routine.run m').2 := by
  induction routine generalizing own m' with
  | done a => exact ⟨own, huses, h⟩
  | act action next ih => exact ih _ (h.perform huses.1) (huses.2 _)

/-- A routine that keeps what it has open leaves no file open that was not open before. -/
theorem Keeps.run {routine : Routine α} (h : routine.Keeps []) (m : Machine) :
    Beside m [] (routine.run m).2 := by
  obtain ⟨after, rfl, hbeside⟩ := (Beside.refl m).run h
  exact hbeside

/-! ### Runs that are cut short -/

/-- What a cut can leave done of the action that it comes upon. -/
def part? (size : Nat) : Action → Option Action
  | .write handle bytes => some (.write handle (bytes.take size))
  | _ => none

/-- The first `n` actions, and if the next one is a write, the first `size` bytes of it. -/
def cut : Routine α → Nat → Nat → Machine → Machine
  | done _, _, _, m => m
  | act action next, n + 1, size, m => (next (m.perform action).1).cut n size (m.perform action).2
  | act action _, 0, size, m =>
    match part? size action with
    | some part => (m.perform part).2
    | none => m

theorem handles_of_part? {size : Nat} {action part : Action} (h : part? size action = some part) :
    part.handles = action.handles := by
  cases action with
  | write handle bytes =>
    cases h
    rfl
  | _ => cases h

theorem Beside.cut {Q : α → List Handle → Prop} {routine : Routine α} (h : Beside m own m')
    (huses : routine.Uses Q own) (n size : Nat) :
    ∃ after, Beside m after (routine.cut n size m') := by
  induction routine generalizing own n m' with
  | done a => exact ⟨own, h⟩
  | act action next ih =>
    cases n with
    | succ n => exact ih _ (h.perform huses.1) (huses.2 _) n
    | zero =>
      rw [Routine.cut]
      split
      · rename_i part hpart
        exact ⟨_, h.perform (handles_of_part? hpart ▸ huses.1)⟩
      · exact ⟨own, h⟩

/-- What is left of a routine that was cut short: the files that it opened are closed. -/
def killed (routine : Routine α) (n size : Nat) (m : Machine) : Machine :=
  (routine.cut n size m).closeFrom m.files.length

theorem Uses.killed {Q : α → List Handle → Prop} {routine : Routine α} (h : routine.Uses Q [])
    (n size : Nat) (m : Machine) : Beside m [] (routine.killed n size m) := by
  obtain ⟨after, hbeside⟩ := (Beside.refl m).cut h n size
  have hlength : (routine.killed n size m).files.length = (routine.cut n size m).files.length :=
    Machine.length_closeFrom _ _
  refine ⟨hlength ▸ hbeside.length, fun handle hlt => ?_, hbeside.releases, nofun,
    fun handle hle _ => ?_⟩
  · rw [Routine.killed, Machine.file?_closeFrom, if_pos hlt]
    exact hbeside.others handle hlt
  · rw [Routine.killed, Machine.file?_closeFrom, if_neg (Nat.not_lt_of_le hle)]

/-- Every file that is open was open before. -/
theorem Beside.file? (h : Beside m [] m') {handle : Handle} {file : OpenFile}
    (hfile : m'.file? handle = some file) : m.file? handle = some file := by
  by_cases hlt : handle < m.files.length
  · rcases h.others handle hlt with hsame | ⟨-, hclosed⟩
    · rw [← hsame, hfile]
    · rw [hclosed] at hfile
      cases hfile
  · rw [h.closed handle (Nat.le_of_not_lt hlt) List.not_mem_nil] at hfile
    cases hfile

end Routine

end ScriptCache
