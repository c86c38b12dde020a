import Mathlib
import ScriptCache.Proofs.Store.Available

/-! Lookups that break off.

Only an info file that announces a text that there is no room for breaks its reader off. A slot
whose info file is none, and in which nothing stands that is read without end, is `Readable`:
making its lock file leaves it so (`Slot.Readable.gained`), and no lookup in it breaks off, whatever
else is there and whoever holds locks (`lookup_not_brokenOff`). -/
namespace ScriptCache

open Routine

section

variable [Wire.Memory] {m m' : Machine} {slot : Slot} {dependencies : DependencyTable}
  {signature : Bytes}

/-- Whether a slot can be read to the end: neither its info file nor its artifact is a device that
can be read without end, and the info file does not break its reader off. -/
structure Slot.Readable (slot : Slot) (m : Machine) : Prop where
  info_ends : m.contents? slot.info ≠ none
  artifact_ends : m.contents? slot.artifact ≠ none
  whole : ∀ raw, m.contents? slot.info = some (.ok raw) → ¬ Metadata.BreaksOff raw

theorem Slot.Readable.gained (hreadable : slot.Readable m) (h : m.Gained m') :
    slot.Readable m' := by
  refine ⟨h.contents?_ends hreadable.info_ends, h.contents?_ends hreadable.artifact_ends,
    fun raw hraw => ?_⟩
  rcases h.contents? slot.info with hsame | ⟨-, hempty | ⟨e, herror⟩⟩
  · exact hreadable.whole raw (hsame ▸ hraw)
  · rw [hempty] at hraw
    cases hraw
    exact Metadata.not_breaksOff_nil
  · rw [herror] at hraw
    cases hraw

/-! ### Lookups -/

theorem inspect_not_brokenOff (hreadable : slot.Readable m) :
    ((Metadata.inspect slot.info dependencies signature).run m).1 ≠ .brokenOff := by
  rw [(inspect_found slot.info dependencies signature m).1]
  intro hbroken
  obtain ⟨raw, hraw, hbreaks⟩ := Metadata.found_eq_brokenOff hbroken
  exact hreadable.whole raw (Machine.contents_eq_ok.mp hraw) hbreaks

theorem readSlot_not_brokenOff (handle : Handle) (hreadable : slot.Readable m) :
    ((Store.readSlot slot handle dependencies signature).run m).1 ≠ .brokenOff := by
  have hinspect : ((Metadata.inspect slot.info dependencies signature).run m).1 ≠ .brokenOff :=
    inspect_not_brokenOff hreadable
  rw [Store.readSlot, Routine.run_bind]
  cases houtcome : ((Metadata.inspect slot.info dependencies signature).run m).1 with
  | brokenOff => exact absurd houtcome hinspect
  | missing | corrupt | stale => rintro ⟨⟩
  | valid metadata =>
    show ((Store.readArtifact slot handle metadata).run _).1 ≠ _
    rw [Store.readArtifact, Routine.run_perform_bind]
    cases ((((Metadata.inspect slot.info dependencies signature).run m).2).perform
      (.readRest handle)).1 with
    | error e => rintro ⟨⟩
    | ok bytes =>
      show Store.accept slot metadata bytes ≠ _
      rw [Store.accept]
      split <;> rintro ⟨⟩

theorem lookupLocked_not_brokenOff (policy : RetryPolicy) (hreadable : slot.Readable m) :
    ((Store.lookupLocked policy slot dependencies signature).run m).1 ≠ .brokenOff := by
  have hopen : (perform (.openFile slot.artifact .read)).Takes Action.Still := takes_perform rfl
  rw [Store.lookupLocked, run_bind]
  have hopened := hreadable.gained (hopen.gained (yields_run _ m))
  cases ((perform (.openFile slot.artifact .read)).run m).1 with
  | error e => cases e <;> rintro ⟨⟩
  | ok handle =>
    show ((FileLock.lockFile handle slot.artifact .shared policy >>= _).run _).1 ≠ _
    rw [run_bind]
    have hlocked := hopened.gained
      ((still_lockFile handle slot.artifact .shared policy).gained (yields_run _ _))
    cases ((FileLock.lockFile handle slot.artifact .shared policy).run _).1 with
    | error e => rintro ⟨⟩
    | ok lock =>
      show ((FileLock.during lock _).run _).1 ≠ _
      rw [during_run]
      exact readSlot_not_brokenOff _ hlocked

theorem lookup_not_brokenOff (store : Store) (hreadable : slot.Readable m) :
    ((store.lookup slot dependencies signature).run m).1 ≠ .brokenOff := by
  have hsearch : ((store.search slot dependencies signature).run m).1 ≠ .brokenOff := by
    rw [Store.search]
    split
    · rintro ⟨⟩
    · rw [run_perform_bind]
      cases (m.perform (.fileExists slot.artifact)).1 with
      | false => rintro ⟨⟩
      | true =>
        show ((FileLock.acquire slot.lock .shared store.policy >>= _).run m).1 ≠ _
        rw [run_bind]
        have hlocked := hreadable.gained
          (acquire_gained (yields_run (FileLock.acquire slot.lock .shared store.policy) m))
        cases ((FileLock.acquire slot.lock .shared store.policy).run m).1 with
        | error e => rintro ⟨⟩
        | ok lock =>
          show ((FileLock.during lock _).run _).1 ≠ _
          rw [during_run]
          exact lookupLocked_not_brokenOff store.policy hlocked
  rw [Store.lookup, run_bind, run_bind]
  exact hsearch

end

end ScriptCache
