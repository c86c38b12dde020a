import Mathlib
import ScriptCache.Compiler.External
import ScriptCache.Compiler.Scripted
import ScriptCache.Build.Driver
import ScriptCache.Proofs.Machine.Lapse
import ScriptCache.Proofs.Machine.Sight
import ScriptCache.Proofs.Store.Closing
import ScriptCache.Proofs.Store.Ledger
import ScriptCache.Proofs.Store.Still

/-! What operations leave behind.

A build closes what it opens if its compiler does (`keeps_build`), as insertions and lookups do. So
whatever any of them is answered on its way, and however it ends, the locks are those that were held
before; and a lookup leaves the disk as it was, but for an empty lock file (`locks_given_back`). -/
namespace ScriptCache

open Routine

/-! ### Builds close what they open -/

/-- Whether a compiler closes the files that it opens and leaves those of others alone. -/
def Compiler.Closes {σ : Type} (c : Compiler σ) : Prop :=
  ∀ script s, (c.compile script s).Keeps []

theorem Scripted.closes : Scripted.compiler.Closes :=
  fun _ _ => Keeps.pure _

theorem External.closes : External.compiler.Closes := by
  intro script e
  show (External.compile script e).Keeps []
  rw [External.compile]
  cases e.config with
  | none => exact Keeps.pure _
  | some config =>
    refine Keeps.bind (keeps_perform nofun fun _ => rfl) fun reply => ?_
    cases reply <;> exact Keeps.pure _

namespace Driver

section

variable {σ : Type} {c : Compiler σ} {m m' : Machine}

theorem keeps_load (bytes : Bytes) (origin : String) (resolvers : ResolverChain) :
    (Executable.load bytes origin resolvers).Keeps [] :=
  (keeps_sayAll _).bind fun _ => Keeps.pure _

theorem keeps_compile (hc : c.Closes) (d : Driver σ) (p : BuildPlan) :
    (compile c d p).Keeps [] := by
  rw [compile]
  rcases configure c d p.config with ⟨configured, d', events⟩
  refine (keeps_sayAll events).bind fun _ => ?_
  cases configured with
  | error e => exact (keeps_say _).bind fun _ => Keeps.pure _
  | ok u =>
    exact (hc p.script d'.compiler).bind fun reply => (keeps_sayAll reply.events).bind fun _ =>
      (keeps_say _).bind fun _ => Keeps.pure _

variable [Wire.Memory]

theorem keeps_reuse (d : Driver σ) (p : BuildPlan) : (d.reuse p).Keeps [] := by
  refine (keeps_lookup d.store).bind fun outcome => ?_
  cases outcome with
  | brokenOff => exact Keeps.pure _
  | miss reason => exact Keeps.pure _
  | hit artifact =>
    refine (keeps_load artifact.bytes artifact.path p.resolvers).bind fun loaded => ?_
    cases loaded with
    | ok executable => exact (keeps_say _).bind fun _ => Keeps.pure _
    | error e => exact (keeps_say _).bind fun _ => Keeps.pure _

theorem keeps_finish (store : Store) (p : BuildPlan) (object : Bytes) :
    (finish store p object).Keeps [] := by
  have hpersist : (persist store p object).Keeps [] := by
    refine (keeps_insert store).bind fun result => ?_
    cases result with
    | ok u => exact Keeps.pure _
    | error e => exact (keeps_say _).bind fun _ => Keeps.pure _
  refine hpersist.bind fun persisted => ?_
  refine (keeps_load object p.slot.artifact p.resolvers).bind fun loaded => ?_
  cases loaded with
  | error e => exact (keeps_say _).bind fun _ => Keeps.pure _
  | ok executable => exact (keeps_say _).bind fun _ => Keeps.pure _

/-- A build closes what it opens if its compiler does. -/
theorem keeps_build (hc : c.Closes) (d : Driver σ) (r : BuildRequest) :
    (build c d r).Keeps [] := by
  rw [build]
  cases plan c d r with
  | error flaw => exact Keeps.pure _
  | ok p =>
    refine (keeps_reuse d p).bind fun answer => ?_
    rcases answer with e | (_ | built)
    · exact Keeps.pure _
    · refine (keeps_compile hc d p).bind fun compiled => ?_
      rcases compiled with ⟨e | object, d'⟩
      · exact Keeps.pure _
      · exact (keeps_finish d'.store p object).bind fun _ => Keeps.pure _
    · exact Keeps.pure _

/-- However a lookup, an insertion or a build ends, whatever failed on its way, the locks are those
that were held before, but for what others let go of meanwhile; and a lookup leaves the disk as it
was, but for an empty lock file, which it makes only where an artifact is and it is not bypassed. -/
theorem locks_given_back (hc : c.Closes) (d : Driver σ) (store : Store) (m : Machine) :
    (∀ slot dependencies signature outcome m',
      (store.lookup slot dependencies signature).Yields m outcome m' →
        m.LocksLast m' ∧ (m'.disk = m.disk ∨ store.force = false ∧
          m.disk.exists? slot.artifact = true ∧ m.disk.GainsFile slot.lock m'.disk)) ∧
      (∀ slot artifact metadata result m',
        (store.insert slot artifact metadata).Yields m result m' → m.LocksLast m') ∧
      ∀ r result m', (build c d r).Yields m result m' → m.LocksLast m' := by
  refine ⟨fun slot dependencies signature outcome m' hlookup => ⟨(keeps_lookup store).locks hlookup,
    ?_⟩, fun slot artifact metadata result m' hinsert => (keeps_insert store).locks hinsert,
    fun r result m' hbuild => (keeps_build hc d r).locks hbuild⟩
  obtain ⟨hmade, hsame | ⟨hforce, hthere⟩⟩ := lookup_disk hlookup
  · exact .inl hsame
  · exact .inr ⟨hforce, hthere, hmade.ensured.gains⟩

end

section

attribute [local instance] Wire.Memory.addressSpace

/-- A build that cannot put its object into the cache, for a reader has the slot's lock, leaves the
reader the lock and has none of its own. -/
theorem locks_given_back_beside_reader :
    let m : Machine := { Machine.blank with
      disk := ⟨[.folder [("c", 1)], .folder [("a.o.lock", 2)], .file []], [], [], [Disk.root]⟩
      files := [some { node := 2, lock := some .shared }] }
    let d : Driver Scripted := { settings := {}, store := {}, compiler := { answers := {} } }
    let built := (build Scripted.compiler d ⟨"c", "a", Utf8.encode "BC"⟩).run m
    Scripted.compiler.Closes ∧ built.1.1.toOption.map Built.persisted = some false ∧
      built.2.locks = [(0, 2, .shared)] := by
  intro m d built
  have hbuilt : built.1.1.toOption.map Built.persisted = some false := by decide +kernel
  have hlast : m.LocksLast built.2 :=
    (locks_given_back Scripted.closes d d.store m).2.2 _ _ _ (yields_run _ m)
  exact ⟨Scripted.closes, hbuilt, hlast.locks rfl⟩

end

end Driver

end ScriptCache
