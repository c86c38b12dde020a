import Mathlib
import ScriptCache.Config.Environment

/-! What environments make of settings.

An environment that is laid over settings can force recompilation and set the precision, the second
only together with the first. The rest of the settings stays as it is, and so does whether they go
together (`Tightens.validate_eq`). This adds up over environments that are laid one after another,
those that are refused among them (`overlaid_tightens`), and one that is laid twice in a row does no
more than once (`apply_apply`). -/
namespace ScriptCache

namespace Settings

variable {s s' s'' : Settings}

/-- Whether settings come from others by nothing but forcing recompilation and, where it is forced,
another precision. -/
structure Tightens (s' s : Settings) : Prop where
  forced : s.cache.forceRecompile = true → s'.cache.forceRecompile = true
  lock : s'.lock = s.lock
  level : s'.compiler.optimizationLevel = s.compiler.optimizationLevel
  precision : s'.compiler.precision = s.compiler.precision ∨ s'.cache.forceRecompile = true

theorem Tightens.refl (s : Settings) : s.Tightens s :=
  ⟨id, rfl, rfl, .inl rfl⟩

theorem Tightens.trans (h' : s''.Tightens s') (h : s'.Tightens s) : s''.Tightens s where
  forced hs := h'.forced (h.forced hs)
  lock := h'.lock.trans h.lock
  level := h'.level.trans h.level
  precision := by
    cases h'.precision with
    | inr hforced => exact .inr hforced
    | inl hsame' =>
      cases h.precision with
      | inr hforced => exact .inr (h'.forced hforced)
      | inl hsame => exact .inl (hsame'.trans hsame)

/-- What settings are checked for is not touched. -/
theorem Tightens.validate_eq (h : s'.Tightens s) : s'.validate = s.validate := by
  unfold validate
  rw [h.lock, h.level]

end Settings

namespace Environment

variable {env : Environment} {s : Settings}

theorem applyForce_eq (env : Environment) (s : Settings) : env.applyForce s =
    { settings := { s with cache.forceRecompile := s.cache.forceRecompile || env.forces }
      events := if env.forces then [forced] else [] } := by
  unfold applyForce
  split
  · rename_i hforces
    simp [hforces]
  · rename_i hforces
    simp [hforces]

/-- The course of an overlay: the environment asks for no precision, for one that there is not, or
for one that there is. -/
inductive Course (env : Environment) (s : Settings) : Overlay → Prop
  | unasked : (∀ value, env precisionName = some value → value.isEmpty = true) →
    Course env s (env.applyForce s)
  | refused (value : String) : env precisionName = some value → value.isEmpty = false →
    Precision.parse? value = none →
    Course env s { env.applyForce s with result := .error (.invalidValue precisionName value) }
  | overridden (value : String) (p : Precision) : env precisionName = some value →
    value.isEmpty = false → Precision.parse? value = some p →
    Course env s
      { settings := { s with cache.forceRecompile := true, compiler.precision := some p }
        events := (env.applyForce s).events ++ [precisionSet p] }

theorem course (env : Environment) (s : Settings) : env.Course s (env.apply s) := by
  unfold apply
  cases hvalue : env precisionName with
  | none =>
    apply Course.unasked
    rw [hvalue]
    nofun
  | some value =>
    by_cases hempty : value.isEmpty = true
    · simp only [if_pos hempty]
      apply Course.unasked
      intro other hother
      rw [hvalue] at hother
      cases hother
      exact hempty
    · have hasked : value.isEmpty = false := by simpa using hempty
      simp only [if_neg hempty]
      cases hparsed : Precision.parse? value with
      | none => exact .refused value hvalue hasked hparsed
      | some p =>
        have hcourse := Course.overridden (s := s) value p hvalue hasked hparsed
        rw [applyForce_eq] at hcourse ⊢
        exact hcourse

/-- Only a precision that there is is set, and recompilation is forced with it. -/
theorem of_precision_ne
    (h : (env.apply s).settings.compiler.precision ≠ s.compiler.precision) :
    (env.apply s).result = .ok () ∧ (env.apply s).settings.cache.forceRecompile = true := by
  have hcourse := env.course s
  generalize env.apply s = o at *
  cases hcourse with
  | unasked | refused =>
    rw [applyForce_eq] at h
    exact absurd rfl h
  | overridden => exact ⟨rfl, rfl⟩

/-- An environment that is refused may have forced recompilation before it is. -/
theorem of_apply_eq_error {e : ConfigError} (h : (env.apply s).result = .error e) :
    (env.apply s).settings = s ∨ (env.apply s).settings = { s with cache.forceRecompile := true } := by
  have hcourse := env.course s
  generalize env.apply s = o at *
  cases hcourse with
  | unasked =>
    rw [applyForce_eq] at h
    cases h
  | overridden => cases h
  | refused =>
    rw [applyForce_eq]
    cases env.forces with
    | false => exact .inl (by rw [Bool.or_false])
    | true => exact .inr (by rw [Bool.or_true])

/-- An environment that asks for a precision and is not refused forces recompilation. -/
theorem forced_of_asked {value : String} (hvalue : env precisionName = some value)
    (hasked : value.isEmpty = false) (h : (env.apply s).result = .ok ()) :
    (env.apply s).settings.cache.forceRecompile = true := by
  have hcourse := env.course s
  generalize env.apply s = o at *
  cases hcourse with
  | unasked hempty =>
    rw [hempty value hvalue] at hasked
    cases hasked
  | refused => cases h
  | overridden => rfl

theorem apply_tightens (env : Environment) (s : Settings) : (env.apply s).settings.Tightens s := by
  have hcourse := env.course s
  generalize env.apply s = o at *
  cases hcourse with
  | unasked | refused =>
    rw [applyForce_eq]
    exact ⟨fun h => by simp [h], rfl, rfl, .inl rfl⟩
  | overridden => exact ⟨fun _ => rfl, rfl, rfl, .inr rfl⟩

/-- An environment that was laid over settings once does the same once more, events and all. -/
theorem apply_apply (env : Environment) (s : Settings) :
    env.apply (env.apply s).settings = env.apply s := by
  unfold apply
  cases env precisionName with
  | none => simp [applyForce_eq]
  | some value =>
    by_cases hempty : value.isEmpty = true
    · simp [hempty, applyForce_eq]
    · cases hparsed : Precision.parse? value with
      | none => simp [hempty, hparsed, applyForce_eq]
      | some p => simp [hempty, hparsed, applyForce_eq]

/-- What environments make of settings, one after another, whether or not each is refused. -/
def overlaid (envs : List Environment) (s : Settings) : Settings :=
  envs.foldl (fun s env => (env.apply s).settings) s

theorem overlaid_tightens (envs : List Environment) (s : Settings) :
    (overlaid envs s).Tightens s := by
  induction envs generalizing s with
  | nil => exact .refl s
  | cons env envs ih => exact (ih (env.apply s).settings).trans (env.apply_tightens s)

end Environment

end ScriptCache
