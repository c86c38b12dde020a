import ScriptCache.Lock.FileLock
import ScriptCache.Slot.Basic
import ScriptCache.Slot.InfoFile
import ScriptCache.Text.Quoted

/-! The store: looking an artifact up in its slot and putting one there.

Looking up takes the slot's lock and then the artifact's, both shared, and answers with
the artifact only if its info file tells of the build at hand and the artifact's digest
is the one written there. Whatever goes wrong is a miss, unless it breaks the lookup off.
Putting takes the same two
locks exclusively; it removes the old info file before it touches the artifact and
writes the new one last, so that no info file ever stands beside bytes it was not
written for. -/
namespace ScriptCache

/-- Why an artifact was not put into its slot. -/
inductive CacheError where
  | io (path : String) (source : SysError)
  | invalidName (name reason : String)
  | lock (path : String) (source : LockError)
  | serialization (reason : String)
  deriving DecidableEq

namespace CacheError

def message : CacheError → String
  | io path source => s!"cache I/O error at {path}: {source.message}"
  | invalidName name reason => s!"invalid resource name '{name}': {reason}"
  | lock path source => s!"unable to lock {path}: {source.message}"
  | serialization reason => s!"serialization error: {reason}"

/-- The errors behind an error, outermost first. -/
def causes : CacheError → List String
  | io _ source => [source.message]
  | lock _ source => source.message :: source.causes
  | invalidName .. | serialization _ => []

end CacheError

/-- Why a lookup found nothing to use, in the order in which the checks are made. -/
inductive MissReason where
  | bypassed
  | artifactMissing
  | lockUnavailable (error : LockError)
  | metadataMissing
  | metadataCorrupt (reason : CorruptReason)
  | stale (reason : StaleReason)
  | artifactCorrupt
  deriving DecidableEq

def MissReason.describe : MissReason → String
  | bypassed => "Bypassed"
  | artifactMissing => "ArtifactMissing"
  | lockUnavailable error => s!"LockUnavailable({Text.quoted error.message})"
  | metadataMissing => "MetadataMissing"
  | metadataCorrupt reason => s!"MetadataCorrupt({Text.quoted reason.message})"
  | stale reason => s!"Stale({reason.label})"
  | artifactCorrupt => "ArtifactCorrupt"

/-- An artifact that can be used in place of a compilation. -/
structure CachedArtifact where
  path : String
  bytes : Bytes
  metadata : Metadata
  deriving DecidableEq

inductive LookupOutcome where
  | hit (artifact : CachedArtifact)
  | miss (reason : MissReason)
  /-- Reading the info file broke off. -/
  | brokenOff
  deriving DecidableEq

namespace LookupOutcome

def hit? : LookupOutcome → Option CachedArtifact
  | hit artifact => some artifact
  | miss _ | brokenOff => none

def missReason? : LookupOutcome → Option MissReason
  | miss reason => some reason
  | hit _ | brokenOff => none

end LookupOutcome

/-- How slots are read and written. -/
structure Store where
  policy : RetryPolicy := .standard
  /-- Makes every lookup a miss. -/
  force : Bool := false
  deriving DecidableEq

namespace Store

/-! ### Events -/

def noReadLock (slot : Slot) (error : LockError) : Event where
  level := .warn
  message := "unable to acquire read lock"
  fields := [.text "path" slot.lock, .text "error" error.message]

def noArtifact (slot : Slot) (error : SysError) : Event where
  level := .warn
  message := "unable to open artifact"
  fields := [.text "path" slot.artifact, .text "error" error.message]

def noArtifactLock (slot : Slot) (error : LockError) : Event where
  level := .warn
  message := "unable to lock artifact for reading its info file"
  fields := [.text "path" slot.artifact, .text "info" slot.info, .text "error" error.message]

def unreadArtifact (slot : Slot) (error : SysError) : Event where
  level := .warn
  message := "unable to read artifact"
  fields := [.text "path" slot.artifact, .text "error" error.message]

/-- What is said of an outcome, if anything. -/
def found? (slot : Slot) : LookupOutcome → Option Event
  | .hit _ => some ⟨.debug, "cache hit", [.text "path" slot.artifact, .elapsed]⟩
  | .miss reason =>
    some ⟨.debug, "cache miss",
      [.text "path" slot.artifact, .text "reason" reason.describe, .elapsed]⟩
  | .brokenOff => none

def cached (slot : Slot) (artifact : Bytes) : Event where
  level := .info
  message := "cached compiled artifact"
  fields := [.text "path" slot.artifact, .nat "bytes" artifact.length, .elapsed]

/-! ### Looking up -/

/-- Whether the bytes of an artifact are those its metadata was written with. -/
def accept (slot : Slot) (metadata : Metadata) (bytes : Bytes) : LookupOutcome :=
  if metadata.matchesArtifact bytes then .hit ⟨slot.artifact, bytes, metadata⟩
  else .miss .artifactCorrupt

/-- Reads the artifact behind an open file, its metadata being good. -/
def readArtifact (slot : Slot) (handle : Handle) (metadata : Metadata) : Routine LookupOutcome := do
  match ← Routine.perform (.readRest handle) with
  | .error e =>
    Routine.say (unreadArtifact slot e)
    return .miss .artifactCorrupt
  | .ok bytes => return accept slot metadata bytes

variable [Wire.Memory]

/-- Reads the info file and then the artifact, both locks being held. -/
def readSlot (slot : Slot) (handle : Handle) (dependencies : DependencyTable)
    (signature : Bytes) : Routine LookupOutcome := do
  match ← Metadata.inspect slot.info dependencies signature with
  | .missing => return .miss .metadataMissing
  | .corrupt reason => return .miss (.metadataCorrupt reason)
  | .stale reason => return .miss (.stale reason)
  | .valid metadata => readArtifact slot handle metadata
  | .brokenOff => return .brokenOff

/-- Opens and locks the artifact and reads the slot, the slot's lock being held. -/
def lookupLocked (policy : RetryPolicy) (slot : Slot) (dependencies : DependencyTable)
    (signature : Bytes) : Routine LookupOutcome := do
  match ← Routine.perform (.openFile slot.artifact .read) with
  | .error .notFound => return .miss .artifactMissing
  | .error e =>
    Routine.say (noArtifact slot e)
    return .miss .artifactMissing
  | .ok handle =>
    match ← FileLock.lockFile handle slot.artifact .shared policy with
    | .error e =>
      Routine.say (noArtifactLock slot e)
      return .miss (.lockUnavailable e)
    | .ok lock => lock.during (readSlot slot lock.handle dependencies signature)

/-- Looks an artifact up, up to the event that tells of the outcome. -/
def search (store : Store) (slot : Slot) (dependencies : DependencyTable) (signature : Bytes) :
    Routine LookupOutcome := do
  if store.force then return .miss .bypassed
  else if ← Routine.perform (.fileExists slot.artifact) then
    match ← FileLock.acquire slot.lock .shared store.policy with
    | .error e =>
      Routine.say (noReadLock slot e)
      return .miss (.lockUnavailable e)
    | .ok lock => lock.during (lookupLocked store.policy slot dependencies signature)
  else return .miss .artifactMissing

/-- Looks up the artifact for a build with the given inputs and settings. -/
def lookup (store : Store) (slot : Slot) (dependencies : DependencyTable) (signature : Bytes) :
    Routine LookupOutcome := do
  let outcome ← store.search slot dependencies signature
  Routine.sayAll (found? slot outcome).toList
  return outcome

/-! ### Putting -/

/-- Gives an open file a new content, and sees that it is kept. -/
def refill (handle : Handle) (bytes : Bytes) : Routine (Except SysError Unit) := do
  match ← Routine.perform (.setLength handle 0) with
  | .error e => return .error e
  | .ok () =>
    match ← Routine.perform (.write handle bytes) with
    | .error e => return .error e
    | .ok () => Routine.perform (.sync handle)

/-- Takes the info file away, if there is one. -/
def removeInfo (path : String) : Routine (Except SysError Unit) := do
  match ← Routine.perform (.unlink path) with
  | .error .notFound => return .ok ()
  | result => return result

/-- Replaces the artifact and its info file, both locks being held. -/
def replaceSlot (slot : Slot) (handle : Handle) (artifact : Bytes) (metadata : Metadata) :
    Routine (Except CacheError Unit) := do
  match ← removeInfo slot.info with
  | .error e => return .error (.io slot.info e)
  | .ok () =>
    match ← refill handle artifact with
    | .error e => return .error (.io slot.artifact e)
    | .ok () =>
      match ← metadata.save slot.info with
      | .error e => return .error (.io slot.info e)
      | .ok () =>
        Routine.say (cached slot artifact)
        return .ok ()

/-- Opens and locks the artifact and fills the slot anew, the slot's lock being held. -/
def insertLocked (policy : RetryPolicy) (slot : Slot) (artifact : Bytes) (metadata : Metadata) :
    Routine (Except CacheError Unit) := do
  match ← Routine.perform (.openFile slot.artifact .write) with
  | .error e => return .error (.io slot.artifact e)
  | .ok handle =>
    match ← FileLock.lockFile handle slot.artifact .exclusive policy with
    | .error e => return .error (.lock slot.artifact e)
    | .ok lock => lock.during (replaceSlot slot lock.handle artifact metadata)

/-- Puts an artifact and its metadata into a slot, in place of any others. -/
def insert (store : Store) (slot : Slot) (artifact : Bytes) (metadata : Metadata) :
    Routine (Except CacheError Unit) := do
  match ← Files.makeFolders slot.folder with
  | .error e => return .error (.io slot.folder e)
  | .ok () =>
    match ← FileLock.acquire slot.lock .exclusive store.policy with
    | .error e => return .error (.lock slot.lock e)
    | .ok lock => lock.during (insertLocked store.policy slot artifact metadata)

end Store

end ScriptCache
