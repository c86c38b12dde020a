import Mathlib
import ScriptCache.Proofs.Store.Filling

/-! Lookups in a slot that was filled.

A slot that has an artifact and its info file, both of which may be read, and whose locks are to be
had, answers every lookup that its metadata serves with a hit (`lookup_stored`). The lookup changes
nothing on the disk and leaves no file open (`Machine.Rested`), so the slot answers the next one in
the same way. -/
namespace ScriptCache

/-! ### What a lookup leaves as it was -/

/-- Whether a machine has the disk of another one, refuses what it refuses, and has no more files
open. -/
structure Machine.Rested (m m' : Machine) : Prop where
  disk : m'.disk = m.disk
  refuses : m'.refuses = m.refuses
  files : ∀ {handle file}, m'.file? handle = some file → m.file? handle = some file

/-- Whether a slot's artifact and its info file may be opened to be read. -/
structure Slot.Permits (slot : Slot) (m : Machine) : Prop where
  artifact : m.refuses slot.artifact .read = none
  info : m.refuses slot.info .read = none

/-- Whether the files of a slot are where they were and as they were. -/
structure Slot.Untouched (slot : Slot) (d d' : Disk) : Prop where
  leads : ∀ folder, d.Leads slot.folder folder → d'.Leads slot.folder folder
  entry : ∀ folder name, d.Leads slot.folder folder → slot.Owns name →
    d'.child? folder name = d.child? folder name
  file : ∀ folder name id, d.Leads slot.folder folder → slot.Owns name →
    d.child? folder name = some id → d'.node? id = d.node? id

section

variable {m m' m'' : Machine} {slot : Slot} {d d' : Disk} {folder : NodeId}
  {artifact info : Bytes}

theorem Machine.Rested.refl (m : Machine) : m.Rested m :=
  ⟨rfl, rfl, fun hfile => hfile⟩

theorem Machine.Rested.trans (h : m.Rested m') (h' : m'.Rested m'') : m.Rested m'' :=
  ⟨h'.disk.trans h.disk, h'.refuses.trans h.refuses, fun hfile => h.files (h'.files hfile)⟩

theorem Machine.Spoken.rested (h : m.Spoken m') : m.Rested m' := by
  obtain ⟨events, rfl⟩ := h
  exact ⟨rfl, rfl, fun hfile => hfile⟩

theorem Machine.Rested.existing (h : m.Rested m') (path : String) :
    m'.existing path = m.existing path :=
  Machine.existing_of_same h.refuses h.disk path

theorem Machine.Rested.unlocked (h : m.Rested m') {node : NodeId} (hfree : m.Unlocked node) :
    m'.Unlocked node :=
  fun other file hfile => hfree other file (h.files hfile)

theorem Slot.Available.rested (hfree : slot.Available m) (h : m.Rested m') : slot.Available m' := by
  intro hexists
  obtain ⟨⟨file, disk, hopening, hunlocked⟩, hartifact⟩ := hfree (h.disk ▸ hexists)
  refine ⟨⟨file, disk, ?_, h.unlocked hunlocked⟩, fun node hnode =>
    h.unlocked (hartifact node (h.existing slot.artifact ▸ hnode))⟩
  rw [openingLock_of_same h.refuses h.disk, hopening]

theorem Slot.Permits.rested (hpermits : slot.Permits m) (h : m.Rested m') : slot.Permits m' :=
  ⟨by rw [h.refuses, hpermits.artifact], by rw [h.refuses, hpermits.info]⟩

theorem Slot.Untouched.refl (slot : Slot) (d : Disk) : slot.Untouched d d :=
  ⟨fun _ h => h, fun _ _ _ _ => rfl, fun _ _ _ _ _ _ => rfl⟩

/-- A slot that was not touched has what it had. -/
theorem Disk.Stores.untouched (h : d.Stores slot folder artifact info)
    (hsame : slot.Untouched d d') : d'.Stores slot folder artifact info := by
  have hentry {name : String} (hname : slot.Owns name) :
      d'.child? folder name = d.child? folder name := hsame.entry folder name h.leads hname
  have hfile {name : String} {id : NodeId} (hname : slot.Owns name)
      (hid : d.child? folder name = some id) : d'.fileContent? id = d.fileContent? id :=
    Disk.fileContent?_congr (hsame.file folder name id h.leads hname hid)
  have hcontent {name : String} (hname : slot.Owns name) :
      d'.content? folder name = d.content? folder name := by
    rw [Disk.content?, Disk.content?, hentry hname]
    cases hid : d.child? folder name with
    | none => rfl
    | some id => exact hfile hname hid
  have hleads := hsame.leads folder h.leads
  refine ⟨hleads, ⟨hleads.1, fun hname hid => ?_, fun hname hname' hid hid' => ?_⟩, h.nameable,
    ?_, ?_, ?_⟩
  · rw [hentry hname] at hid
    obtain ⟨content, hold⟩ := h.neat.file hname hid
    exact ⟨content, (hfile hname hid).trans hold⟩
  · rw [hentry hname] at hid
    rw [hentry hname'] at hid'
    exact h.neat.apart hname hname' hid hid'
  · rw [hcontent slot.owns_artifact, h.artifact]
  · rw [hcontent slot.owns_info, h.info]
  · rw [hcontent slot.owns_lock]
    exact h.lock

end

/-! ### Reading what is stored -/

section

variable {m : Machine} {slot : Slot} {d : Disk} {folder : NodeId} {artifact info : Bytes}
  {metadata : Metadata} {dependencies : DependencyTable} {signature : Bytes}

/-- A file of a stored slot, as its path finds it. -/
theorem Disk.Stores.found (h : d.Stores slot folder artifact info) {name : String} {content : Bytes}
    (hname : slot.Owns name) (hplain : Path.Plain name)
    (hcontent : d.content? folder name = some content) :
    d.exists? (Path.join slot.folder name) = true ∧ ∃ id,
      d.existing (Path.join slot.folder name) false = .ok id ∧
      d.ensureFile (Path.join slot.folder name) = .ok (id, d) ∧
      d.node? id = some (.file content) := by
  obtain ⟨id, hentry, hfile⟩ := Disk.content?_eq_some.mp hcontent
  have hcan := h.nameable name hname
  exact ⟨(Disk.exists?_join h.leads h.neat hname hplain).mpr ⟨hcan, id, hentry⟩, id,
    (Disk.existing_join h.leads h.neat hname hplain).mpr ⟨hcan, hentry⟩,
    (Disk.ensureFile_join h.leads h.neat hname hplain).mpr ⟨hcan, .inl ⟨hentry, rfl⟩⟩,
    Disk.fileContent?_eq_some.mp hfile⟩

theorem Disk.Stores.contents?_info (h : d.Stores slot folder artifact info) :
    d.contents? slot.info = some (.ok info) := by
  obtain ⟨-, id, hexisting, -, hnode⟩ := h.found slot.owns_info slot.plain_infoName h.info
  rw [slot.info_eq, Disk.contents?, hexisting]
  simp only [Disk.bytes?, hnode]

variable [Wire.Memory]

/-- An info file that tells of the build at hand is found valid. -/
theorem found_valid {i : Insertion} (hfits : i.metadata.Fits)
    (hserves : i.Serves dependencies signature) :
    Metadata.found dependencies signature (.ok i.metadata.encode) = .valid i.metadata := by
  rw [Metadata.found, Metadata.decode_encode hfits]
  rcases judge_cases i.metadata dependencies signature with ⟨reason, -, hstale⟩ | ⟨hvalid, -⟩
  · exact absurd hserves.2 hstale
  · exact hvalid

variable {i : Insertion} {store : Store} {policy : RetryPolicy} {handle : Handle}

/-- The locks being had, the slot is read and found good. -/
theorem readSlot_stored (hstores : m.disk.Stores i.slot folder i.artifact i.metadata.encode)
    (hpermits : i.slot.Permits m) (hfits : i.metadata.Fits)
    (hserves : i.Serves dependencies signature) {file : OpenFile}
    (hfile : m.file? handle = some file) (hstart : file.offset = 0)
    (hartifact : m.disk.node? file.node = some (.file i.artifact)) :
    ((Store.readSlot i.slot handle dependencies signature).run m).1 =
        .hit ⟨i.slot.artifact, i.artifact, i.metadata⟩ ∧
      ((Store.readSlot i.slot handle dependencies signature).run m).2.disk = m.disk := by
  have hcontents : m.contents i.slot.info = .ok i.metadata.encode := by
    rw [Machine.contents, Machine.contents?_eq_ok.mpr ⟨hpermits.info, hstores.contents?_info⟩]
    rfl
  obtain ⟨hinspect, hdisk, hfiles⟩ := inspect_found i.slot.info dependencies signature m
  rw [hcontents, found_valid hfits hserves] at hinspect
  have hopen := (hfiles handle (Machine.lt_of_file? hfile)).trans hfile
  rw [Store.readSlot, Routine.run_bind, hinspect]
  generalize (Metadata.inspect i.slot.info dependencies signature).run m = looked at *
  obtain ⟨hread, hkept⟩ := Machine.readRest_start hopen hstart
  have hbytes : looked.2.disk.bytes file.node = .ok i.artifact := by
    rw [hdisk, Disk.bytes, Disk.bytes?, hartifact]
    rfl
  have hreply : looked.2.perform (.readRest handle) =
      (.ok i.artifact, (looked.2.readRest handle).2) := Prod.ext (hread.trans hbytes) rfl
  show ((Store.readArtifact i.slot handle i.metadata).run _).1 = _ ∧
    ((Store.readArtifact i.slot handle i.metadata).run _).2.disk = _
  rw [Store.readArtifact, Routine.run_perform_bind, hreply]
  refine ⟨?_, hkept.trans hdisk⟩
  show Store.accept i.slot i.metadata i.artifact = _
  rw [Store.accept, if_pos hserves.1]

theorem lookupLocked_stored (hstores : m.disk.Stores i.slot folder i.artifact i.metadata.encode)
    (hpermits : i.slot.Permits m) (hfits : i.metadata.Fits)
    (hserves : i.Serves dependencies signature)
    (hfree : ∀ node, m.existing i.slot.artifact = .ok node → m.Unlocked node) :
    ((Store.lookupLocked policy i.slot dependencies signature).run m).1 =
        .hit ⟨i.slot.artifact, i.artifact, i.metadata⟩ ∧
      ((Store.lookupLocked policy i.slot dependencies signature).run m).2.disk = m.disk := by
  obtain ⟨-, node, hexisting, -, hnode⟩ :=
    hstores.found i.slot.owns_artifact i.slot.plain_artifactName hstores.artifact
  rw [← i.slot.artifact_eq] at hexisting
  have hfound : m.existing i.slot.artifact = .ok node :=
    Machine.existing_eq_ok.mpr ⟨hpermits.artifact, hexisting⟩
  have hopen := m.openFile_read i.slot.artifact
  rw [hfound] at hopen
  have hfile : (m.addFile { node }).2.file? m.files.length = some { node } := by
    rw [Machine.file?_addFile, if_pos rfl]
  obtain ⟨hgranted, hlocked⟩ := Machine.tryLock_shared hfile ((hfree node hfound).addFile rfl)
  have hfile' : ((m.addFile { node }).2.setFile m.files.length
      (some { node, lock := some .shared })).file? m.files.length =
        some { node, lock := some .shared } := by
    rw [Machine.file?_setFile_of_some hfile, if_pos rfl]
  rw [Store.lookupLocked, Routine.run_perform_bind, hopen]
  show ((FileLock.lockFile m.files.length i.slot.artifact .shared policy >>= _).run _).1 = _ ∧
    ((FileLock.lockFile m.files.length i.slot.artifact .shared policy >>= _).run _).2.disk = _
  rw [Routine.run_bind, lockFile_granted hgranted, hlocked]
  show ((FileLock.during _ _).run _).1 = _ ∧ ((FileLock.during _ _).run _).2.disk = _
  rw [during_run, disk_during]
  exact readSlot_stored hstores ⟨hpermits.artifact, hpermits.info⟩ hfits hserves hfile' rfl hnode

/-- A slot that stores what a lookup is after, may be read, and whose locks are to be had, answers
it with a hit, and is left as it was. -/
theorem lookup_stored (hstores : m.disk.Stores i.slot folder i.artifact i.metadata.encode)
    (hpermits : i.slot.Permits m) (hfits : i.metadata.Fits)
    (hserves : i.Serves dependencies signature) (hfree : i.slot.Available m)
    (hforce : store.force = false) :
    ((store.lookup i.slot dependencies signature).run m).1 =
        .hit ⟨i.slot.artifact, i.artifact, i.metadata⟩ ∧
      m.Rested ((store.lookup i.slot dependencies signature).run m).2 := by
  have hname := i.slot.plain_artifactName
  obtain ⟨hexists, -⟩ := hstores.found i.slot.owns_artifact hname hstores.artifact
  obtain ⟨lockContent, hlockContent⟩ := hstores.lock
  obtain ⟨-, lockNode, -, hlockThere, -⟩ :=
    hstores.found i.slot.owns_lock i.slot.plain_lockName hlockContent
  rw [← i.slot.artifact_eq] at hexists
  rw [← i.slot.lock_eq] at hlockThere
  obtain ⟨hlockable, hunlocked⟩ := hfree hexists
  obtain ⟨lock, m', hacquire, hkeeps⟩ := acquire_shared store.policy hlockable
  have hyields := Routine.yields_run (FileLock.acquire i.slot.lock .shared store.policy) m
  rw [hacquire] at hyields
  have hrefuses : m'.refuses = m.refuses := congrArg Prod.snd hyields.setting
  have hdisk : m'.disk = m.disk := by
    rcases (acquire_disk hyields).ensured with hsame | ⟨id, hensure⟩
    · exact hsame
    · exact (congrArg Prod.snd (Except.ok.inj (hlockThere.symm.trans hensure))).symm
  have hlocked : ((Store.lookupLocked store.policy i.slot dependencies signature).run m').1 =
        .hit ⟨i.slot.artifact, i.artifact, i.metadata⟩ ∧
      ((Store.lookupLocked store.policy i.slot dependencies signature).run m').2.disk =
        m'.disk := by
    refine lookupLocked_stored (hdisk ▸ hstores)
      ⟨by rw [hrefuses, hpermits.artifact], by rw [hrefuses, hpermits.info]⟩ hfits hserves
      fun found hfound => hkeeps found (hunlocked found ?_)
    rwa [existing_after_lock hexists hacquire] at hfound
  have hsearch : ((store.search i.slot dependencies signature).run m).1 =
        .hit ⟨i.slot.artifact, i.artifact, i.metadata⟩ ∧
      ((store.search i.slot dependencies signature).run m).2.disk = m.disk := by
    have hreply : m.perform (.fileExists i.slot.artifact) = (true, m) := Prod.ext hexists rfl
    rw [Store.search, if_neg (by rw [hforce]; exact Bool.false_ne_true), Routine.run_perform_bind,
      hreply]
    show ((FileLock.acquire i.slot.lock .shared store.policy >>= _).run m).1 = _ ∧
      ((FileLock.acquire i.slot.lock .shared store.policy >>= _).run m).2.disk = _
    rw [Routine.run_bind, hacquire]
    show ((FileLock.during lock _).run m').1 = _ ∧ ((FileLock.during lock _).run m').2.disk = _
    rw [during_run, disk_during]
    exact ⟨hlocked.1, hlocked.2.trans hdisk⟩
  have hbeside : Routine.Beside m [] ((store.lookup i.slot dependencies signature).run m).2 :=
    (keeps_lookup store).run m
  have hsaid : ((store.lookup i.slot dependencies signature).run m).1 =
        ((store.search i.slot dependencies signature).run m).1 ∧
      ((store.lookup i.slot dependencies signature).run m).2.disk =
        ((store.search i.slot dependencies signature).run m).2.disk := by
    rw [Store.lookup, Routine.run_bind, Routine.run_bind]
    exact ⟨rfl, (spoken_sayAll _ _).disk⟩
  have hsetting := (Routine.yields_run (store.lookup i.slot dependencies signature) m).setting
  exact ⟨hsaid.1.trans hsearch.1, hsaid.2.trans hsearch.2, congrArg Prod.snd hsetting,
    hbeside.file?⟩

end

end ScriptCache
