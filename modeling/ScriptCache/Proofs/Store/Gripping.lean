import Mathlib
import ScriptCache.Proofs.Lock.Waiting
import ScriptCache.Proofs.Store.Locking

/-! A slot's lock, and the files of a slot that a party opens.

While a party grips a slot's lock file, what the ledger says of the slot stays what it was when
the lock was granted (`Gripping`). `Pointing` is a file of the cache folder that was opened and
stands at its start; that is lasting for every file but an info file, and for an info file as long
as its slot is gripped. A file that was written to does not stand there any more, but it is the file
of its name (`Backed`). `triple_open` opens a file and `triple_acquire` takes a slot's lock. -/
namespace ScriptCache

/-! ### Lasting facts about open files -/

/-- Whether an open file of one's own is a slot's lock file, locked, with what the ledger says of
the slot. -/
structure Gripping (path name : String) (mode : LockMode) (handle : Handle) (entry : Option Record)
    (t : Trace) (s : Tracked) : Prop where
  mine : handle ∈ Trace.opened t
  grips : Grips path name mode s.machine handle
  ledger : s.ledger name = entry

/-- Whether an open file of one's own is that of a name in the cache folder, at its start. -/
structure Pointing (path name : String) (appends : Bool) (handle : Handle) (t : Trace)
    (s : Tracked) : Prop where
  mine : handle ∈ Trace.opened t
  file : ∃ folder node lock, s.machine.file? handle = some ⟨node, 0, appends, lock⟩ ∧
    s.machine.disk.Leads path folder ∧ s.machine.disk.child? folder name = some node

/-- Whether an open file of one's own is that of a name in the cache folder, wherever it stands. -/
structure Backed (path name : String) (handle : Handle) (t : Trace) (s : Tracked) : Prop where
  mine : handle ∈ Trace.opened t
  file : ∃ folder file, s.machine.file? handle = some file ∧ s.machine.disk.Leads path folder ∧
    s.machine.disk.child? folder name = some file.node

theorem Pointing.backed {path name : String} {appends : Bool} {handle : Handle} {t : Trace}
    {s : Tracked} (h : Pointing path name appends handle t s) : Backed path name handle t s := by
  obtain ⟨hmine, folder, node, lock, hfile, hleads, hentry⟩ := h
  exact ⟨hmine, folder, _, hfile, hleads, hentry⟩

/-- Whether a slot's lock was granted, the ledger having an entry for the slot. -/
def Granted (slot : Slot) (mode : LockMode) (entry : Option Record) (t : Trace) : Prop :=
  ∃ handle, ⟨.openFile slot.lock .append, .ok handle⟩ ∈ Trace.deeds t ∧
    ∃ moment ∈ t, moment.deed = ⟨.tryLock handle mode, .granted⟩ ∧ moment.before slot.name = entry

section

variable [Wire.Memory] {path name : String} {i : Option Insertion} {parts : Bool}
  {own : List Handle} {mode : LockMode} {handle : Handle} {entry : Option Record}

theorem Lasting.exists {α : Type} {P : α → Trace → Tracked → Prop}
    (h : ∀ a, Lasting path i parts own (P a)) :
    Lasting path i parts own fun t s => ∃ a, P a t s where
  opened := fun ⟨a, hP⟩ => (h a).opened hP
  lasts := fun ⟨a, hP⟩ ht hrely hs => ⟨a, (h a).lasts hP ht hrely hs⟩

theorem Continues.deeds {t t' : Trace} (h : Continues i parts t t') {deed : Deed}
    (hdeed : deed ∈ Trace.deeds t) : deed ∈ Trace.deeds t' := by
  obtain ⟨moment, hmem, rfl⟩ := List.mem_map.mp hdeed
  exact List.mem_map_of_mem (h.mem moment hmem)

theorem lasting_deed (deed : Deed) :
    Lasting path i parts [] fun t _ => deed ∈ Trace.deeds t :=
  ⟨fun _ => nofun, fun h ht _ _ => ht.deeds h⟩

theorem lasting_granted (slot : Slot) (mode : LockMode) (entry : Option Record) :
    Lasting path i parts [] fun t _ => Granted slot mode entry t := by
  refine ⟨fun _ => nofun, fun ⟨handle, hopen, moment, hmem, hlock⟩ ht _ _ => ?_⟩
  exact ⟨handle, ht.deeds hopen, moment, ht.mem moment hmem, hlock⟩

theorem lasting_gripping (path name : String) (mode : LockMode) (handle : Handle)
    (entry : Option Record) :
    Lasting path i parts [handle] (Gripping path name mode handle entry) where
  opened h _ hother := List.mem_singleton.mp hother ▸ h.mine
  lasts h ht hrely _ :=
    ⟨ht.opened h.mine, hrely.toSteady.grips (List.mem_singleton_self handle) h.grips,
      (hrely.ledger ⟨handle, List.mem_singleton_self handle, h.grips⟩).trans h.ledger⟩

theorem lasting_pointing (hname : ∀ other, name ≠ Slot.infoName other) (appends : Bool)
    (handle : Handle) :
    Lasting path i parts [handle] (Pointing path name appends handle) where
  opened h _ hother := List.mem_singleton.mp hother ▸ h.mine
  lasts := by
    rintro t t' s s' ⟨hmine, folder, node, lock, hfile, hleads, hentry⟩ ht hrely -
    exact ⟨ht.opened hmine, folder, node, lock,
      (hrely.files handle (List.mem_singleton_self handle)).trans hfile, hrely.leads hleads,
      hrely.entries hleads hentry hname⟩

theorem lasting_backed (hname : ∀ other, name ≠ Slot.infoName other) (handle : Handle) :
    Lasting path i parts [handle] (Backed path name handle) where
  opened h _ hother := List.mem_singleton.mp hother ▸ h.mine
  lasts := by
    rintro t t' s s' ⟨hmine, folder, file, hfile, hleads, hentry⟩ ht hrely -
    exact ⟨ht.opened hmine, folder, file,
      (hrely.files handle (List.mem_singleton_self handle)).trans hfile, hrely.leads hleads,
      hrely.entries hleads hentry hname⟩

/-- An info file stays where it is while its slot is gripped. -/
theorem Lasting.pointing_info {P : Trace → Tracked → Prop} (hP : Lasting path i parts own P)
    {gripped : Handle} (hown : gripped ∈ own)
    (hgrip : ∀ {t s}, P t s → Gripping path name mode gripped entry t s) (appends : Bool)
    (handle : Handle) :
    Lasting path i parts (own ++ [handle]) fun t s =>
      P t s ∧ Pointing path (Slot.infoName name) appends handle t s where
  opened h other hother := by
    rcases List.mem_append.mp hother with hother | hother
    · exact hP.opened h.1 other hother
    · exact List.mem_singleton.mp hother ▸ h.2.mine
  lasts := by
    rintro t t' s s' ⟨hPs, hmine, folder, node, lock, hfile, hleads, hentry⟩ ht hrely hs
    have hlast : handle ∈ own ++ [handle] := List.mem_append_right own (List.mem_singleton_self _)
    exact ⟨hP.lasts hPs ht (hrely.sub fun _ hother => List.mem_append_left [handle] hother) hs,
      ht.opened hmine, folder, node, lock, (hrely.files handle hlast).trans hfile,
      hrely.leads hleads, hrely.info hleads
        ⟨gripped, List.mem_append_left [handle] hown, (hgrip hPs).grips⟩ hentry⟩

end

/-! ### Opening a file of the cache folder -/

section

variable {path name : String} {s : Tracked} {mode : OpenMode} {handle : Handle}

theorem openFile_read {m : Machine} {other : String}
    (h : (m.perform (.openFile other .read)).1 = .ok handle) :
    ∃ node, m.disk.existing other false = .ok node ∧ handle = m.files.length ∧
      (m.perform (.openFile other .read)).2 = (m.addFile { node }).2 := by
  have hopen := m.openFile_read other
  cases hfound : m.existing other with
  | error e =>
    rw [hopen, hfound] at h
    cases h
  | ok node =>
    rw [hopen, hfound] at h
    cases h
    exact ⟨node, (Machine.existing_eq_ok.mp hfound).2, rfl, by rw [hopen, hfound]⟩

theorem openFile_ensure {m : Machine} {other : String} (hmode : mode = .append ∨ mode = .write)
    (h : (m.perform (.openFile other mode)).1 = .ok handle) :
    ∃ node disk, m.disk.ensureFile other = .ok (node, disk) ∧ handle = m.files.length ∧
      (m.perform (.openFile other mode)).2 =
        ({ m with disk }.addFile { node, appends := mode == OpenMode.append }).2 := by
  have hopen : m.perform (.openFile other mode) = _ := m.openFile_kept other mode (by
    rcases hmode with rfl | rfl <;> decide)
  cases hopening : m.opening other mode with
  | error e =>
    rw [hopen, hopening] at h
    cases h
  | ok made =>
    rw [hopen, hopening] at h
    cases h
    have hensure : m.disk.ensureFile other = .ok made :=
      ((Machine.opening_made mode (by rcases hmode with rfl | rfl <;> decide)
        (by rcases hmode with rfl | rfl <;> decide)).mp hopening).2
    exact ⟨made.1, made.2, hensure, rfl, by rw [hopen, hopening]⟩

theorem leads_of_ensureFile {disk disk' : Disk} {node : NodeId} (hname : Path.Plain name)
    (h : disk.ensureFile (Path.join path name) = .ok (node, disk')) :
    ∃ folder, disk.Leads path folder := by
  by_contra hno
  obtain ⟨e, he⟩ := Disk.ensureFile_of_not_leads (not_exists.mp hno) hname
  rw [h] at he
  cases he

variable [Wire.Memory]

/-- A file that was opened is a new open file, of the name it was opened by. -/
theorem pointing_of_open (hs : Sound path s) (hname : Path.Plain name)
    (hmode : mode = .read ∨ mode = .append ∨ mode = .write)
    (hleads : mode = .read → ∃ folder, s.machine.disk.Leads path folder)
    (hreply : (s.machine.perform (.openFile (Path.join path name) mode)).1 = .ok handle) (t : Trace) :
    handle = s.machine.files.length ∧ Disk.Nameable path name ∧
      Pointing path name (mode == OpenMode.append) handle
        (s.moment (.openFile (Path.join path name) mode) :: t)
        ⟨(s.machine.perform (.openFile (Path.join path name) mode)).2, s.ledger⟩ := by
  have hopened : (s.moment (.openFile (Path.join path name) mode)).deed.opened? = some handle := by
    simp only [Tracked.moment, hreply, Deed.opened?]
  have hmine : handle ∈ Trace.opened (s.moment (.openFile (Path.join path name) mode) :: t) := by
    rw [Trace.opened_cons_of_some hopened]
    exact List.mem_cons_self
  have hnew (disk : Disk) (node : NodeId) : ({ s.machine with disk }.addFile
      { node, appends := mode == OpenMode.append }).2.file? s.machine.files.length =
        some ⟨node, 0, mode == OpenMode.append, none⟩ := by
    rw [Machine.file?_addFile, if_pos rfl]
  rcases hmode with rfl | hensure
  · obtain ⟨node, hexisting, rfl, hafter⟩ := openFile_read hreply
    obtain ⟨folder, hleads⟩ := hleads rfl
    obtain ⟨htidy, -⟩ := hs.site.of_leads hleads
    obtain ⟨hcan, hentry⟩ := (Disk.existing_join hleads htidy trivial hname).mp hexisting
    refine ⟨rfl, hcan, hmine, folder, node, none, ?_⟩
    rw [hafter]
    exact ⟨hnew s.machine.disk node, hleads, hentry⟩
  · obtain ⟨node, disk, hfile, rfl, hafter⟩ := openFile_ensure hensure hreply
    obtain ⟨folder, hleads⟩ := leads_of_ensureFile hname hfile
    obtain ⟨htidy, -⟩ := hs.site.of_leads hleads
    have hcan := ((Disk.ensureFile_join hleads htidy trivial hname).mp hfile).1
    refine ⟨rfl, hcan, hmine, folder, node, none, ?_⟩
    rw [hafter]
    exact ⟨hnew disk node, Disk.child?_of_ensureFile hleads htidy trivial hname hfile⟩

end

section

variable [Wire.Memory] {path name : String} {i : Option Insertion}
  {parting : Trace → Tracked → Prop} {parts : Bool} {own : List Handle}
  {P : Trace → Tracked → Prop}

/-- What opening a file of the cache folder comes to. A failure tells `R`. -/
def Opened (path name : String) (mode : OpenMode) (own : List Handle) (R : SysError → Prop)
    (P : Trace → Tracked → Prop) (reply : Except SysError Handle) (t : Trace) (s : Tracked) : Prop :=
  match reply with
  | .error e => R e ∧ P t s
  | .ok handle => (handle ∉ own ∧ Disk.Nameable path name) ∧ P t s ∧
    Pointing path name (mode == OpenMode.append) handle t s ∧
    ⟨.openFile (Path.join path name) mode, .ok handle⟩ ∈ Trace.deeds t

theorem triple_open {mode : OpenMode} {R : SysError → Prop} (hP : Lasting path i parts own P)
    (hname : Path.Plain name) (hmode : mode = .read ∨ mode = .append ∨ mode = .write)
    (hleads : mode = .read → ∀ {t s}, P t s → ∃ folder, s.machine.disk.Leads path folder)
    (hR : ∀ {t s e}, Sound path s → P t s →
      (s.machine.perform (.openFile (Path.join path name) mode)).1 = .error e → R e) :
    Triple path i parting P (Routine.perform (.openFile (Path.join path name) mode))
      (Opened path name mode own R P) := by
  have haction : (Action.openFile (Path.join path name) mode).Harmless path := hmode
  refine .harmless hP.stable haction (fun _ => nofun) (fun _ _ => nofun) fun {t s} hs howned hPs => ?_
  have hkept := hP.harmless haction (fun _ => nofun) (fun _ _ => nofun) hs howned hPs
  cases hreply : (s.machine.perform (.openFile (Path.join path name) mode)).1 with
  | error e => exact ⟨hR hs hPs hreply, hkept⟩
  | ok handle =>
    obtain ⟨hnew, hcan, hpointing⟩ :=
      pointing_of_open hs hname hmode (fun hread => hleads hread hPs) hreply t
    refine ⟨⟨fun hmem => ?_, hcan⟩, hkept, hpointing, ?_⟩
    · exact absurd (howned handle (hP.opened hPs handle hmem)).1 (hnew ▸ Nat.lt_irrefl _)
    · rw [Trace.deeds_cons, Tracked.moment, hreply]
      exact List.mem_cons_self

end

/-! ### Taking a slot's lock -/

section

variable {i : Option Insertion} {parting : Trace → Tracked → Prop} {parts : Bool}
  {own : List Handle} {P : Trace → Tracked → Prop}

theorem tryLock_granted {m : Machine} {handle : Handle} {mode : LockMode}
    (h : (m.perform (.tryLock handle mode)).1 = .granted) :
    ∃ file, m.file? handle = some file ∧ (m.perform (.tryLock handle mode)).2 =
      m.setFile handle (some { file with lock := some mode }) := by
  simp only [Machine.perform, Machine.tryLock] at h ⊢
  split at h
  · cases h
  · rename_i file hfile
    split at h
    · cases h
    · rename_i hfree
      exact ⟨file, hfile, by simp only [if_neg hfree]⟩

/-- An open file that is locked stays what it is otherwise. -/
theorem Pointing.locked {path name : String} {appends : Bool} {handle : Handle} {mode : LockMode}
    {t : Trace} {s : Tracked} (h : Pointing path name appends handle t s)
    (hgranted : (s.machine.perform (.tryLock handle mode)).1 = .granted) :
    ∃ folder node, (s.machine.perform (.tryLock handle mode)).2.file? handle =
        some ⟨node, 0, appends, some mode⟩ ∧
      (s.machine.perform (.tryLock handle mode)).2.disk.Leads path folder ∧
      (s.machine.perform (.tryLock handle mode)).2.disk.child? folder name = some node := by
  obtain ⟨-, folder, node, lock, hfile, hleads, hentry⟩ := h
  obtain ⟨file, hfile', hafter⟩ := tryLock_granted hgranted
  rw [hfile] at hfile'
  cases hfile'
  refine ⟨folder, node, ?_⟩
  rw [hafter, Machine.file?_setFile_of_some hfile, if_pos rfl]
  exact ⟨rfl, hleads, hentry⟩

variable [Wire.Memory]

/-- What taking a slot's lock comes to. -/
def Acquired (slot : Slot) (mode : LockMode) (own : List Handle) (P : Trace → Tracked → Prop)
    (result : Except LockError FileLock) (t : Trace) (s : Tracked) : Prop :=
  match result with
  | .error _ => P t s
  | .ok lock => (lock.handle ∉ own ∧ Disk.Nameable slot.folder (Slot.lockName slot.name)) ∧
    P t s ∧ ∃ entry,
    Gripping slot.folder slot.name mode lock.handle entry t s ∧ Granted slot mode entry t

/-- A slot's lock file is opened in the first way or not at all. -/
theorem triple_openLock (slot : Slot) (hP : Lasting slot.folder i parts own P) :
    Triple slot.folder i parting P (FileLock.openLock slot.lock)
      (Opened slot.folder (Slot.lockName slot.name) .append own (fun _ => True) P) := by
  have hopen : Triple slot.folder i parting P
      (Routine.perform (.openFile (Path.join slot.folder (Slot.lockName slot.name)) .append))
      (Opened slot.folder (Slot.lockName slot.name) .append own (·.forbids = false) P) :=
    triple_open hP slot.plain_lockName (.inr (.inl rfl)) nofun fun hs _ hreply =>
      openFile_allowed (hs.unrestricted _ _) hreply
  rw [← slot.lock_eq] at hopen
  refine .bind hopen fun reply => ?_
  cases reply with
  | ok handle => exact .done fun _ _ _ h => h
  | error e =>
    refine .pure_left fun hallowed => ?_
    simp only [hallowed]
    exact .done fun _ _ _ h => ⟨trivial, h⟩

theorem triple_acquire (slot : Slot) (hP : Lasting slot.folder i parts own P) (mode : LockMode)
    (policy : RetryPolicy) :
    Triple slot.folder i parting P (FileLock.acquire slot.lock mode policy)
      (Acquired slot mode own P) := by
  refine .bind (triple_openLock slot hP) fun reply => ?_
  cases reply with
  | error e => exact .done fun _ _ _ h => h.2
  | ok handle =>
    refine .pure_left fun ⟨hapart, hcan⟩ => ?_
    have hlock (other : String) : Slot.lockName slot.name ≠ Slot.infoName other :=
      (Slot.infoName_ne_lockName other slot.name).symm
    have hopened := hP.and ((lasting_pointing hlock true handle).and
      (lasting_deed ⟨.openFile (Path.join slot.folder (Slot.lockName slot.name)) .append, .ok handle⟩))
    have hgripping := hP.and (.exists fun entry =>
      (lasting_gripping slot.folder slot.name mode handle entry).and (lasting_granted slot mode entry))
    refine (triple_lockFile hopened hgripping (fun h => h.2.1.mine) ?_ hP hapart (fun h => h.1)
      slot.lock policy).weaken (fun _ _ h => h) fun result t s _ h => ?_
    · rintro t s hs howned ⟨hPs, hpointing, hdeed⟩ hgranted
      obtain ⟨folder, node, hfile, hleads, hentry⟩ := hpointing.locked hgranted
      have haction : (Action.tryLock handle mode).Harmless slot.folder := trivial
      refine ⟨hP.harmless haction (fun _ _ => nofun) (fun other hother hmem => ?_) hs howned hPs,
        s.ledger slot.name, ⟨Trace.mem_opened_cons hpointing.mine _,
          ⟨⟨node, 0, true, some mode⟩, folder, hfile, rfl, hleads, hentry⟩, rfl⟩,
        handle, List.mem_cons_of_mem _ (slot.lock_eq ▸ hdeed), s.moment (.tryLock handle mode),
        List.mem_cons_self, ?_, rfl⟩
      · obtain rfl := List.mem_singleton.mp hmem
        exact hapart hother
      · rw [Tracked.moment, hgranted]
    · cases result with
      | error e => exact h
      | ok lock =>
        obtain ⟨rfl, hPs, hgrip⟩ := h
        exact ⟨⟨hapart, hcan⟩, hPs, hgrip⟩

end

end ScriptCache
