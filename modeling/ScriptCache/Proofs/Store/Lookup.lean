import Mathlib
import ScriptCache.Proofs.Slot.Inspection
import ScriptCache.Proofs.Store.Gripping

/-! What a lookup answers.

While a lookup has its slot's lock, the ledger's entry for the slot stays what it was when the
lock was granted. The info file then is that of an insertion which came to its last stage, or is
illegible; in the first case the artifact is that insertion's too. So `triple_lookup`: the answer
is what the entry says (`Served`), whatever others do meanwhile, unless a lock was not to be had
or the artifact was missing before any lock was asked for. -/
namespace ScriptCache

/-! ### What an entry is worth to a lookup -/

/-- The insertion of an entry, if it came to its last stage. -/
def Record.whole? (entry : Option Record) : Option Insertion :=
  entry.bind fun r => if r.stage = .whole then some r.insertion else none

/-- Whether the artifact of an insertion is of use to a lookup. -/
def Insertion.Serves (i : Insertion) (dependencies : DependencyTable) (signature : Bytes) : Prop :=
  i.metadata.matchesArtifact i.artifact = true ∧
    i.metadata.dependencies.entries.Perm dependencies.entries ∧ i.metadata.signature = signature

/-- Whether a lookup that had its locks answers as an entry says. -/
structure Served (slot : Slot) (dependencies : DependencyTable) (signature : Bytes)
    (entry : Option Record) (outcome : LookupOutcome) : Prop where
  whole : outcome ≠ .brokenOff
  locked : ∀ e, outcome ≠ .miss (.lockUnavailable e)
  hit_iff : ∀ hit, outcome = .hit hit ↔ ∃ i, Record.whole? entry = some i ∧
    i.Serves dependencies signature ∧ hit = ⟨slot.artifact, i.artifact, i.metadata⟩

section

variable {slot : Slot} {dependencies : DependencyTable} {signature : Bytes} {entry : Option Record}
  {disk : Disk} {path name : String} {folder : NodeId}

theorem Record.whole?_eq_some {i : Insertion} :
    Record.whole? entry = some i ↔ entry = some ⟨i, .whole⟩ := by
  cases entry with
  | none => simp [Record.whole?]
  | some r =>
    obtain ⟨insertion, stage⟩ := r
    cases stage <;> simp [Record.whole?]

/-- A slot in which no insertion came to its last stage has no legible info file. -/
theorem Filed.illegible [Wire.Memory] (h : Filed entry disk path folder name)
    (hwhole : Record.whole? entry = none) :
    ∀ content ∈ disk.content? folder (Slot.infoName name), Metadata.Illegible content := by
  cases entry with
  | none => exact h
  | some r =>
    obtain ⟨insertion, stage⟩ := r
    have hinfo := Record.Filed.info h
    cases stage with
    | whole => cases hwhole
    | opened =>
      have hempty : disk.content? folder (Slot.infoName name) = some [] := hinfo
      rw [hempty]
      rintro _ ⟨rfl⟩
      exact Metadata.illegible_nil
    | _ => exact hinfo

theorem served_miss {reason : MissReason} (hreason : ∀ e, reason ≠ .lockUnavailable e)
    (hwhole : Record.whole? entry = none) :
    Served slot dependencies signature entry (.miss reason) := by
  refine ⟨nofun, fun e heq => hreason e (LookupOutcome.miss.inj heq), fun hit => ⟨nofun, ?_⟩⟩
  rintro ⟨i, hi, -⟩
  rw [hwhole] at hi
  cases hi

theorem served_judge {i : Insertion} (hwhole : Record.whole? entry = some i) (slot : Slot)
    (dependencies : DependencyTable) (signature : Bytes) :
    (∃ reason, i.metadata.judge dependencies signature = .stale reason ∧
      Served slot dependencies signature entry (.miss (.stale reason))) ∨
    i.metadata.judge dependencies signature = .valid i.metadata ∧
      Served slot dependencies signature entry (Store.accept slot i.metadata i.artifact) := by
  rcases judge_cases i.metadata dependencies signature with
    ⟨reason, hjudge, hstale⟩ | ⟨hjudge, hfresh⟩
  · refine .inl ⟨reason, hjudge, nofun, nofun, fun hit => ⟨nofun, ?_⟩⟩
    rintro ⟨j, hj, hserves, -⟩
    rw [hwhole] at hj
    cases hj
    exact absurd ⟨hserves.2.1, hserves.2.2⟩ hstale
  · refine .inr ⟨hjudge, ?_⟩
    by_cases hmatches : i.metadata.matchesArtifact i.artifact = true
    · rw [Store.accept, if_pos hmatches]
      refine ⟨nofun, nofun, fun hit => ⟨?_, ?_⟩⟩
      · rintro ⟨rfl⟩
        exact ⟨i, hwhole, ⟨hmatches, hfresh⟩, rfl⟩
      · rintro ⟨j, hj, -, rfl⟩
        rw [hwhole] at hj
        cases hj
        rfl
    · rw [Store.accept, if_neg hmatches]
      refine ⟨nofun, nofun, fun hit => ⟨nofun, ?_⟩⟩
      rintro ⟨j, hj, hserves, -⟩
      rw [hwhole] at hj
      cases hj
      exact absurd hserves.1 hmatches

end

/-! ### Reading under the slot's lock -/

section

variable [Wire.Memory]

variable {i : Option Insertion} {parting : Trace → Tracked → Prop} {parts : Bool}
  {path : String} {own own' : List Handle} {K P : Trace → Tracked → Prop} {α : Type}

/-- Reading a file of the cache folder from its start gives its content. -/
theorem triple_readRest {name : String} {file : Handle} {R : Except SysError Bytes → Prop}
    (hP : Lasting path i parts own' P) (hK : Lasting path i parts own K) (hapart : file ∉ own)
    (hkeep : ∀ {t s}, P t s → K t s) (hpointing : ∀ {t s}, P t s → Pointing path name false file t s)
    (hR : ∀ {t s folder content}, Sound path s → P t s → s.machine.disk.Leads path folder →
      s.machine.disk.content? folder name = some content → R (.ok content)) :
    Triple path i parting P (Routine.perform (.readRest file)) fun reply t s =>
      R reply ∧ K t s := by
  have haction : (Action.readRest file).Harmless path := trivial
  refine .harmless hP.stable haction (fun hPs other hmem => ?_) (fun _ _ => nofun)
    fun {t s} hs howned hPs => ⟨?_, hK.harmless haction (fun _ => nofun) (fun other hother hmem => ?_)
      hs howned (hkeep hPs)⟩
  · obtain rfl := List.mem_singleton.mp hmem
    exact (hpointing hPs).mine
  · obtain ⟨-, folder, node, lock, hfile, hleads, hentry⟩ := hpointing hPs
    obtain ⟨content, hcontent⟩ := (hs.site.of_leads hleads).1.file trivial hentry
    have hreply : (s.machine.perform (.readRest file)).1 = .ok content := by
      simp [Machine.perform, Machine.readRest, hfile, Disk.fileContent?_eq_some.mp hcontent]
    rw [hreply]
    exact hR hs hPs hleads ((Disk.content?_of_child? hentry).trans hcontent)
  · obtain rfl := List.mem_singleton.mp hmem
    exact hapart hother

end

/-! ### The info file -/

section

variable {i : Option Insertion} {parting : Trace → Tracked → Prop} {slot : Slot}
  {dependencies : DependencyTable} {signature : Bytes} {entry : Option Record} {handle : Handle}
  {own : List Handle} {P : Trace → Tracked → Prop}

/-- A file that is there can be opened. -/
theorem openFile_read_ok {m : Machine} {path name : String} {folder node : NodeId}
    (hunrestricted : m.Unrestricted) (hleads : m.disk.Leads path folder) (htidy : m.disk.Tidy folder)
    (hname : Path.Plain name) (hcan : Disk.Nameable path name)
    (hentry : m.disk.child? folder name = some node) :
    (m.perform (.openFile (Path.join path name) .read)).1 = .ok m.files.length := by
  have hexisting : m.existing (Path.join path name) = .ok node :=
    Machine.existing_eq_ok.mpr ⟨hunrestricted _ _,
      (Disk.existing_join hleads htidy trivial hname).mpr ⟨hcan, hentry⟩⟩
  rw [m.openFile_read, hexisting]

variable [Wire.Memory]

/-- What is read from an info file under its slot's lock. -/
def InfoRead (entry : Option Record) : Except SysError Bytes → Prop
  | .error _ => Record.whole? entry = none
  | .ok raw => match Record.whole? entry with
    | some i => i.metadata.Fits ∧ raw = i.metadata.encode
    | none => Metadata.Illegible raw

theorem Gripping.filed {path name : String} {mode : LockMode} {t : Trace} {s : Tracked}
    (h : Gripping path name mode handle entry t s) (hs : Sound path s) :
    ∃ folder, s.machine.disk.Leads path folder ∧ s.machine.disk.Tidy folder ∧
      Filed entry s.machine.disk path folder name := by
  obtain ⟨-, folder, -, -, hleads, -⟩ := h.grips
  obtain ⟨htidy, hfiled⟩ := hs.site.of_leads hleads
  exact ⟨folder, hleads, htidy, h.ledger ▸ hfiled name⟩

theorem triple_readInfo (hP : Lasting slot.folder i false own P) (hown : handle ∈ own)
    (hgrip : ∀ {t s}, P t s → Gripping slot.folder slot.name .shared handle entry t s) :
    Triple slot.folder i parting P (Files.read slot.info) fun result t s =>
      InfoRead entry result ∧ P t s := by
  have hopen : Triple slot.folder i parting P (Routine.perform (.openFile slot.info .read))
      (Opened slot.folder (Slot.infoName slot.name) .read own (fun _ => Record.whole? entry = none) P) := by
    rw [slot.info_eq]
    refine triple_open hP slot.plain_infoName (.inl rfl) (fun _ {t s} h => ?_)
      fun {t s e} hs h hreply => ?_
    · obtain ⟨-, folder, -, -, hleads, -⟩ := (hgrip h).grips
      exact ⟨folder, hleads⟩
    · by_contra hne
      obtain ⟨j, hj⟩ := Option.ne_none_iff_exists'.mp hne
      obtain ⟨folder, hleads, htidy, hfiled⟩ := (hgrip h).filed hs
      rw [Record.whole?_eq_some.mp hj] at hfiled
      have hinfo : s.machine.disk.content? folder (Slot.infoName slot.name) =
        some j.metadata.encode := Record.Filed.info hfiled
      obtain ⟨node, hentry, -⟩ := Disk.content?_eq_some.mp hinfo
      rw [openFile_read_ok hs.unrestricted hleads htidy slot.plain_infoName
        (Record.Filed.infoNameable hfiled) hentry] at hreply
      cases hreply
  refine .bind hopen fun reply => ?_
  cases reply with
  | error e => exact .done fun _ _ _ h => h
  | ok file =>
    refine .pure_left fun ⟨hapart, _⟩ => ?_
    have hread : Triple slot.folder i parting (fun t s => P t s ∧
          Pointing slot.folder (Slot.infoName slot.name) false file t s)
        (Routine.perform (.readRest file)) fun reply t s => InfoRead entry reply ∧ P t s := by
      refine triple_readRest (hP.pointing_info hown hgrip false file) hP hapart (fun h => h.1)
        (fun h => h.2) fun {t s folder content} hs h hleads hcontent => ?_
      obtain ⟨folder', hleads', -, hfiled⟩ := (hgrip h.1).filed hs
      obtain rfl := hleads.unique hleads'
      cases hwhole : Record.whole? entry with
      | none =>
        simp only [InfoRead, hwhole]
        exact hfiled.illegible hwhole content hcontent
      | some j =>
        rw [Record.whole?_eq_some.mp hwhole] at hfiled
        have hinfo : s.machine.disk.content? folder (Slot.infoName slot.name) =
          some j.metadata.encode := Record.Filed.info hfiled
        rw [hcontent] at hinfo
        simp only [InfoRead, hwhole]
        exact ⟨Record.Filed.fits hfiled, Option.some.inj hinfo⟩
    exact Triple.closing (hread.weaken (fun _ _ h => ⟨h.1, h.2.1⟩) fun _ _ _ _ h => h)
      (fun reply => (lasting_pure (InfoRead entry reply)).and hP) hapart fun _ _ h => h.2.1.mine

/-- What the info file of a slot is found to be under the slot's lock. -/
def Inspected (dependencies : DependencyTable) (signature : Bytes) (entry : Option Record)
    (outcome : InfoOutcome) : Prop :=
  match Record.whole? entry with
  | some i => outcome = i.metadata.judge dependencies signature
  | none => outcome = .missing ∨ ∃ reason, outcome = .corrupt reason

theorem triple_inspect (hP : Lasting slot.folder i false own P) (hown : handle ∈ own)
    (hgrip : ∀ {t s}, P t s → Gripping slot.folder slot.name .shared handle entry t s) :
    Triple slot.folder i parting P (Metadata.inspect slot.info dependencies signature)
      fun outcome t s => Inspected dependencies signature entry outcome ∧ P t s := by
  refine .bind (triple_readInfo hP hown hgrip) fun result => .pure_left fun hread => ?_
  cases hwhole : Record.whole? entry with
  | some j =>
    cases result with
    | error e =>
      rw [InfoRead, hwhole] at hread
      cases hread
    | ok raw =>
      simp only [InfoRead, hwhole] at hread
      obtain ⟨hfits, rfl⟩ := hread
      simp only [Metadata.decode_encode hfits]
      exact .done fun _ _ _ h => ⟨by rw [Inspected, hwhole], h⟩
  | none =>
    have hinspected {outcome : InfoOutcome}
        (h : outcome = .missing ∨ ∃ reason, outcome = .corrupt reason) :
        Inspected dependencies signature entry outcome := by
      rwa [Inspected, hwhole]
    cases result with
    | error e =>
      by_cases hmissing : e = .notFound
      · subst hmissing
        exact .done fun _ _ _ h => ⟨hinspected (.inl rfl), h⟩
      · cases e <;> first
          | exact .done fun _ _ _ h => ⟨hinspected (.inr ⟨_, rfl⟩), h⟩
          | exact absurd rfl hmissing
    | ok raw =>
      simp only [InfoRead, hwhole] at hread
      obtain ⟨flaw, hdecode, hbreaks⟩ := hread
      simp only [hdecode, hbreaks, Bool.false_eq_true, if_false]
      refine .bind (.say hP _) fun _ => ?_
      exact .done fun _ _ _ h => ⟨hinspected (.inr ⟨_, rfl⟩), h⟩

/-! ### The whole lookup -/

theorem triple_readSlot {file : Handle} (hapart : file ∉ [handle]) :
    Triple slot.folder i parting (fun t s =>
        Gripping slot.folder slot.name .shared handle entry t s ∧
          Pointing slot.folder (Slot.artifactName slot.name) false file t s)
      (Store.readSlot slot file dependencies signature)
      fun outcome _ _ => Served slot dependencies signature entry outcome := by
  have hgripping : Lasting slot.folder i false [handle]
      (Gripping slot.folder slot.name .shared handle entry) := lasting_gripping _ _ _ handle entry
  have hP := hgripping.and (lasting_pointing (Slot.artifactName_ne_infoName slot.name) false file)
  have hown : handle ∈ [handle] ++ [file] := List.mem_append_left _ (List.mem_singleton_self handle)
  refine .bind (triple_inspect hP hown fun h => h.1) fun outcome => .pure_left fun hinspected => ?_
  cases hwhole : Record.whole? entry with
  | none =>
    rw [Inspected, hwhole] at hinspected
    rcases hinspected with rfl | ⟨reason, rfl⟩
    · exact .done fun _ _ _ _ => served_miss nofun hwhole
    · exact .done fun _ _ _ _ => served_miss nofun hwhole
  | some j =>
    rw [Inspected, hwhole] at hinspected
    subst hinspected
    rcases served_judge hwhole slot dependencies signature with
      ⟨reason, hjudge, hserved⟩ | ⟨hjudge, hserved⟩
    · simp only [hjudge]
      exact .done fun _ _ _ _ => hserved
    · simp only [hjudge]
      have hread : Triple slot.folder i parting (fun t s =>
          Gripping slot.folder slot.name .shared handle entry t s ∧
            Pointing slot.folder (Slot.artifactName slot.name) false file t s)
          (Routine.perform (.readRest file)) fun reply t s => reply = .ok j.artifact ∧
            Gripping slot.folder slot.name .shared handle entry t s := by
        refine triple_readRest hP hgripping hapart (fun h => h.1) (fun h => h.2)
          fun {t s folder content} hs h hleads hcontent => ?_
        obtain ⟨folder', hleads', -, hfiled⟩ := h.1.filed hs
        obtain rfl := hleads.unique hleads'
        rw [Record.whole?_eq_some.mp hwhole] at hfiled
        obtain ⟨content', hcontent', hdue⟩ := Record.Filed.artifact hfiled
        rw [hcontent] at hcontent'
        cases hcontent'
        rw [hdue j.artifact rfl]
      refine .bind hread fun reply => .pure_left fun hreply => ?_
      subst hreply
      exact .done fun _ _ _ _ => hserved

theorem granting_read {file : Handle} (hapart : file ∉ [handle]) :
    Granting slot.folder file .shared
      (fun t s => Gripping slot.folder slot.name .shared handle entry t s ∧
        Pointing slot.folder (Slot.artifactName slot.name) false file t s)
      (fun t s => Gripping slot.folder slot.name .shared handle entry t s ∧
        Pointing slot.folder (Slot.artifactName slot.name) false file t s) := by
  rintro t s hs howned ⟨hgrip, hpointing⟩ hgranted
  have haction : (Action.tryLock file .shared).Harmless slot.folder := trivial
  have hgripping : Lasting slot.folder none true [handle]
      (Gripping slot.folder slot.name .shared handle entry) := lasting_gripping _ _ _ handle entry
  obtain ⟨folder, node, hfile, hleads, hentry⟩ := hpointing.locked hgranted
  refine ⟨hgripping.harmless haction nofun (fun other hother hmem => ?_) hs howned hgrip,
    Trace.mem_opened_cons hpointing.mine _, folder, node, _, hfile, hleads, hentry⟩
  obtain rfl := List.mem_singleton.mp hmem
  exact hapart hother

/-- What a lookup comes to that has its slot's lock. -/
def Found (slot : Slot) (dependencies : DependencyTable) (signature : Bytes)
    (entry : Option Record) (outcome : LookupOutcome) : Prop :=
  (∃ e, outcome = .miss (.lockUnavailable e)) ∨ Served slot dependencies signature entry outcome

/-- The artifact of a slot whose lock is held can be opened, unless there is none. -/
theorem triple_openArtifact : Triple slot.folder i (fun _ _ => True)
    (Gripping slot.folder slot.name .shared handle entry)
    (Routine.perform (.openFile slot.artifact .read)) (Opened slot.folder
      (Slot.artifactName slot.name) .read [handle] (fun _ => entry = none)
      (Gripping slot.folder slot.name .shared handle entry)) := by
  have hgripping : Lasting slot.folder i false [handle]
      (Gripping slot.folder slot.name .shared handle entry) := lasting_gripping _ _ _ handle entry
  rw [slot.artifact_eq]
  refine triple_open hgripping slot.plain_artifactName (.inl rfl) (fun _ {t s} h => ?_)
    fun {t s e} hs h hreply => ?_
  · obtain ⟨-, folder, -, -, hleads, -⟩ := h.grips
    exact ⟨folder, hleads⟩
  · by_contra hne
    obtain ⟨r, rfl⟩ := Option.ne_none_iff_exists'.mp hne
    obtain ⟨folder, hleads, htidy, hfiled⟩ := h.filed hs
    obtain ⟨content, hcontent, -⟩ := Record.Filed.artifact hfiled
    obtain ⟨node, hentry, -⟩ := Disk.content?_eq_some.mp hcontent
    rw [openFile_read_ok hs.unrestricted hleads htidy slot.plain_artifactName
      (Record.Filed.artifactNameable hfiled) hentry] at hreply
    cases hreply

theorem triple_lookupLocked (policy : RetryPolicy) :
    Triple slot.folder i (fun _ _ => True) (Gripping slot.folder slot.name .shared handle entry)
      (Store.lookupLocked policy slot dependencies signature)
      fun outcome _ _ => Found slot dependencies signature entry outcome := by
  have hgripping : Lasting slot.folder i false [handle]
      (Gripping slot.folder slot.name .shared handle entry) := lasting_gripping _ _ _ handle entry
  have hfound (outcome : LookupOutcome) : Lasting slot.folder i true [] fun _ _ =>
    Found slot dependencies signature entry outcome := lasting_pure _
  refine .bind triple_openArtifact fun reply => ?_
  cases reply with
  | error e =>
    refine .pure_left fun hnone => ?_
    have hserved : Found slot dependencies signature entry (.miss .artifactMissing) :=
      .inr (served_miss nofun (by rw [hnone]; rfl))
    by_cases hmissing : e = .notFound
    · subst hmissing
      exact .done fun _ _ _ _ => hserved
    · have hsay : Triple slot.folder i (fun _ _ => True)
          (Gripping slot.folder slot.name .shared handle entry) (do
            Routine.say (Store.noArtifact slot e)
            return LookupOutcome.miss .artifactMissing)
          fun outcome _ _ => Found slot dependencies signature entry outcome :=
        .bind (.say hgripping _) fun _ => .done fun _ _ _ _ => hserved
      cases e <;> first | exact hsay | exact absurd rfl hmissing
  | ok file =>
    refine .pure_left fun ⟨hapart, _⟩ => ?_
    have hP := hgripping.and (lasting_pointing (Slot.artifactName_ne_infoName slot.name) false file)
    refine .bind ((triple_lockFile hP hP (fun h => h.2.mine) (granting_read hapart) hgripping hapart
      (fun h => h.1) slot.artifact policy).weaken (fun _ _ h => ⟨h.1, h.2.1⟩) fun _ _ _ _ h => h)
      fun result => ?_
    cases result with
    | error e => exact .bind (.say hgripping _) fun _ => .done fun _ _ _ _ => .inl ⟨e, rfl⟩
    | ok lock =>
      refine .pure_left fun hlocked => ?_
      subst hlocked
      refine triple_during ((triple_readSlot hapart).weaken (fun _ _ h => h)
        fun _ _ _ _ h => .inr h) hfound hfound nofun (fun _ _ h => h.2.mine)
        (fun _ _ => trivial) fun h => h

omit [Wire.Memory] in
theorem granted_cons {mode : LockMode} {moment : Moment} {t : Trace}
    (h : Granted slot mode entry t) : Granted slot mode entry (moment :: t) := by
  obtain ⟨handle, hopen, other, hmem, hlock⟩ := h
  exact ⟨handle, List.mem_cons_of_mem _ hopen, other, List.mem_cons_of_mem _ hmem, hlock⟩

/-- How a lookup comes to its answer. -/
inductive Answer (store : Store) (slot : Slot) (dependencies : DependencyTable)
    (signature : Bytes) (t : Trace) (outcome : LookupOutcome) : Prop where
  | bypassed (forced : store.force = true) (miss : outcome = .miss .bypassed)
  /-- A lock was not to be had. -/
  | locked (error : LockError) (miss : outcome = .miss (.lockUnavailable error))
  /-- No artifact was there before any lock was asked for. -/
  | missing (miss : outcome = .miss .artifactMissing) (moment : Moment) (mem : moment ∈ t)
    (free : moment.before slot.name = none)
  | served (entry : Option Record) (granted : Granted slot .shared entry t)
    (served : Served slot dependencies signature entry outcome)

theorem lasting_answer (store : Store) (outcome : LookupOutcome) :
    Lasting slot.folder i true [] fun t _ =>
      Answer store slot dependencies signature t outcome := by
  refine ⟨fun _ => nofun, fun {t t' s s'} h ht hrely hs => ?_⟩
  cases h with
  | bypassed forced miss => exact .bypassed forced miss
  | locked error miss => exact .locked error miss
  | missing miss moment mem free => exact .missing miss moment (ht.mem moment mem) free
  | served entry granted served =>
    exact .served entry ((lasting_granted slot .shared entry).lasts granted ht (hrely.sub nofun) hs)
      served

/-- Where an artifact is not there, no insertion got to the slot. -/
theorem ledger_of_not_exists {s : Tracked} (hs : Sound slot.folder s)
    (h : s.machine.disk.exists? slot.artifact = false) : s.ledger slot.name = none := by
  rcases hs.site with ⟨-, hnone⟩ | ⟨folder, hleads, htidy, hfiled⟩
  · exact hnone slot.name
  · by_contra hne
    obtain ⟨r, hr⟩ := Option.ne_none_iff_exists'.mp hne
    have hslot := hfiled slot.name
    rw [hr] at hslot
    obtain ⟨content, hcontent, -⟩ := Record.Filed.artifact hslot
    obtain ⟨node, hentry, -⟩ := Disk.content?_eq_some.mp hcontent
    have hexists := (Disk.exists?_join hleads htidy trivial slot.plain_artifactName).mpr
      ⟨Record.Filed.artifactNameable hslot, node, hentry⟩
    rw [slot.artifact_eq, hexists] at h
    cases h

theorem triple_search (store : Store) :
    Triple slot.folder i (fun _ _ => True) (fun _ _ => True)
      (store.search slot dependencies signature)
      fun outcome t _ => Answer store slot dependencies signature t outcome := by
  have htrue : Lasting slot.folder i true [] fun _ _ => True := lasting_pure True
  unfold Store.search
  by_cases hforce : store.force = true
  · rw [if_pos hforce]
    exact .done fun _ _ _ _ => .bypassed hforce rfl
  · rw [if_neg hforce]
    have hexists : Triple slot.folder i (fun _ _ => True) (fun _ _ => True)
        (Routine.perform (.fileExists slot.artifact)) fun reply t _ =>
          reply = false → ∃ moment ∈ t, moment.before slot.name = none := by
      have haction : (Action.fileExists slot.artifact).Harmless slot.folder := trivial
      refine .harmless htrue.stable haction (fun _ => nofun) (fun _ _ => nofun)
        fun {t s} hs howned _ hreply => ?_
      exact ⟨s.moment (.fileExists slot.artifact), List.mem_cons_self, ledger_of_not_exists hs hreply⟩
    refine .bind hexists fun reply => ?_
    cases reply with
    | false =>
      refine .done fun t s _ h => ?_
      obtain ⟨moment, hmem, hfree⟩ := h rfl
      exact .missing rfl moment hmem hfree
    | true =>
      refine .bind ((triple_acquire slot htrue .shared store.policy).weaken (fun _ _ _ => trivial)
        fun _ _ _ _ h => h) fun result => ?_
      cases result with
      | error e => exact .bind (.say htrue _) fun _ => .done fun _ _ _ _ => .locked e rfl
      | ok lock =>
        have hwork (entry : Option Record) : Triple slot.folder i (fun _ _ => True)
            (fun t s => Gripping slot.folder slot.name .shared lock.handle entry t s ∧
              Granted slot .shared entry t)
            (Store.lookupLocked store.policy slot dependencies signature)
            fun outcome t _ => Answer store slot dependencies signature t outcome := by
          have hlocked : Triple slot.folder i (fun _ _ => True) (fun t s =>
              Gripping slot.folder slot.name .shared lock.handle entry t s ∧
                Granted slot .shared entry t)
              (Store.lookupLocked store.policy slot dependencies signature)
              fun outcome _ _ => Found slot dependencies signature entry outcome :=
            (triple_lookupLocked store.policy).weaken (fun _ _ h => h.1) fun _ _ _ _ h => h
          refine (hlocked.remember granted_cons fun _ _ h => h.2).weaken (fun _ _ h => h)
            fun outcome t s _ h => ?_
          rcases h with ⟨⟨e, rfl⟩ | hserved, hgranted⟩
          · exact .locked e rfl
          · exact .served entry hgranted hserved
        refine (triple_during (.exists_left hwork) (lasting_answer store) (lasting_answer store)
          nofun ?_ (fun _ _ => trivial) fun h => h).weaken (fun _ _ h => h.2.2) fun _ _ _ _ h => h
        rintro t s ⟨entry, hgrip, -⟩
        exact hgrip.mine

/-- A lookup answers as the ledger's entry for the slot said when the slot's lock was granted. -/
theorem triple_lookup (store : Store) :
    Triple slot.folder i (fun _ _ => True) (fun _ _ => True)
      (store.lookup slot dependencies signature)
      fun outcome t _ => Answer store slot dependencies signature t outcome := by
  have hsayAll (outcome : LookupOutcome) (events : List Event) :
      Triple slot.folder i (fun _ _ => True)
        (fun t _ => Answer store slot dependencies signature t outcome) (Routine.sayAll events)
        fun _ t _ => Answer store slot dependencies signature t outcome := by
    induction events with
    | nil => exact .done fun _ _ _ h => h
    | cons event events ih => exact .bind (.say (lasting_answer store outcome) event) fun _ => ih
  exact .bind (triple_search store) fun outcome => .bind (hsayAll outcome _) fun _ =>
    .done fun _ _ _ h => h

end

end ScriptCache
