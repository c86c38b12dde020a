import Mathlib
import ScriptCache.Proofs.Machine.Folder

/-! What a path to a folder, and the paths of the files in it, come to.

`Leads` says that a path leads to a folder, `Absent` that it runs into a name that is missing or
a file's. Files and folders only ever come into being under a name that was free
(`ensureFile_added`, `makeFolder_added`); that keeps a path to a folder, and an absent folder
stays absent or comes to be empty (`Absent.of_added`).

In a folder where names stand for regular files (`Neat`, `Tidy`), what the paths of these files come
to is read off the entries (`exists?_join`, `existing_join`, `ensureFile_join`, `unlink_join`). -/
namespace ScriptCache.Disk

variable {d d' : Disk} {path name : String} {folder : NodeId}

/-! ### Paths that lead to a folder -/

/-- A walk from where a path starts. -/
def walkFrom (d : Disk) (path : String) (ps : List String) : Except SysError Place :=
  d.walk true linkLimit (d.start path).1 (d.start path).2 ps

/-- Whether a path leads to a folder. -/
def Leads (d : Disk) (path : String) (folder : NodeId) : Prop :=
  d.IsFolder folder ∧ ∃ entry, d.walkFrom path (Path.parts path) = .ok (.taken folder entry)

theorem Leads.unique {other : NodeId} (h : d.Leads path folder) (h' : d.Leads path other) :
    folder = other := by
  obtain ⟨-, entry, hwalk⟩ := h
  obtain ⟨-, entry', hwalk'⟩ := h'
  rw [hwalk] at hwalk'
  cases hwalk'
  rfl

theorem start_of_here (h : d'.here = d.here) (path : String) : d'.start path = d.start path := by
  simp only [start, h]

theorem steps_of_slashless {path : String} (h : Path.endsInSlash path = false) :
    steps path = Path.parts path := by
  simp [steps, h]

theorem start_congr {path path' : String} (h : Path.isAbsolute path' = Path.isAbsolute path) :
    d.start path' = d.start path := by
  simp only [start, h]

theorem walkFrom_of_grows (hgrows : d.Grows d') {ps : List String}
    {entry : Option (NodeId × String)} (h : d.walkFrom path ps = .ok (.taken folder entry))
    (hfolder : d.IsFolder folder) : d'.walkFrom path ps = .ok (.taken folder entry) := by
  rw [walkFrom, start_of_here hgrows.here]
  exact walk_of_grows hgrows h hfolder

theorem Leads.grows (h : d.Leads path folder) (hgrows : d.Grows d') : d'.Leads path folder := by
  obtain ⟨hfolder, entry, hwalk⟩ := h
  exact ⟨hgrows.isFolder hfolder, entry, walkFrom_of_grows hgrows hwalk hfolder⟩

theorem walkFrom_snoc (hup : name ≠ "..") {ps : List String}
    (hlink : ∀ folder entry, d.walkFrom path ps = .ok (.taken folder entry) →
      ¬ d.LinkAt folder name) :
    d.walkFrom path (ps ++ [name]) = (d.walkFrom path ps).bind (d.onward name) :=
  walk_snoc hup true _ _ _ _ hlink

/-! ### Folders that are not there -/

/-- Whether a path to a folder runs into a name that is missing, or that is a file's. -/
def Absent (d : Disk) (path : String) : Prop :=
  ∃ first name rest folder entry, Path.parts path = first ++ name :: rest ∧
    name ≠ "." ∧ ".." ∉ name :: rest ∧
    d.walkFrom path first = .ok (.taken folder entry) ∧ d.IsFolder folder ∧
    ∀ id, d.child? folder name = some id → ∃ content, d.fileContent? id = some content

theorem enter_of_isFolder (hfolder : d.IsFolder folder) (hdot : name ≠ ".") :
    d.enter folder name =
      if nameLimit < Name.size name then .error .nameTooLong
      else
        match d.child? folder name with
        | none => .ok (.free folder name)
        | some id => .ok (.taken id (some (folder, name))) := by
  obtain ⟨entries, hnode⟩ := hfolder
  cases hlookup : entries.lookup name <;> simp [enter, child?, hnode, hdot, hlookup]

theorem not_linkAt_of_file (h : ∀ id, d.child? folder name = some id →
    ∃ content, d.fileContent? id = some content) : ¬ d.LinkAt folder name := by
  rintro ⟨-, entries, id, target, hnode, hlookup, hid⟩
  obtain ⟨content, hfile⟩ := h id (child?_eq_some.mpr ⟨entries, hnode, hlookup⟩)
  rw [fileContent?_eq_some, hid] at hfile
  cases hfile

/-- Nothing is behind what is no folder. -/
theorem walkFrom_blocked {ps : List String} (h : ∀ id entry,
    d.walkFrom path ps = .ok (.taken id entry) → ¬ d.IsFolder id) {more : List String}
    (hmore : ".." ∉ more) (id : NodeId) (entry : Option (NodeId × String)) :
    d.walkFrom path (ps ++ more) = .ok (.taken id entry) → ¬ d.IsFolder id := by
  induction more using List.reverseRecOn generalizing id entry with
  | nil => simpa using h id entry
  | append_singleton more name ih =>
    have hmore' : ".." ∉ more := fun hmem => hmore (List.mem_append_left _ hmem)
    have hup : name ≠ ".." := by
      rintro rfl
      exact hmore (by simp)
    have hno (id : NodeId) (entry : Option (NodeId × String))
        (hwalk : d.walkFrom path (ps ++ more) = .ok (.taken id entry)) : ¬ d.IsFolder id :=
      ih hmore' id entry hwalk
    have hlink : ∀ folder entry, d.walkFrom path (ps ++ more) = .ok (.taken folder entry) →
        ¬ d.LinkAt folder name := by
      rintro folder entry hwalk ⟨-, entries, -, -, hnode, -⟩
      exact hno folder entry hwalk ⟨entries, hnode⟩
    rw [← List.append_assoc, walkFrom_snoc hup hlink]
    intro hwalk
    exfalso
    cases hbefore : d.walkFrom path (ps ++ more) with
    | error e =>
      rw [hbefore] at hwalk
      cases hwalk
    | ok place =>
      rw [hbefore] at hwalk
      cases place with
      | free => cases hwalk
      | taken current entry' =>
        have hnot := hno current entry' hbefore
        simp only [Except.bind, onward, enter] at hwalk
        split at hwalk
        · rename_i entries hnode
          exact hnot ⟨entries, hnode⟩
        · cases hwalk

theorem Absent.not_leads (h : d.Absent path) (folder : NodeId) : ¬ d.Leads path folder := by
  rintro ⟨hfolder, entry, hwalk⟩
  obtain ⟨first, name, rest, above, entry', hparts, hdot, hup, hfirst, habove, hfile⟩ := h
  obtain ⟨hname, hrest⟩ : name ≠ ".." ∧ ".." ∉ rest := by
    rw [List.mem_cons, not_or] at hup
    exact ⟨Ne.symm hup.1, hup.2⟩
  have hno : ∀ id entry, d.walkFrom path (first ++ [name]) = .ok (.taken id entry) →
      ¬ d.IsFolder id := by
    intro id last hlast
    have hlink : ∀ folder entry, d.walkFrom path first = .ok (.taken folder entry) →
        ¬ d.LinkAt folder name := by
      intro folder entry hwalk
      rw [hfirst] at hwalk
      cases hwalk
      exact not_linkAt_of_file hfile
    rw [walkFrom_snoc hname hlink, hfirst] at hlast
    simp only [Except.bind, onward, enter_of_isFolder habove hdot] at hlast
    split at hlast
    · cases hlast
    · cases hentry : d.child? above name with
      | none =>
        rw [hentry] at hlast
        cases hlast
      | some child =>
        rw [hentry] at hlast
        cases hlast
        obtain ⟨content, hcontent⟩ := hfile id hentry
        exact not_isFolder_of_fileContent? hcontent
  rw [hparts, List.append_cons] at hwalk
  exact walkFrom_blocked hno hrest folder entry hwalk hfolder

/-! ### Files and folders that come into being -/

theorem start_join (h : Path.IsPart name) (d : Disk) (path : String) :
    d.start (Path.join path name) = d.start path :=
  start_congr (Path.isAbsolute_join h)

/-- What asking for a file comes to, by where the walk to it comes. -/
theorem ensureFile_eq_ok_iff {id : NodeId} : d.ensureFile path = .ok (id, d') ↔
    checkPath path = .ok () ∧
      ((∃ folder name, d.walkToFile linkLimit (Path.endsInSlash path) (d.start path).1
          (d.start path).2 (Path.parts path) = .ok (.free folder name) ∧
          id = d.nodes.length ∧ d' = d.add folder name (.file [])) ∨
        ∃ entry, d.walkToFile linkLimit (Path.endsInSlash path) (d.start path).1
          (d.start path).2 (Path.parts path) = .ok (.taken id entry) ∧
          ¬ d.IsFolder id ∧ d' = d) := by
  simp only [ensureFile, bind, Except.bind]
  cases checkPath path with
  | error e => simp
  | ok u =>
    cases d.walkToFile linkLimit (Path.endsInSlash path) (d.start path).1 (d.start path).2
      (Path.parts path) with
    | error e => simp
    | ok place =>
      cases place with
      | free folder name => simp [eq_comm]
      | taken other entry =>
        simp only [IsFolder]
        rcases hnode : d.node? other with _ | _ | _ | _ | _ <;>
          simp only [Except.ok.injEq, Prod.mk.injEq, Place.taken.injEq] <;> grind

/-- A file that is asked for is there already, or is added under a free name. -/
theorem ensureFile_added {id : NodeId} (h : d.ensureFile path = .ok (id, d')) :
    d' = d ∨ d.Added (.file []) d' := by
  obtain ⟨-, ⟨folder, name, hwalk, -, rfl⟩ | ⟨entry, -, -, rfl⟩⟩ := ensureFile_eq_ok_iff.mp h
  · exact .inr ⟨folder, name, walkToFile_free hwalk, rfl⟩
  · exact .inl rfl

theorem makeFolder_added (h : d.makeFolder path = .ok d') : d.Added (.folder []) d' := by
  simp only [makeFolder, locateSteps, bind, Except.bind] at h
  split at h
  · cases h
  · rename_i place hplace
    split at hplace
    · cases hplace
    · cases place with
      | free folder name =>
        cases h
        exact ⟨folder, name, walk_free hplace, rfl⟩
      | taken => cases h

/-- What is left of a path to a folder that was just made, from that folder on. -/
theorem leads_or_absent_of_empty {ps rest : List String} {entry : Option (NodeId × String)}
    (hparts : Path.parts path = ps ++ rest) (hup : ".." ∉ rest)
    (hwalk : d.walkFrom path ps = .ok (.taken folder entry))
    (hempty : d.node? folder = some (.folder [])) : d.Leads path folder ∨ d.Absent path := by
  induction rest generalizing ps entry with
  | nil => exact .inl ⟨⟨[], hempty⟩, entry, by rwa [hparts, List.append_nil]⟩
  | cons name rest ih =>
    obtain ⟨hname, hrest⟩ : name ≠ ".." ∧ ".." ∉ rest := by
      rw [List.mem_cons, not_or] at hup
      exact ⟨Ne.symm hup.1, hup.2⟩
    have hentry (part : String) : d.child? folder part = none := by simp [child?, hempty]
    by_cases hdot : name = "."
    · subst hdot
      have hstep : d.walkFrom path (ps ++ ["."]) = .ok (.taken folder none) := by
        rw [walkFrom_snoc hname fun _ _ _ h => h.1 rfl, hwalk]
        simp [Except.bind, onward, enter, hempty]
      exact ih (by rw [hparts, List.append_cons]) hrest hstep
    · refine .inr ⟨ps, name, rest, folder, entry, hparts, hdot, hup, hwalk, ⟨[], hempty⟩, ?_⟩
      intro id hid
      rw [hentry] at hid
      cases hid

/-- A folder that is not there stays away, or comes to be empty. -/
theorem Absent.of_added {node : Node} (h : d.Absent path) (hadded : d.Added node d')
    (hnode : node = .file [] ∨ node = .folder []) :
    d'.Absent path ∨ ∃ folder, d'.Leads path folder ∧ d'.node? folder = some (.folder []) := by
  obtain ⟨first, name, rest, above, entry, hparts, hdot, hup, hfirst, habove, hfile⟩ := h
  have hgrows := hadded.grows
  have hkept := hadded
  have hfirst' := walkFrom_of_grows hgrows hfirst habove
  have habove' := hgrows.isFolder habove
  obtain ⟨place, part, hvacancy, rfl⟩ := hadded
  have hentries : (d.add place part node).child? above name =
      if above = place ∧ name = part then some d.nodes.length else d.child? above name :=
    child?_add hvacancy habove name
  obtain ⟨hshort, entries, hplace, -⟩ := hvacancy
  have hnew : (d.add place part node).node? d.nodes.length = some node := by
    rw [node?_add hplace, if_pos rfl]
  by_cases hhere : above = place ∧ name = part
  · rw [if_pos hhere] at hentries
    rcases hnode with rfl | rfl
    · refine .inl ⟨first, name, rest, above, entry, hparts, hdot, hup, hfirst', habove', ?_⟩
      intro id hid
      rw [hentries] at hid
      cases hid
      exact ⟨[], fileContent?_eq_some.mpr hnew⟩
    · obtain ⟨hname, hrest⟩ : name ≠ ".." ∧ ".." ∉ rest := by
        rw [List.mem_cons, not_or] at hup
        exact ⟨Ne.symm hup.1, hup.2⟩
      have hlong : ¬ nameLimit < Name.size name := hhere.2 ▸ hshort
      have hlink : ∀ folder entry,
          (d.add place part (.folder [])).walkFrom path first = .ok (.taken folder entry) →
            ¬ (d.add place part (.folder [])).LinkAt folder name := by
        rintro folder entry hwalk ⟨-, inner, id, target, hfolder, hlookup, hid⟩
        rw [hfirst'] at hwalk
        cases hwalk
        have hsome := child?_eq_some.mpr ⟨inner, hfolder, hlookup⟩
        rw [hentries] at hsome
        cases hsome
        rw [hnew] at hid
        cases hid
      have hstep : (d.add place part (.folder [])).walkFrom path (first ++ [name]) =
          .ok (.taken d.nodes.length (some (above, name))) := by
        rw [walkFrom_snoc hname hlink, hfirst']
        simp only [Except.bind, onward, enter_of_isFolder habove' hdot, hentries, if_neg hlong]
      have hsplit : Path.parts path = (first ++ [name]) ++ rest := by rw [hparts, List.append_cons]
      rcases leads_or_absent_of_empty hsplit hrest hstep hnew with hleads | habsent
      · exact .inr ⟨_, hleads, hnew⟩
      · exact .inl habsent
  · rw [if_neg hhere] at hentries
    refine .inl ⟨first, name, rest, above, entry, hparts, hdot, hup, hfirst', habove', ?_⟩
    intro id hid
    rw [hentries] at hid
    obtain ⟨content, hcontent⟩ := hfile id hid
    exact ⟨content, hkept.fileContent? hcontent⟩

/-- No folder above one that is there is ever made again. -/
theorem Leads.makeFolder_ancestor (h : d.Leads path folder) {above : String}
    (habove : above ∈ Path.ancestors path) : ∃ e, d.makeFolder above = .error e := by
  cases hmake : d.makeFolder above with
  | error e => exact ⟨e, rfl⟩
  | ok d' =>
    exfalso
    obtain ⟨hfolder, entry, hwalk⟩ := h
    obtain ⟨habsolute, qs, more, hundotted, hqs⟩ := Path.parts_of_mem_ancestors habove
    have hstart : d.start above = d.start path := start_congr habsolute
    obtain ⟨entry', hundot⟩ := walk_undotted hundotted hwalk hfolder
    simp only [makeFolder, locateSteps, bind, Except.bind, hstart] at hmake
    split at hmake
    · cases hmake
    · rename_i place hplace
      split at hplace
      · cases hplace
      · cases place with
        | taken => cases hmake
        | free free name =>
          have hfree := walk_free_follow hplace
          cases more with
          | nil =>
            rw [hqs, List.append_nil, hfree] at hundot
            cases hundot
          | cons next more =>
            rw [hqs, walk_past_free hfree (List.cons_ne_nil next more)] at hundot
            cases hundot

/-! ### The files of a folder -/

/-- A folder in which some names stand for regular files, if for anything, and no two of them for
the same. -/
structure Neat (d : Disk) (folder : NodeId) (P : String → Prop) : Prop where
  isFolder : d.IsFolder folder
  file : ∀ {name id}, P name → d.child? folder name = some id →
    ∃ content, d.fileContent? id = some content
  apart : ∀ {name name' id}, P name → P name' → d.child? folder name = some id →
    d.child? folder name' = some id → name = name'

/-- A folder of regular files, each under one name. -/
abbrev Tidy (d : Disk) (folder : NodeId) : Prop :=
  d.Neat folder fun _ => True

/-- Whether a name in a folder, and its path, are short enough and of the right characters. -/
def Nameable (path name : String) : Prop :=
  checkPath (Path.join path name) = .ok () ∧ ¬ nameLimit < Name.size name

theorem Neat.enter {P : String → Prop} (h : d.Neat folder P) (hname : Path.Plain name) :
    d.enter folder name =
      if nameLimit < Name.size name then .error .nameTooLong
      else
        match d.child? folder name with
        | none => .ok (.free folder name)
        | some id => .ok (.taken id (some (folder, name))) :=
  enter_of_isFolder h.isFolder hname.onward

variable {P : String → Prop}

/-- A path into a folder comes to what the name comes to there. -/
theorem walk_join (h : d.Leads path folder) (hneat : d.Neat folder P) (hin : P name)
    (hname : Path.Plain name) (follow : Bool) :
    d.walk follow linkLimit (d.start path).1 (d.start path).2 (Path.parts path ++ [name]) =
      d.enter folder name := by
  obtain ⟨-, entry, hwalk⟩ := h
  have hlink : ∀ other entry, d.walk true linkLimit (d.start path).1 (d.start path).2
      (Path.parts path) = .ok (.taken other entry) → ¬ d.LinkAt other name := by
    intro other entry' hother
    rw [walkFrom, hother] at hwalk
    cases hwalk
    exact not_linkAt_of_file fun id hid => hneat.file hin hid
  rw [walk_snoc hname.inward follow linkLimit _ _ _ hlink]
  rw [walkFrom] at hwalk
  rw [hwalk]
  rfl

theorem locateSteps_join (h : d.Leads path folder) (hneat : d.Neat folder P) (hin : P name)
    (hname : Path.Plain name) (follow : Bool) :
    d.locateSteps follow (Path.join path name) (Path.parts (Path.join path name)) =
      (checkPath (Path.join path name)).bind fun _ => d.enter folder name := by
  rw [locateSteps, Path.parts_join hname.toIsPart, start_join hname.toIsPart]
  show (checkPath (Path.join path name)).bind (fun _ =>
    d.walk follow linkLimit (d.start path).1 (d.start path).2 (Path.parts path ++ [name])) = _
  rw [walk_join h hneat hin hname follow]

theorem locate_join (h : d.Leads path folder) (hneat : d.Neat folder P) (hin : P name)
    (hname : Path.Plain name) (follow : Bool) :
    d.locate follow (Path.join path name) =
      (checkPath (Path.join path name)).bind fun _ => d.enter folder name := by
  have hsteps : steps (Path.join path name) = Path.parts (Path.join path name) := by
    simp [steps, Path.endsInSlash_join hname.toIsPart]
  rw [locate, hsteps, locateSteps_join h hneat hin hname follow]

theorem locate_nameable (h : d.Leads path folder) (hneat : d.Neat folder P) (hin : P name)
    (hname : Path.Plain name) (hcan : Nameable path name) (follow : Bool) :
    d.locate follow (Path.join path name) =
      match d.child? folder name with
      | none => .ok (.free folder name)
      | some id => .ok (.taken id (some (folder, name))) := by
  rw [locate_join h hneat hin hname, hcan.1, hneat.enter hname, if_neg hcan.2]
  rfl

theorem nameable_of_locate (h : d.Leads path folder) (hneat : d.Neat folder P) (hin : P name)
    (hname : Path.Plain name) {follow : Bool} {place : Place}
    (hplace : d.locate follow (Path.join path name) = .ok place) : Nameable path name := by
  rw [locate_join h hneat hin hname] at hplace
  cases hcheck : checkPath (Path.join path name) with
  | error e =>
    rw [hcheck] at hplace
    cases hplace
  | ok u =>
    rw [hcheck, hneat.enter hname] at hplace
    refine ⟨hcheck, fun hlong => ?_⟩
    simp only [Except.bind, if_pos hlong] at hplace
    cases hplace

theorem exists?_join (h : d.Leads path folder) (hneat : d.Neat folder P) (hin : P name)
    (hname : Path.Plain name) :
    d.exists? (Path.join path name) = true ↔
      Nameable path name ∧ ∃ id, d.child? folder name = some id := by
  constructor
  · intro hexists
    simp only [exists?, find?] at hexists
    split at hexists
    · rename_i id entry hplace
      have hcan := nameable_of_locate h hneat hin hname hplace
      rw [locate_nameable h hneat hin hname hcan] at hplace
      refine ⟨hcan, ?_⟩
      cases hentry : d.child? folder name with
      | none =>
        rw [hentry] at hplace
        cases hplace
      | some id => exact ⟨id, rfl⟩
    · cases hexists
  · rintro ⟨hcan, id, hentry⟩
    obtain ⟨content, hcontent⟩ := hneat.file hin hentry
    simp [exists?, find?, locate_nameable h hneat hin hname hcan, hentry,
      fileContent?_eq_some.mp hcontent]

theorem existing_join (h : d.Leads path folder) (hneat : d.Neat folder P) (hin : P name)
    (hname : Path.Plain name) {write : Bool} {id : NodeId} :
    d.existing (Path.join path name) write = .ok id ↔
      Nameable path name ∧ d.child? folder name = some id := by
  constructor
  · intro hexisting
    simp only [existing, bind, Except.bind] at hexisting
    split at hexisting
    · cases hexisting
    · rename_i place hplace
      have hcan := nameable_of_locate h hneat hin hname hplace
      rw [locate_nameable h hneat hin hname hcan] at hplace
      refine ⟨hcan, ?_⟩
      cases hentry : d.child? folder name with
      | none =>
        rw [hentry] at hplace
        cases hplace
        cases hexisting
      | some other =>
        rw [hentry] at hplace
        cases hplace
        simp only at hexisting
        split at hexisting <;> cases hexisting
        rfl
  · rintro ⟨hcan, hentry⟩
    obtain ⟨content, hcontent⟩ := hneat.file hin hentry
    simp [existing, bind, Except.bind, locate_nameable h hneat hin hname hcan, hentry,
      fileContent?_eq_some.mp hcontent]

theorem ensureFile_eq (h : d.Leads path folder) (hneat : d.Neat folder P) (hin : P name)
    (hname : Path.Plain name) :
    d.ensureFile (Path.join path name) =
      (checkPath (Path.join path name)).bind fun _ =>
        (d.enter folder name).bind fun
          | .free folder name => .ok (d.nodes.length, d.add folder name (.file []))
          | .taken id _ =>
            match d.node? id with
            | some (.folder _) => .error .isFolder
            | _ => .ok (id, d) := by
  have hwalk : d.walkToFile linkLimit false (d.start path).1 (d.start path).2
      (Path.parts path ++ [name]) = d.enter folder name := by
    obtain ⟨-, entry, hwalk⟩ := h
    rw [walkFrom] at hwalk
    rw [walkToFile_snoc hname.inward, hwalk]
    · rfl
    · intro other entry' hother
      rw [hother] at hwalk
      cases hwalk
      exact not_linkAt_of_file fun id hid => hneat.file hin hid
  rw [ensureFile, Path.parts_join hname.toIsPart, start_join hname.toIsPart,
    Path.endsInSlash_join hname.toIsPart]
  show (checkPath (Path.join path name)).bind (fun _ =>
    (d.walkToFile linkLimit false (d.start path).1 (d.start path).2
      (Path.parts path ++ [name])).bind _) = _
  exact hwalk ▸ rfl

/-- What asking for a file in a folder gives: the one that is there, or a new empty one. -/
theorem ensureFile_join (h : d.Leads path folder) (hneat : d.Neat folder P) (hin : P name)
    (hname : Path.Plain name) {id : NodeId} :
    d.ensureFile (Path.join path name) = .ok (id, d') ↔
      Nameable path name ∧ (d.child? folder name = some id ∧ d' = d ∨
        d.child? folder name = none ∧ id = d.nodes.length ∧ d' = d.add folder name (.file [])) := by
  rw [ensureFile_eq h hneat hin hname, hneat.enter hname]
  cases hcheck : checkPath (Path.join path name) with
  | error e => simp [Except.bind, Nameable, hcheck]
  | ok u =>
    by_cases hlong : nameLimit < Name.size name
    · simp [Except.bind, Nameable, hcheck, hlong]
    · cases hentry : d.child? folder name with
      | none => simp [Except.bind, Nameable, hcheck, hlong, eq_comm]
      | some other =>
        obtain ⟨content, hcontent⟩ := hneat.file hin hentry
        simp [Except.bind, Nameable, hcheck, hlong, fileContent?_eq_some.mp hcontent, eq_comm]

/-- A path into a folder is never empty. -/
theorem child?_of_ensureFile (h : d.Leads path folder) (hneat : d.Neat folder P) (hin : P name)
    (hname : Path.Plain name) {id : NodeId}
    (hfile : d.ensureFile (Path.join path name) = .ok (id, d')) :
    d'.Leads path folder ∧ d'.child? folder name = some id := by
  obtain ⟨⟨-, hshort⟩, ⟨hentry, rfl⟩ | ⟨hfree, rfl, rfl⟩⟩ :=
    (ensureFile_join h hneat hin hname).mp hfile
  · exact ⟨h, hentry⟩
  · have hvacancy := vacancy_iff.mpr ⟨hshort, hneat.isFolder, hfree⟩
    have hadded : d.Added (.file []) (d.add folder name (.file [])) := ⟨folder, name, hvacancy, rfl⟩
    exact ⟨h.grows hadded.grows, by rw [child?_add hvacancy hneat.isFolder, if_pos ⟨rfl, rfl⟩]⟩

theorem checkPath_join (hname : Path.IsPart name) :
    checkPath (Path.join path name) ≠ .error .notFound := by
  have hne : (Path.join path name).isEmpty = false := by
    have hparts : Path.parts (Path.join path name) = Path.parts path ++ [name] :=
      Path.parts_join hname
    by_contra hempty
    have hnil : Path.join path name = "" := by simpa using hempty
    have : Path.parts "" = Path.parts path ++ [name] := hnil ▸ hparts
    have hlength := congrArg List.length this
    simp [Path.parts, Path.splitSlash] at hlength
  simp only [checkPath, hne, Bool.false_eq_true, if_false]
  split_ifs <;> simp

theorem unlink_eq (h : d.Leads path folder) (hneat : d.Neat folder P) (hin : P name)
    (hname : Path.Plain name) :
    d.unlink (Path.join path name) =
      (checkPath (Path.join path name)).bind fun _ =>
        if nameLimit < Name.size name then .error .nameTooLong
        else
          match d.child? folder name with
          | none => .error .notFound
          | some _ => .ok (d.without folder name) := by
  rw [unlink, locateSteps_join h hneat hin hname, hneat.enter hname]
  cases hcheck : checkPath (Path.join path name) with
  | error e => rfl
  | ok u =>
    by_cases hlong : nameLimit < Name.size name
    · simp [hlong, Except.bind, bind]
    · cases hentry : d.child? folder name with
      | none => simp [hlong, Except.bind, bind]
      | some id =>
        obtain ⟨content, hcontent⟩ := hneat.file hin hentry
        obtain ⟨entries, hnode⟩ := hneat.isFolder
        simp [hlong, Except.bind, bind, fileContent?_eq_some.mp hcontent, without, hnode,
          Path.endsInSlash_join hname.toIsPart]

theorem unlink_join (h : d.Leads path folder) (hneat : d.Neat folder P) (hin : P name)
    (hname : Path.Plain name) :
    d.unlink (Path.join path name) = .ok d' ↔
      Nameable path name ∧ d' = d.without folder name ∧ ∃ id, d.child? folder name = some id := by
  rw [unlink_eq h hneat hin hname]
  cases hcheck : checkPath (Path.join path name) with
  | error e => simp [Except.bind, Nameable, hcheck]
  | ok u =>
    by_cases hlong : nameLimit < Name.size name
    · simp [Except.bind, Nameable, hcheck, hlong]
    · cases hentry : d.child? folder name <;>
        simp [Except.bind, Nameable, hcheck, hlong, eq_comm]

theorem unlink_join_notFound (h : d.Leads path folder) (hneat : d.Neat folder P) (hin : P name)
    (hname : Path.Plain name) :
    d.unlink (Path.join path name) = .error .notFound ↔
      Nameable path name ∧ d.child? folder name = none := by
  have hcheck' : checkPath (Path.join path name) ≠ .error .notFound := checkPath_join hname.toIsPart
  rw [unlink_eq h hneat hin hname]
  cases hcheck : checkPath (Path.join path name) with
  | error e =>
    rw [hcheck] at hcheck'
    simpa [Except.bind, Nameable, hcheck] using hcheck'
  | ok u =>
    by_cases hlong : nameLimit < Name.size name
    · simp [Except.bind, Nameable, hcheck, hlong]
    · cases hentry : d.child? folder name <;>
        simp [Except.bind, Nameable, hcheck, hlong]

/-! ### Files in a folder that is not there -/

theorem onward_error_of_not_leads (h : ∀ folder, ¬ d.Leads path folder) (name : String) :
    ∃ e, (d.walkFrom path (Path.parts path)).bind (d.onward name) = .error e := by
  cases hwalk : d.walkFrom path (Path.parts path) with
  | error e => exact ⟨e, rfl⟩
  | ok place =>
    cases place with
    | free => exact ⟨.notFound, rfl⟩
    | taken id entry =>
      have hfolder : ¬ d.IsFolder id := fun hfolder => h id ⟨hfolder, entry, hwalk⟩
      refine ⟨.notFolder, ?_⟩
      simp only [Except.bind, onward, enter]
      split
      · rename_i entries hnode
        exact absurd ⟨entries, hnode⟩ hfolder
      · rfl

theorem not_linkAt_of_not_leads (h : ∀ folder, ¬ d.Leads path folder) (name : String)
    (folder : NodeId) (entry : Option (NodeId × String))
    (hwalk : d.walkFrom path (Path.parts path) = .ok (.taken folder entry)) :
    ¬ d.LinkAt folder name := by
  rintro ⟨-, entries, -, -, hnode, -⟩
  exact h folder ⟨⟨entries, hnode⟩, entry, hwalk⟩

theorem locate_of_not_leads (h : ∀ folder, ¬ d.Leads path folder) (hname : Path.Plain name) :
    ∃ e, d.locate true (Path.join path name) = .error e := by
  have hsteps : steps (Path.join path name) = Path.parts path ++ [name] := by
    simp [steps, Path.endsInSlash_join hname.toIsPart, Path.parts_join hname.toIsPart]
  have hwalk := walk_snoc (d := d) hname.inward true linkLimit (d.start path).1 (d.start path).2
    (Path.parts path) (not_linkAt_of_not_leads h name)
  obtain ⟨e, he⟩ := onward_error_of_not_leads h name
  rw [walkFrom] at he
  rw [he] at hwalk
  simp only [locate, locateSteps, hsteps, start_join hname.toIsPart, hwalk, bind, Except.bind]
  cases checkPath (Path.join path name) <;> exact ⟨_, rfl⟩

theorem exists?_of_not_leads (h : ∀ folder, ¬ d.Leads path folder) (hname : Path.Plain name) :
    d.exists? (Path.join path name) = false := by
  obtain ⟨e, hlocate⟩ := locate_of_not_leads h hname
  simp [exists?, find?, hlocate]

theorem leads_of_existing {id : NodeId} (hname : Path.Plain name)
    (h : d.existing (Path.join path name) false = .ok id) : ∃ folder, d.Leads path folder := by
  by_contra hno
  obtain ⟨e, hlocate⟩ := locate_of_not_leads (not_exists.mp hno) hname
  rw [existing, hlocate] at h
  cases h

theorem ensureFile_of_not_leads (h : ∀ folder, ¬ d.Leads path folder) (hname : Path.Plain name) :
    ∃ e, d.ensureFile (Path.join path name) = .error e := by
  have hwalk := walkToFile_snoc (d := d) hname.inward linkLimit (d.start path).1 (d.start path).2
    (Path.parts path) (not_linkAt_of_not_leads h name)
  obtain ⟨e, he⟩ := onward_error_of_not_leads h name
  rw [walkFrom] at he
  rw [he] at hwalk
  simp only [ensureFile, Path.parts_join hname.toIsPart, start_join hname.toIsPart,
    Path.endsInSlash_join hname.toIsPart, hwalk, bind, Except.bind]
  cases checkPath (Path.join path name) <;> exact ⟨_, rfl⟩

end ScriptCache.Disk
