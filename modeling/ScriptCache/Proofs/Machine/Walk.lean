import Mathlib
import ScriptCache.Machine.Disk
import ScriptCache.Proofs.Machine.Paths

/-! Walks along paths, one part more, and on a disk that grew.

A walk is taken apart part by part (`hop`) and link by link (`walk_eq`). A walk of one part
more is the walk without it and a step from where it arrived (`walk_snoc`); walks to a file
go the same way (`walkToFile_snoc`). A walk that arrives in a folder passes through folders
and links only, so it arrives there on every disk that kept these (`walk_of_grows`). A free
place is a missing name in a folder that is there (`walk_free`). Permissions play no part in
walks (`ensureFile_allowed`). -/
namespace ScriptCache.Disk

variable (d : Disk)

/-! ### Part by part -/

/-- What a walk makes of one part. -/
inductive Hop where
  /-- It stands somewhere else, or still where it stood. -/
  | stand (entry : Option (NodeId × String)) (current : NodeId) (above : List NodeId)
  | missing
  | link (id : NodeId) (target : String)

def hop (current : NodeId) (above : List NodeId) (part : String) : Except SysError Hop :=
  match d.node? current with
  | some (.folder entries) =>
    if part = "." then .ok (.stand none current above)
    else if part = ".." then
      match above with
      | [] => .ok (.stand none current [])
      | up :: higher => .ok (.stand none up higher)
    else if nameLimit < Name.size part then .error .nameTooLong
    else
      match entries.lookup part with
      | none => .ok .missing
      | some id =>
        match d.node? id with
        | some (.link target) => .ok (.link id target)
        | _ => .ok (.stand (some (current, part)) id (current :: above))
  | _ => .error .notFolder

theorem stride_cons (follow : Bool) (entry : Option (NodeId × String)) (current : NodeId)
    (above : List NodeId) (part : String) (rest : List String) :
    d.stride follow entry current above (part :: rest) =
      match d.hop current above part with
      | .error e => .error e
      | .ok (.stand entry current above) => d.stride follow entry current above rest
      | .ok .missing =>
        if rest.isEmpty then .ok (.arrived (.free current part)) else .error .notFound
      | .ok (.link id target) =>
        if rest.isEmpty && !follow then .ok (.arrived (.taken id (some (current, part))))
        else .ok (.jump current above target rest) := by
  simp only [stride, hop]
  cases hnode : d.node? current with
  | none => rfl
  | some node =>
    cases node with
    | folder entries =>
      by_cases hdot : part = "."
      · simp only [if_pos hdot]
      by_cases hup : part = ".."
      · simp only [if_neg hdot, if_pos hup]
        cases above <;> rfl
      by_cases hlong : nameLimit < Name.size part
      · simp only [if_neg hdot, if_neg hup, if_pos hlong]
      simp only [if_neg hdot, if_neg hup, if_neg hlong]
      cases hlookup : entries.lookup part with
      | none => rfl
      | some id =>
        cases hid : d.node? id with
        | none => simp only [hid]
        | some node => cases node <;> simp only [hid]
    | _ => rfl

/-- Where a walk goes on from a link. -/
def base (current : NodeId) (above : List NodeId) (target : String) : NodeId × List NodeId :=
  if Path.isAbsolute target then (root, []) else (current, above)

theorem walk_eq (follow : Bool) (links : Nat) (current : NodeId) (above : List NodeId)
    (ps : List String) :
    d.walk follow links current above ps =
      match d.stride follow none current above ps with
      | .error e => .error e
      | .ok (.arrived place) => .ok place
      | .ok (.jump current above target left) =>
        match links with
        | 0 => .error .tooManyLinks
        | fewer + 1 => d.walk follow fewer (base current above target).1
            (base current above target).2 (steps target ++ left) := by
  conv => lhs; unfold walk
  cases h : d.stride follow none current above ps with
  | error e => rfl
  | ok stride =>
    cases stride with
    | arrived place => rfl
    | jump id higher target left =>
      cases links with
      | zero => rfl
      | succ fewer => by_cases habsolute : Path.isAbsolute target <;> simp [base, habsolute]

theorem walkToFile_eq (links : Nat) (current : NodeId) (above : List NodeId)
    (ps : List String) :
    d.walkToFile links false current above ps =
      match d.stride true none current above ps with
      | .error e => .error e
      | .ok (.arrived place) => .ok place
      | .ok (.jump current above target left) =>
        match links with
        | 0 => .error .tooManyLinks
        | fewer + 1 =>
          if left.isEmpty then
            d.walkToFile fewer (Path.endsInSlash target) (base current above target).1
              (base current above target).2 (Path.parts target)
          else
            d.walkToFile fewer false (base current above target).1 (base current above target).2
              (steps target ++ left) := by
  cases h : d.stride true none current above ps with
  | error e => cases links <;> simp [walkToFile, h, bind, Except.bind]
  | ok stride =>
    cases stride with
    | arrived place => cases links <;> simp [walkToFile, h, bind, Except.bind]
    | jump id higher target left =>
      cases links with
      | zero => simp [walkToFile, h, bind, Except.bind]
      | succ fewer =>
        by_cases habsolute : Path.isAbsolute target
        all_goals
          conv => lhs; unfold walkToFile
          simp [h, bind, Except.bind, base, habsolute]

/-! ### One part more -/

/-- A step from a folder to one of its names, or to itself. -/
def enter (folder : NodeId) (name : String) : Except SysError Place :=
  match d.node? folder with
  | some (.folder entries) =>
    if name = "." then .ok (.taken folder none)
    else if nameLimit < Name.size name then .error .nameTooLong
    else
      match entries.lookup name with
      | none => .ok (.free folder name)
      | some id => .ok (.taken id (some (folder, name)))
  | _ => .error .notFolder

/-- A step from where a walk arrived. -/
def onward (name : String) : Place → Except SysError Place
  | .free .. => .error .notFound
  | .taken id _ => d.enter id name

/-- Whether a name stands for a link in a folder. -/
def LinkAt (folder : NodeId) (name : String) : Prop :=
  name ≠ "." ∧ ∃ entries id target, d.node? folder = some (.folder entries) ∧
    entries.lookup name = some id ∧ d.node? id = some (.link target)

variable {d}

theorem stride_enter {folder : NodeId} {name : String} (hup : name ≠ "..")
    (hlink : ¬ d.LinkAt folder name) (follow : Bool) (entry : Option (NodeId × String))
    (above : List NodeId) :
    d.stride follow entry folder above [name] = (d.enter folder name).map .arrived := by
  rw [stride_cons]
  simp only [hop, enter]
  cases hnode : d.node? folder with
  | none => rfl
  | some node =>
    cases node with
    | folder entries =>
      by_cases hdot : name = "."
      · simp only [if_pos hdot]
        rfl
      by_cases hlong : nameLimit < Name.size name
      · simp only [if_neg hdot, if_neg hup, if_pos hlong]
        rfl
      simp only [if_neg hdot, if_neg hup, if_neg hlong]
      cases hlookup : entries.lookup name with
      | none => rfl
      | some id =>
        cases hid : d.node? id with
        | none => simp only [hid]; rfl
        | some node =>
          cases node with
          | link target => exact absurd ⟨hdot, entries, id, target, hnode, hlookup, hid⟩ hlink
          | _ => simp only [hid]; rfl
    | _ => rfl

theorem stride_snoc {name : String} (hup : name ≠ "..") (follow : Bool) (ps : List String)
    (entry : Option (NodeId × String)) (current : NodeId) (above : List NodeId)
    (hlink : ∀ folder entry', d.stride true entry current above ps = .ok (.arrived (.taken folder entry')) →
      ¬ d.LinkAt folder name) :
    d.stride follow entry current above (ps ++ [name]) =
      (d.stride true entry current above ps).bind fun
        | .arrived place => (d.onward name place).map .arrived
        | .jump current above target left => .ok (.jump current above target (left ++ [name])) := by
  induction ps generalizing entry current above with
  | nil => exact stride_enter hup (hlink current entry rfl) follow entry above
  | cons p ps ih =>
    rw [stride_cons] at hlink
    rw [List.cons_append, stride_cons, stride_cons]
    cases hhop : d.hop current above p with
    | error e => rfl
    | ok result =>
      rw [hhop] at hlink
      cases result with
      | stand entry' current' above' => exact ih entry' current' above' hlink
      | missing => cases ps <;> rfl
      | link id target => cases ps <;> rfl

/-- A walk of one part more is a step from where the walk without it arrived. -/
theorem walk_snoc {name : String} (hup : name ≠ "..") (follow : Bool) (links : Nat)
    (current : NodeId) (above : List NodeId) (ps : List String)
    (hlink : ∀ folder entry, d.walk true links current above ps = .ok (.taken folder entry) →
      ¬ d.LinkAt folder name) :
    d.walk follow links current above (ps ++ [name]) =
      (d.walk true links current above ps).bind (d.onward name) := by
  induction links using Nat.strong_induction_on generalizing current above ps with
  | _ links ih =>
    rw [walk_eq d true] at hlink ⊢
    rw [walk_eq d follow, stride_snoc hup follow ps none current above fun folder entry h =>
      hlink folder entry (by rw [h])]
    cases h : d.stride true none current above ps with
    | error e => rfl
    | ok stride =>
      rw [h] at hlink
      cases stride with
      | arrived place =>
        show (match (d.onward name place).map Stride.arrived with
          | .error e => .error e
          | .ok (.arrived place) => .ok place
          | .ok (.jump ..) => _) = d.onward name place
        cases d.onward name place <;> rfl
      | jump id higher target left =>
        cases links with
        | zero => rfl
        | succ fewer =>
          have hmore := ih fewer (Nat.lt_succ_self fewer) (base id higher target).1
            (base id higher target).2 (steps target ++ left) hlink
          rw [List.append_assoc] at hmore
          exact hmore

/-- A walk to a file takes its last part like any other walk. -/
theorem walkToFile_snoc {name : String} (hup : name ≠ "..") (links : Nat)
    (current : NodeId) (above : List NodeId) (ps : List String)
    (hlink : ∀ folder entry, d.walk true links current above ps = .ok (.taken folder entry) →
      ¬ d.LinkAt folder name) :
    d.walkToFile links false current above (ps ++ [name]) =
      (d.walk true links current above ps).bind (d.onward name) := by
  induction links using Nat.strong_induction_on generalizing current above ps with
  | _ links ih =>
    rw [walk_eq d true] at hlink ⊢
    rw [walkToFile_eq d, stride_snoc hup true ps none current above fun folder entry h =>
      hlink folder entry (by rw [h])]
    cases h : d.stride true none current above ps with
    | error e => rfl
    | ok stride =>
      rw [h] at hlink
      cases stride with
      | arrived place =>
        show (match (d.onward name place).map Stride.arrived with
          | .error e => .error e
          | .ok (.arrived place) => .ok place
          | .ok (.jump ..) => _) = d.onward name place
        cases d.onward name place <;> rfl
      | jump id higher target left =>
        cases links with
        | zero => rfl
        | succ fewer =>
          have hmore := ih fewer (Nat.lt_succ_self fewer) (base id higher target).1
            (base id higher target).2 (steps target ++ left) hlink
          rw [List.append_assoc] at hmore
          have hleft : (left ++ [name]).isEmpty = false := by simp
          simp only [Except.bind, hleft, Bool.false_eq_true, if_false]
          exact hmore

/-! ### Free places -/

/-- Whether a name could be added to a folder. -/
def Vacancy (d : Disk) (folder : NodeId) (name : String) : Prop :=
  ¬ nameLimit < Name.size name ∧
    ∃ entries, d.node? folder = some (.folder entries) ∧ entries.lookup name = none

theorem hop_missing {current : NodeId} {above : List NodeId} {part : String}
    (h : d.hop current above part = .ok .missing) : d.Vacancy current part := by
  simp only [hop] at h
  split at h
  · rename_i entries hnode
    split_ifs at h with hdot hup hlong
    · cases h
    · split at h <;> cases h
    · split at h
      · rename_i hlookup
        exact ⟨hlong, entries, hnode, hlookup⟩
      · split at h <;> cases h
  · cases h

theorem stride_free {follow : Bool} {entry : Option (NodeId × String)} {current : NodeId}
    {above : List NodeId} {ps : List String} {folder : NodeId} {name : String}
    (h : d.stride follow entry current above ps = .ok (.arrived (.free folder name))) :
    d.Vacancy folder name := by
  induction ps generalizing entry current above with
  | nil => cases h
  | cons p ps ih =>
    rw [stride_cons] at h
    cases hhop : d.hop current above p with
    | error e =>
      rw [hhop] at h
      cases h
    | ok result =>
      rw [hhop] at h
      cases result with
      | stand entry' current' above' => exact ih h
      | missing =>
        by_cases hps : ps.isEmpty
        · simp only [if_pos hps] at h
          cases h
          exact hop_missing hhop
        · simp only [if_neg hps] at h
          cases h
      | link id target =>
        simp only at h
        split at h <;> cases h

theorem walk_free {follow : Bool} {links : Nat} {current : NodeId} {above : List NodeId}
    {ps : List String} {folder : NodeId} {name : String}
    (h : d.walk follow links current above ps = .ok (.free folder name)) :
    d.Vacancy folder name := by
  induction links using Nat.strong_induction_on generalizing current above ps with
  | _ links ih =>
    rw [walk_eq] at h
    cases hstride : d.stride follow none current above ps with
    | error e =>
      rw [hstride] at h
      cases h
    | ok stride =>
      rw [hstride] at h
      cases stride with
      | arrived place =>
        cases h
        exact stride_free hstride
      | jump id higher target left =>
        cases links with
        | zero => cases h
        | succ fewer => exact ih fewer (Nat.lt_succ_self fewer) h

theorem walkToFile_free {links : Nat} {slash : Bool} {current : NodeId} {above : List NodeId}
    {ps : List String} {folder : NodeId} {name : String}
    (h : d.walkToFile links slash current above ps = .ok (.free folder name)) :
    d.Vacancy folder name := by
  induction links using Nat.strong_induction_on generalizing slash current above ps with
  | _ links ih =>
    cases slash with
    | true =>
      unfold walkToFile at h
      cases hwalk : d.walk true links current above (ps.dropLast ++ ["."]) <;>
        simp [hwalk, bind, Except.bind] at h
    | false =>
      rw [walkToFile_eq] at h
      cases hstride : d.stride true none current above ps with
      | error e =>
        rw [hstride] at h
        cases h
      | ok stride =>
        rw [hstride] at h
        cases stride with
        | arrived place =>
          cases h
          exact stride_free hstride
        | jump id higher target left =>
          cases links with
          | zero => cases h
          | succ fewer =>
            simp only at h
            split at h
            · exact ih fewer (Nat.lt_succ_self fewer) h
            · exact ih fewer (Nat.lt_succ_self fewer) h

/-! ### Errors -/

/-- No walk ends for want of permission. -/
theorem hop_allowed {current : NodeId} {above : List NodeId} {part : String} {e : SysError}
    (h : d.hop current above part = .error e) : e.forbids = false := by
  simp only [hop] at h
  split at h
  · split_ifs at h with hdot hup hlong
    · split at h <;> cases h
    · cases h
      rfl
    · split at h
      · cases h
      · split at h <;> cases h
  · cases h
    rfl

theorem stride_allowed {follow : Bool} {entry : Option (NodeId × String)} {current : NodeId}
    {above : List NodeId} {ps : List String} {e : SysError}
    (h : d.stride follow entry current above ps = .error e) : e.forbids = false := by
  induction ps generalizing entry current above with
  | nil => cases h
  | cons p ps ih =>
    rw [stride_cons] at h
    cases hhop : d.hop current above p with
    | error e' =>
      rw [hhop] at h
      cases h
      exact hop_allowed hhop
    | ok result =>
      rw [hhop] at h
      cases result with
      | stand entry' current' above' => exact ih h
      | missing =>
        simp only at h
        split at h <;> cases h
        rfl
      | link id target =>
        simp only at h
        split at h <;> cases h

theorem walk_allowed {follow : Bool} {links : Nat} {current : NodeId} {above : List NodeId}
    {ps : List String} {e : SysError} (h : d.walk follow links current above ps = .error e) :
    e.forbids = false := by
  induction links using Nat.strong_induction_on generalizing current above ps with
  | _ links ih =>
    rw [walk_eq] at h
    cases hstride : d.stride follow none current above ps with
    | error e' =>
      rw [hstride] at h
      cases h
      exact stride_allowed hstride
    | ok stride =>
      rw [hstride] at h
      cases stride with
      | arrived place => cases h
      | jump id higher target left =>
        cases links with
        | zero =>
          cases h
          rfl
        | succ fewer => exact ih fewer (Nat.lt_succ_self fewer) h

theorem walkToFile_allowed {links : Nat} {slash : Bool} {current : NodeId} {above : List NodeId}
    {ps : List String} {e : SysError} (h : d.walkToFile links slash current above ps = .error e) :
    e.forbids = false := by
  induction links using Nat.strong_induction_on generalizing slash current above ps with
  | _ links ih =>
    cases slash with
    | true =>
      unfold walkToFile at h
      cases hwalk : d.walk true links current above (ps.dropLast ++ ["."]) with
      | error e' =>
        rw [hwalk] at h
        cases h
        exact walk_allowed hwalk
      | ok place =>
        rw [hwalk] at h
        cases h
        rfl
    | false =>
      rw [walkToFile_eq] at h
      cases hstride : d.stride true none current above ps with
      | error e' =>
        rw [hstride] at h
        cases h
        exact stride_allowed hstride
      | ok stride =>
        rw [hstride] at h
        cases stride with
        | arrived place => cases h
        | jump id higher target left =>
          cases links with
          | zero =>
            cases h
            rfl
          | succ fewer =>
            simp only at h
            split at h
            · exact ih fewer (Nat.lt_succ_self fewer) h
            · exact ih fewer (Nat.lt_succ_self fewer) h

/-- A file that is asked for may be had, unless something other than permission is missing. -/
theorem ensureFile_allowed {path : String} {e : SysError} (h : d.ensureFile path = .error e) :
    e.forbids = false := by
  simp only [ensureFile, bind, Except.bind] at h
  split at h
  · rename_i hcheck
    unfold checkPath at hcheck
    split_ifs at hcheck <;> cases hcheck <;> cases h <;> rfl
  · split at h
    · rename_i hwalk
      cases h
      exact walkToFile_allowed hwalk
    · split at h
      · cases h
      · split at h <;> cases h
        rfl

/-! ### Disks that grew -/

def IsFolder (d : Disk) (id : NodeId) : Prop :=
  ∃ entries, d.node? id = some (.folder entries)

/-- Whether walks can go through a node. -/
def Leading (d : Disk) (id : NodeId) : Prop :=
  d.IsFolder id ∨ ∃ target, d.node? id = some (.link target)

/-- Whether a disk kept everything of another that walks go through. -/
structure Grows (d d' : Disk) : Prop where
  here : d'.here = d.here
  link : ∀ {id target}, d.node? id = some (.link target) → d'.node? id = some (.link target)
  folder : ∀ {id entries}, d.node? id = some (.folder entries) →
    ∃ entries', d'.node? id = some (.folder entries') ∧
      ∀ {name child}, entries.lookup name = some child → d.Leading child →
        entries'.lookup name = some child

theorem Grows.refl (d : Disk) : d.Grows d :=
  ⟨rfl, fun h => h, fun h => ⟨_, h, fun h _ => h⟩⟩

variable {d' : Disk}

theorem Grows.isFolder (h : d.Grows d') {id : NodeId} (hid : d.IsFolder id) : d'.IsFolder id := by
  obtain ⟨entries, hnode⟩ := hid
  obtain ⟨entries', hnode', -⟩ := h.folder hnode
  exact ⟨entries', hnode'⟩

theorem Grows.leading (h : d.Grows d') {id : NodeId} (hid : d.Leading id) : d'.Leading id := by
  rcases hid with hid | ⟨target, hid⟩
  · exact .inl (h.isFolder hid)
  · exact .inr ⟨target, h.link hid⟩

theorem Grows.trans {d'' : Disk} (h : d.Grows d') (h' : d'.Grows d'') : d.Grows d'' := by
  refine ⟨h'.here.trans h.here, fun hid => h'.link (h.link hid), fun hnode => ?_⟩
  obtain ⟨entries', hnode', hkept⟩ := h.folder hnode
  obtain ⟨entries'', hnode'', hkept'⟩ := h'.folder hnode'
  exact ⟨entries'', hnode'', fun hlookup hlead => hkept' (hkept hlookup hlead) (h.leading hlead)⟩

theorem isFolder_of_hop {current : NodeId} {above : List NodeId} {part : String} {result : Hop}
    (h : d.hop current above part = .ok result) : d.IsFolder current := by
  simp only [hop] at h
  split at h
  · rename_i entries hnode
    exact ⟨entries, hnode⟩
  · cases h

/-- Whether a hop came to a folder or to a link. -/
def Hop.Leads (d : Disk) : Hop → Prop
  | .stand _ id _ => d.IsFolder id
  | .missing => False
  | .link .. => True

theorem hop_of_grows (hgrows : d.Grows d') {current : NodeId} {above : List NodeId} {part : String}
    {result : Hop} (h : d.hop current above part = .ok result) (hresult : Hop.Leads d result) :
    d'.hop current above part = .ok result := by
  obtain ⟨entries, hnode⟩ := isFolder_of_hop h
  obtain ⟨entries', hnode', hkept⟩ := hgrows.folder hnode
  simp only [hop, hnode] at h
  simp only [hop, hnode']
  split_ifs at h ⊢ with hdot hup hlong
  · exact h
  · exact h
  · cases hlookup : entries.lookup part with
    | none =>
      simp only [hlookup] at h
      cases h
      exact hresult.elim
    | some id =>
      simp only [hlookup] at h
      by_cases hlink : ∃ target, d.node? id = some (.link target)
      · obtain ⟨target, hid⟩ := hlink
        simp only [hid] at h
        simp only [hkept hlookup (.inr ⟨target, hid⟩), hgrows.link hid]
        exact h
      · have hstand : Hop.stand (some (current, part)) id (current :: above) = result := by
          split at h
          · rename_i target hid
            exact absurd ⟨target, hid⟩ hlink
          · exact Except.ok.inj h
        subst hstand
        obtain ⟨inner, hid⟩ := hgrows.isFolder hresult
        simp only [hkept hlookup (.inl hresult), hid]

/-- Whether a stride ended in a folder or at a link. -/
def Stride.Leads (d : Disk) : Stride → Prop
  | .arrived (.taken id _) => d.IsFolder id
  | .arrived (.free ..) => False
  | .jump .. => True

theorem isFolder_of_stride {follow : Bool} {entry : Option (NodeId × String)} {current : NodeId}
    {above : List NodeId} {ps : List String} {stride : Stride}
    (h : d.stride follow entry current above ps = .ok stride) (hleads : Stride.Leads d stride) :
    d.IsFolder current := by
  cases ps with
  | nil =>
    cases h
    exact hleads
  | cons p ps =>
    rw [stride_cons] at h
    cases hhop : d.hop current above p with
    | error e =>
      rw [hhop] at h
      cases h
    | ok result => exact isFolder_of_hop hhop

theorem stride_of_grows (hgrows : d.Grows d') {entry : Option (NodeId × String)}
    {current : NodeId} {above : List NodeId} {ps : List String} {stride : Stride}
    (h : d.stride true entry current above ps = .ok stride) (hleads : Stride.Leads d stride) :
    d'.stride true entry current above ps = .ok stride := by
  induction ps generalizing entry current above with
  | nil => exact h
  | cons p ps ih =>
    rw [stride_cons] at h ⊢
    cases hhop : d.hop current above p with
    | error e =>
      rw [hhop] at h
      cases h
    | ok result =>
      rw [hhop] at h
      cases result with
      | stand entry' current' above' =>
        rw [hop_of_grows hgrows hhop (isFolder_of_stride h hleads)]
        exact ih h
      | missing =>
        simp only at h
        split at h
        · cases h
          exact hleads.elim
        · cases h
      | link id target =>
        rw [hop_of_grows hgrows hhop trivial]
        exact h

/-- A walk that arrives in a folder arrives there on every disk that grew from this one. -/
theorem walk_of_grows (hgrows : d.Grows d') {links : Nat} {current : NodeId} {above : List NodeId}
    {ps : List String} {folder : NodeId} {entry : Option (NodeId × String)}
    (h : d.walk true links current above ps = .ok (.taken folder entry))
    (hfolder : d.IsFolder folder) :
    d'.walk true links current above ps = .ok (.taken folder entry) := by
  induction links using Nat.strong_induction_on generalizing current above ps with
  | _ links ih =>
    rw [walk_eq] at h ⊢
    cases hstride : d.stride true none current above ps with
    | error e =>
      rw [hstride] at h
      cases h
    | ok stride =>
      rw [hstride] at h
      cases stride with
      | arrived place =>
        cases h
        rw [stride_of_grows hgrows hstride hfolder]
      | jump id higher target left =>
        rw [stride_of_grows hgrows hstride trivial]
        cases links with
        | zero => cases h
        | succ fewer => exact ih fewer (Nat.lt_succ_self fewer) h

/-! ### Parts that stay in place -/

/-- Whether two strides come to the same, up to parts that stay in place. -/
def Stride.Alike : Stride → Stride → Prop
  | .arrived (.taken id _), .arrived (.taken id' _) => id = id'
  | .jump id higher target left, .jump id' higher' target' left' =>
    id = id' ∧ higher = higher' ∧ target = target' ∧ Path.Undotted left left'
  | _, _ => False

/-- A stride that ends in a folder or at a link goes the same way without the parts that stay
in place. -/
theorem stride_undotted {ps qs : List String} (hundotted : Path.Undotted ps qs)
    {entry : Option (NodeId × String)} (entry' : Option (NodeId × String)) {current : NodeId}
    {above : List NodeId} {stride : Stride}
    (h : d.stride true entry current above ps = .ok stride) (hleads : Stride.Leads d stride) :
    ∃ stride', d.stride true entry' current above qs = .ok stride' ∧
      Stride.Alike stride stride' := by
  induction hundotted generalizing entry entry' current above with
  | nil =>
    cases h
    exact ⟨_, rfl, rfl⟩
  | @keep part rest rest' hrest ih =>
    rw [stride_cons] at h ⊢
    cases hhop : d.hop current above part with
    | error e =>
      rw [hhop] at h
      cases h
    | ok result =>
      rw [hhop] at h
      cases result with
      | stand entry'' current' above' => exact ih entry'' h
      | missing =>
        simp only at h
        split at h
        · cases h
          exact hleads.elim
        · cases h
      | link id target =>
        simp only [Bool.not_true, Bool.and_false, Bool.false_eq_true, if_false] at h ⊢
        cases h
        exact ⟨_, rfl, rfl, rfl, rfl, hrest⟩
  | drop hrest ih =>
    rw [stride_cons] at h
    have hhop : d.hop current above "." = .ok (.stand none current above) ∨
        d.hop current above "." = .error .notFolder := by
      simp only [hop]
      split
      · exact .inl rfl
      · exact .inr rfl
    rcases hhop with hhop | hhop
    · rw [hhop] at h
      exact ih entry' h
    · rw [hhop] at h
      cases h

theorem walk_undotted {ps qs : List String} (hundotted : Path.Undotted ps qs) {links : Nat}
    {current : NodeId} {above : List NodeId} {folder : NodeId} {entry : Option (NodeId × String)}
    (h : d.walk true links current above ps = .ok (.taken folder entry))
    (hfolder : d.IsFolder folder) :
    ∃ entry', d.walk true links current above qs = .ok (.taken folder entry') := by
  induction links using Nat.strong_induction_on generalizing current above ps qs with
  | _ links ih =>
    rw [walk_eq] at h
    cases hstride : d.stride true none current above ps with
    | error e =>
      rw [hstride] at h
      cases h
    | ok stride =>
      rw [hstride] at h
      cases stride with
      | arrived place =>
        cases h
        obtain ⟨stride', hqs, halike⟩ := stride_undotted hundotted none hstride hfolder
        cases stride' with
        | arrived place' =>
          cases place' with
          | taken id entry' =>
            obtain rfl : folder = id := halike
            exact ⟨entry', by rw [walk_eq, hqs]⟩
          | free => exact halike.elim
        | jump => exact halike.elim
      | jump id higher target left =>
        obtain ⟨stride', hqs, halike⟩ := stride_undotted hundotted none hstride trivial
        cases stride' with
        | arrived place' => exact halike.elim
        | jump id' higher' target' left' =>
          obtain ⟨rfl, rfl, rfl, hleft⟩ := halike
          cases links with
          | zero => cases h
          | succ fewer =>
            have hmore := hleft.append_left (steps target)
            obtain ⟨entry', hwalk⟩ := ih fewer (Nat.lt_succ_self fewer) hmore h
            exact ⟨entry', by rw [walk_eq, hqs]; exact hwalk⟩

/-! ### The last part -/

theorem stride_free_follow {entry : Option (NodeId × String)} {current : NodeId}
    {above : List NodeId} {ps : List String} {stride : Stride}
    (h : d.stride false entry current above ps = .ok stride)
    (hfree : ∀ id last, stride ≠ .arrived (.taken id last)) :
    d.stride true entry current above ps = .ok stride := by
  induction ps generalizing entry current above with
  | nil =>
    cases h
    exact absurd rfl (hfree current entry)
  | cons p ps ih =>
    rw [stride_cons] at h ⊢
    cases hhop : d.hop current above p with
    | error e =>
      rw [hhop] at h
      cases h
    | ok result =>
      rw [hhop] at h
      cases result with
      | stand entry' current' above' => exact ih h
      | missing => exact h
      | link id target =>
        simp only at h ⊢
        split at h
        · cases h
          exact absurd rfl (hfree _ _)
        · simpa using h

/-- A place is found free whether or not a link at the end would have been followed. -/
theorem walk_free_follow {links : Nat} {current : NodeId} {above : List NodeId}
    {ps : List String} {folder : NodeId} {name : String}
    (h : d.walk false links current above ps = .ok (.free folder name)) :
    d.walk true links current above ps = .ok (.free folder name) := by
  induction links using Nat.strong_induction_on generalizing current above ps with
  | _ links ih =>
    rw [walk_eq] at h ⊢
    cases hstride : d.stride false none current above ps with
    | error e =>
      rw [hstride] at h
      cases h
    | ok stride =>
      rw [hstride] at h
      cases stride with
      | arrived place =>
        cases h
        rw [stride_free_follow hstride (by simp)]
      | jump id higher target left =>
        rw [stride_free_follow hstride (by simp)]
        cases links with
        | zero => cases h
        | succ fewer => exact ih fewer (Nat.lt_succ_self fewer) h

/-- What more parts make of a stride that did not arrive anywhere. -/
def Stride.past (more : List String) : Stride → Except SysError Stride
  | .arrived _ => .error .notFound
  | .jump id higher target left => .ok (.jump id higher target (left ++ more))

theorem stride_append (d : Disk) (follow : Bool) {ps more : List String} (hmore : more ≠ [])
    {entry : Option (NodeId × String)} {current : NodeId} {above : List NodeId} {stride : Stride}
    (h : d.stride true entry current above ps = .ok stride)
    (hfree : ∀ id last, stride ≠ .arrived (.taken id last)) :
    d.stride follow entry current above (ps ++ more) = Stride.past more stride := by
  induction ps generalizing entry current above with
  | nil =>
    cases h
    exact absurd rfl (hfree current entry)
  | cons p ps ih =>
    have hlong : (ps ++ more).isEmpty = false := by simp [hmore]
    rw [List.cons_append, stride_cons]
    rw [stride_cons] at h
    cases hhop : d.hop current above p with
    | error e =>
      rw [hhop] at h
      cases h
    | ok result =>
      rw [hhop] at h
      cases result with
      | stand entry' current' above' => exact ih h
      | missing =>
        simp only [hlong, Bool.false_eq_true, if_false]
        simp only at h
        split at h <;> cases h
        rfl
      | link id target =>
        simp only [hlong, Bool.false_and, Bool.false_eq_true, if_false]
        simp only [Bool.not_true, Bool.and_false, Bool.false_eq_true, if_false] at h
        cases h
        rfl

/-- Behind a free place there is nothing. -/
theorem walk_past_free {follow : Bool} {links : Nat} {current : NodeId} {above : List NodeId}
    {ps more : List String} {folder : NodeId} {name : String}
    (h : d.walk true links current above ps = .ok (.free folder name)) (hmore : more ≠ []) :
    d.walk follow links current above (ps ++ more) = .error .notFound := by
  induction links using Nat.strong_induction_on generalizing current above ps with
  | _ links ih =>
    rw [walk_eq] at h ⊢
    cases hstride : d.stride true none current above ps with
    | error e =>
      rw [hstride] at h
      cases h
    | ok stride =>
      rw [hstride] at h
      cases stride with
      | arrived place =>
        cases h
        rw [stride_append d follow hmore hstride (by simp)]
        rfl
      | jump id higher target left =>
        rw [stride_append d follow hmore hstride (by simp)]
        simp only [Stride.past]
        cases links with
        | zero => cases h
        | succ fewer =>
          have hnext := ih fewer (Nat.lt_succ_self fewer) h
          rw [List.append_assoc] at hnext
          exact hnext

end ScriptCache.Disk
