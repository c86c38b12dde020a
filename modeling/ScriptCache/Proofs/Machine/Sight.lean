import Mathlib
import ScriptCache.Proofs.Machine.Reading
import ScriptCache.Proofs.Machine.Reach

/-! What is seen at paths, on any disk.

Nothing is asked of the disk here: links may lead anywhere, names may stand for one node in many
folders, entries may stand for nothing. A walk that arrives at a node arrives there on a disk with
one node more (`walk_of_added`); and where that node is an empty file, a walk that came to nothing
comes to nothing or to the new file (`reach_added`). So a file that is asked for and made where it
was missing (`ensureFile`) is all that can be seen of the change, at whatever path leads to it
(`gains_of_ensureFile`). -/
namespace ScriptCache

/-- What a node is, apart from the entries of a folder. -/
def Node.face : Node → Node
  | .folder _ => .folder []
  | node => node

namespace Disk

variable {d d' : Disk} {node : Node} {path : String} {follow : Bool}

/-! ### One part of a walk -/

/-- Where a walk stands behind an entry. -/
def behind (d : Disk) (current : NodeId) (above : List NodeId) (part : String) (id : NodeId) : Hop :=
  match d.node? id with
  | some (.link target) => .link id target
  | _ => .stand (some (current, part)) id (current :: above)

theorem hop_of_isFolder {current : NodeId} (h : d.IsFolder current) (above : List NodeId)
    (part : String) : d.hop current above part =
      if part = "." then .ok (.stand none current above)
      else if part = ".." then
        match above with
        | [] => .ok (.stand none current [])
        | up :: higher => .ok (.stand none up higher)
      else if nameLimit < Name.size part then .error .nameTooLong
      else
        match d.child? current part with
        | none => .ok .missing
        | some id => .ok (d.behind current above part id) := by
  obtain ⟨entries, hnode⟩ := h
  simp only [hop, child?, hnode]
  split_ifs
  · rfl
  · rfl
  · rfl
  · cases entries.lookup part with
    | none => rfl
    | some id =>
      simp only [behind]
      rcases d.node? id with _ | _ | _ | _ | _ <;> rfl

theorem hop_of_not_isFolder {current : NodeId} (h : ¬ d.IsFolder current) (above : List NodeId)
    (part : String) : d.hop current above part = .error .notFolder := by
  simp only [hop]
  split
  · rename_i entries hnode
    exact absurd ⟨entries, hnode⟩ h
  · rfl

/-- Behind an entry is what was there, whatever node was added that is no link. -/
theorem Added.behind (h : d.Added node d') (hnode : ∀ target, node ≠ .link target)
    (current : NodeId) (above : List NodeId) (part : String) (id : NodeId) :
    d'.behind current above part id = d.behind current above part id := by
  obtain ⟨folder, name, ⟨-, entries, hfolder, -⟩, rfl⟩ := h
  simp only [Disk.behind, node?_add hfolder]
  by_cases hnew : id = d.nodes.length
  · have hnone : d.node? id = none := by simp [Disk.node?, hnew]
    simp only [if_pos hnew, hnone]
    split
    · rename_i target htarget
      exact absurd (Option.some.inj htarget) (hnode target)
    · rfl
  · rw [if_neg hnew]
    by_cases hsame : id = folder
    · simp only [hsame, if_true, hfolder]
    · rw [if_neg hsame]

/-- One part of a walk on a disk with one node more: it goes as before, or where the name was
missing it comes to the new node, or it stood where there was nothing. -/
theorem hop_added (h : d.Added node d') (hnode : ∀ target, node ≠ .link target)
    (current : NodeId) (above : List NodeId) (part : String) :
    d'.hop current above part = d.hop current above part ∨
      d.hop current above part = .ok .missing ∧ d'.hop current above part =
        .ok (.stand (some (current, part)) d.nodes.length (current :: above)) ∨
      d.hop current above part = .error .notFolder ∧ current = d.nodes.length := by
  by_cases hcurrent : d.IsFolder current
  · have hbehind := h.behind hnode current above part
    have hgrown := h.grows.isFolder hcurrent
    obtain ⟨folder, name, hvacancy, rfl⟩ := h
    rw [hop_of_isFolder hcurrent, hop_of_isFolder hgrown, child?_add hvacancy hcurrent]
    obtain ⟨-, hfolder, hfree⟩ := vacancy_iff.mp hvacancy
    split_ifs with hdot hup hlong hhere
    · exact .inl rfl
    · exact .inl rfl
    · exact .inl rfl
    · obtain ⟨rfl, rfl⟩ := hhere
      rw [hfree]
      refine .inr (.inl ⟨rfl, ?_⟩)
      have hnone : d.node? d.nodes.length = none := by simp [Disk.node?]
      simp only [hbehind]
      rw [Disk.behind, hnone]
    · cases d.child? current part with
      | none => exact .inl rfl
      | some id => exact .inl (by simp only [hbehind])
  · rw [hop_of_not_isFolder hcurrent]
    by_cases hnew : current = d.nodes.length
    · exact .inr (.inr ⟨rfl, hnew⟩)
    · refine .inl (hop_of_not_isFolder ?_ above part)
      obtain ⟨folder, name, ⟨-, entries, hfolder, -⟩, rfl⟩ := h
      rintro ⟨inner, hinner⟩
      rw [node?_add hfolder, if_neg hnew] at hinner
      split at hinner
      · rename_i hsame
        exact hcurrent ⟨entries, hsame ▸ hfolder⟩
      · exact hcurrent ⟨inner, hinner⟩

/-! ### Walks that arrive -/

theorem stride_of_added (h : d.Added node d') (hnode : ∀ target, node ≠ .link target)
    {entry : Option (NodeId × String)} {current : NodeId} {above : List NodeId}
    {ps : List String} {stride : Stride}
    (hstride : d.stride follow entry current above ps = .ok stride)
    (htaken : ∀ folder name, stride ≠ .arrived (.free folder name)) :
    d'.stride follow entry current above ps = .ok stride := by
  induction ps generalizing entry current above with
  | nil => exact hstride
  | cons p ps ih =>
    rw [stride_cons] at hstride ⊢
    rcases hop_added h hnode current above p with hsame | ⟨hmissing, -⟩ | ⟨herror, -⟩
    · rw [hsame]
      cases hhop : d.hop current above p with
      | error e =>
        rw [hhop] at hstride
        cases hstride
      | ok result =>
        rw [hhop] at hstride
        cases result with
        | stand entry' current' above' => exact ih hstride
        | missing => exact hstride
        | link id target => exact hstride
    · rw [hmissing] at hstride
      simp only at hstride
      split at hstride
      · cases hstride
        exact absurd rfl (htaken current p)
      · cases hstride
    · rw [herror] at hstride
      cases hstride

/-- A walk that arrives at a node arrives there when another node was added. -/
theorem walk_of_added (h : d.Added node d') (hnode : ∀ target, node ≠ .link target) {links : Nat}
    {current : NodeId} {above : List NodeId} {ps : List String} {id : NodeId}
    {entry : Option (NodeId × String)}
    (hwalk : d.walk follow links current above ps = .ok (.taken id entry)) :
    d'.walk follow links current above ps = .ok (.taken id entry) := by
  induction links using Nat.strong_induction_on generalizing current above ps with
  | _ links ih =>
    rw [walk_eq] at hwalk ⊢
    cases hstride : d.stride follow none current above ps with
    | error e =>
      rw [hstride] at hwalk
      cases hwalk
    | ok stride =>
      rw [hstride] at hwalk
      cases stride with
      | arrived place =>
        cases hwalk
        rw [stride_of_added h hnode hstride (by simp)]
      | jump at_ higher target left =>
        rw [stride_of_added h hnode hstride (by simp)]
        cases links with
        | zero => cases hwalk
        | succ fewer => exact ih fewer (Nat.lt_succ_self fewer) hwalk

/-- A walk to a file comes to where a walk along the path comes. -/
theorem walk_of_walkToFile {links : Nat} {slash : Bool} {current : NodeId} {above : List NodeId}
    {ps : List String} {place : Place}
    (h : d.walkToFile links slash current above ps = .ok place) :
    slash = false ∧ d.walk true links current above ps = .ok place := by
  induction links using Nat.strong_induction_on generalizing slash current above ps with
  | _ links ih =>
    cases slash with
    | true =>
      unfold walkToFile at h
      cases hwalk : d.walk true links current above (ps.dropLast ++ ["."]) <;>
        simp [hwalk, bind, Except.bind] at h
    | false =>
      refine ⟨rfl, ?_⟩
      rw [walkToFile_eq] at h
      rw [walk_eq]
      cases hstride : d.stride true none current above ps with
      | error e =>
        rw [hstride] at h
        cases h
      | ok stride =>
        rw [hstride] at h
        cases stride with
        | arrived place' => exact h
        | jump at_ higher target left =>
          cases links with
          | zero => cases h
          | succ fewer =>
            simp only at h ⊢
            split at h
            · rename_i hlast
              obtain ⟨hslash, hwalk⟩ := ih fewer (Nat.lt_succ_self fewer) h
              have hsteps : steps target ++ left = Path.parts target := by
                simp [steps, hslash, List.isEmpty_iff.mp hlast]
              rw [hsteps, hwalk]
            · exact (ih fewer (Nat.lt_succ_self fewer) h).2

/-! ### Where paths lead -/

/-- The node that a path leads to, if any. -/
def reach (d : Disk) (follow : Bool) (path : String) : Option NodeId :=
  match d.locate follow path with
  | .ok (.taken id _) => some id
  | _ => none

theorem reach_eq_some {id : NodeId} :
    d.reach follow path = some id ↔ ∃ entry, d.locate follow path = .ok (.taken id entry) := by
  simp only [reach]
  split
  · rename_i id' entry hplace
    simp [hplace]
  · rename_i hno
    simp only [reduceCtorEq, false_iff]
    rintro ⟨entry, hplace⟩
    exact hno id entry hplace

theorem locateSteps_eq_ok {ps : List String} {place : Place} :
    d.locateSteps follow path ps = .ok place ↔ checkPath path = .ok () ∧
      d.walk follow linkLimit (d.start path).1 (d.start path).2 ps = .ok place := by
  simp only [locateSteps, bind, Except.bind]
  cases checkPath path <;> simp

theorem locate_eq_ok {place : Place} : d.locate follow path = .ok place ↔
    checkPath path = .ok () ∧
      d.walk follow linkLimit (d.start path).1 (d.start path).2 (steps path) = .ok place :=
  locateSteps_eq_ok

theorem Added.start (h : d.Added node d') (path : String) : d'.start path = d.start path :=
  start_of_here h.grows.here path

theorem reach_of_added (h : d.Added node d') (hnode : ∀ target, node ≠ .link target) {id : NodeId}
    (hreach : d.reach follow path = some id) : d'.reach follow path = some id := by
  obtain ⟨entry, hplace⟩ := reach_eq_some.mp hreach
  obtain ⟨hcheck, hwalk⟩ := locate_eq_ok.mp hplace
  refine reach_eq_some.mpr ⟨entry, locate_eq_ok.mpr ⟨hcheck, ?_⟩⟩
  rw [h.start]
  exact walk_of_added h hnode hwalk

theorem find?_eq_reach (d : Disk) (path : String) :
    d.find? path = (d.reach true path).bind d.node? := by
  simp only [find?, reach]
  split <;> simp_all

/-! ### One empty file more -/

/-- Whether a stride came to nothing: it did not arrive at a node, and it is at no link. -/
def Lost (result : Except SysError Stride) : Prop :=
  ∀ stride, result = .ok stride → ∃ folder name, stride = .arrived (.free folder name)

theorem lost_error (e : SysError) : Lost (.error e) := nofun

theorem lost_missing (current : NodeId) (part : String) (rest : List String) :
    Lost (if rest.isEmpty then .ok (.arrived (.free current part)) else .error .notFound) := by
  intro stride h
  split at h
  · cases h
    exact ⟨current, part, rfl⟩
  · cases h

theorem Added.node?_new (h : d.Added node d') : d'.node? d.nodes.length = some node := by
  obtain ⟨folder, name, ⟨-, entries, hfolder, -⟩, rfl⟩ := h
  rw [node?_add hfolder, if_pos rfl]

theorem Added.new_not_isFolder (h : d.Added (.file []) d') : ¬ d'.IsFolder d.nodes.length := by
  rintro ⟨entries, hfolder⟩
  rw [h.node?_new] at hfolder
  cases hfolder

/-- Nothing is behind the new file. -/
theorem Added.hop_new (h : d.Added (.file []) d') (above : List NodeId) (part : String) :
    d'.hop d.nodes.length above part = .error .notFolder :=
  hop_of_not_isFolder h.new_not_isFolder above part

theorem hop_gain (h : d.Added (.file []) d') (current : NodeId) (above : List NodeId)
    (part : String) : d'.hop current above part = d.hop current above part ∨
      d.hop current above part = .ok .missing ∧ d'.hop current above part =
        .ok (.stand (some (current, part)) d.nodes.length (current :: above)) := by
  rcases hop_added h nofun current above part with hsame | hnew | ⟨herror, rfl⟩
  · exact .inl hsame
  · exact .inr hnew
  · exact .inl (by rw [herror, h.hop_new])

theorem stride_gain (h : d.Added (.file []) d') (follow : Bool)
    (entry : Option (NodeId × String)) (current : NodeId) (above : List NodeId)
    (ps : List String) :
    d'.stride follow entry current above ps = d.stride follow entry current above ps ∨
      Lost (d.stride follow entry current above ps) ∧
        (Lost (d'.stride follow entry current above ps) ∨
          ∃ last, d'.stride follow entry current above ps =
            .ok (.arrived (.taken d.nodes.length last))) := by
  induction ps generalizing entry current above with
  | nil => exact .inl rfl
  | cons p ps ih =>
    rw [stride_cons, stride_cons]
    rcases hop_gain h current above p with hsame | ⟨hmissing, hnew⟩
    · rw [hsame]
      cases d.hop current above p with
      | error e => exact .inl rfl
      | ok result =>
        cases result with
        | stand entry' current' above' => exact ih entry' current' above'
        | missing => exact .inl rfl
        | link id target => exact .inl rfl
    · rw [hmissing, hnew]
      refine .inr ⟨lost_missing current p ps, ?_⟩
      cases ps with
      | nil => exact .inr ⟨_, rfl⟩
      | cons q qs =>
        simp only [stride_cons, h.hop_new]
        exact .inl (lost_error _)

/-- A walk whose first stride came to nothing arrives at no node. -/
theorem walk_of_lost {links : Nat} {current : NodeId} {above : List NodeId} {ps : List String}
    (h : Lost (d.stride follow none current above ps)) (id : NodeId)
    (entry : Option (NodeId × String)) :
    d.walk follow links current above ps ≠ .ok (.taken id entry) := by
  rw [walk_eq]
  cases hstride : d.stride follow none current above ps with
  | error e => nofun
  | ok stride =>
    obtain ⟨folder, name, rfl⟩ := h stride hstride
    rintro ⟨⟩

/-- A walk on a disk with one empty file more comes where it came, or it came to nothing and
comes to nothing or to that file. -/
theorem walk_gain (h : d.Added (.file []) d') (follow : Bool) (links : Nat) (current : NodeId)
    (above : List NodeId) (ps : List String) :
    d'.walk follow links current above ps = d.walk follow links current above ps ∨
      (∀ id entry, d.walk follow links current above ps ≠ .ok (.taken id entry)) ∧
        ∀ id entry, d'.walk follow links current above ps = .ok (.taken id entry) →
          id = d.nodes.length := by
  induction links using Nat.strong_induction_on generalizing current above ps with
  | _ links ih =>
    rcases stride_gain h follow none current above ps with hsame | ⟨hlost, hlost' | ⟨last, hnew⟩⟩
    · rw [walk_eq, walk_eq, hsame]
      cases d.stride follow none current above ps with
      | error e => exact .inl rfl
      | ok stride =>
        cases stride with
        | arrived place => exact .inl rfl
        | jump at_ higher target left =>
          cases links with
          | zero => exact .inl rfl
          | succ fewer => exact ih fewer (Nat.lt_succ_self fewer) _ _ _
    · exact .inr ⟨walk_of_lost hlost, fun id entry hwalk => absurd hwalk (walk_of_lost hlost' id entry)⟩
    · refine .inr ⟨walk_of_lost hlost, fun id entry hwalk => ?_⟩
      rw [walk_eq, hnew] at hwalk
      cases hwalk
      rfl

/-- Where a path leads when an empty file was added: to where it led, or to the new file if it
led nowhere. -/
theorem reach_added (h : d.Added (.file []) d') (follow : Bool) (path : String) :
    d'.reach follow path = d.reach follow path ∨
      d.reach follow path = none ∧ d'.reach follow path = some d.nodes.length := by
  cases hreach : d.reach follow path with
  | some id => exact .inl (reach_of_added h nofun hreach)
  | none =>
    cases hreach' : d'.reach follow path with
    | none => exact .inl rfl
    | some id =>
      right
      obtain ⟨entry, hplace⟩ := reach_eq_some.mp hreach'
      obtain ⟨hcheck, hwalk⟩ := locate_eq_ok.mp hplace
      rw [h.start] at hwalk
      rcases walk_gain h follow linkLimit (d.start path).1 (d.start path).2 (steps path)
        with hsame | ⟨-, hnew⟩
      · rw [hsame] at hwalk
        have hbefore : d.reach follow path = some id :=
          reach_eq_some.mpr ⟨entry, locate_eq_ok.mpr ⟨hcheck, hwalk⟩⟩
        rw [hreach] at hbefore
        cases hbefore
      · exact ⟨rfl, by rw [hnew id entry hwalk]⟩

/-! ### The file that was asked for -/

theorem hop_fills {folder : NodeId} {name : String} (hvacancy : d.Vacancy folder name)
    {above : List NodeId} (h : d.hop folder above name = .ok .missing) :
    (d.add folder name (.file [])).hop folder above name =
      .ok (.stand (some (folder, name)) d.nodes.length (folder :: above)) := by
  have hadded : d.Added (.file []) (d.add folder name (.file [])) := ⟨folder, name, hvacancy, rfl⟩
  rcases hop_gain hadded folder above name with hsame | ⟨-, hnew⟩
  · -- The name is there now, so it cannot be missing.
    obtain ⟨-, entries, hnode, hlookup⟩ := hop_missing (hsame.trans h)
    have hentry : (d.add folder name (.file [])).child? folder name = none := by
      simp [child?, hnode, hlookup]
    rw [child?_add hvacancy (vacancy_iff.mp hvacancy).2.1, if_pos ⟨rfl, rfl⟩] at hentry
    cases hentry
  · exact hnew

theorem stride_fills {folder : NodeId} {name : String} (hvacancy : d.Vacancy folder name)
    {entry : Option (NodeId × String)} {current : NodeId} {above : List NodeId}
    {ps : List String}
    (h : d.stride follow entry current above ps = .ok (.arrived (.free folder name))) :
    (d.add folder name (.file [])).stride follow entry current above ps =
      .ok (.arrived (.taken d.nodes.length (some (folder, name)))) := by
  have hadded : d.Added (.file []) (d.add folder name (.file [])) := ⟨folder, name, hvacancy, rfl⟩
  induction ps generalizing entry current above with
  | nil => cases h
  | cons p ps ih =>
    rw [stride_cons] at h ⊢
    cases hhop : d.hop current above p with
    | error e =>
      rw [hhop] at h
      cases h
    | ok result =>
      rw [hhop] at h
      cases result with
      | stand entry' current' above' =>
        rcases hop_gain hadded current above p with hsame | ⟨hmissing, -⟩
        · rw [hsame, hhop]
          exact ih h
        · rw [hhop] at hmissing
          cases hmissing
      | missing =>
        cases ps with
        | nil =>
          cases h
          rw [hop_fills hvacancy hhop]
          rfl
        | cons q qs => cases h
      | link id target =>
        simp only at h
        split at h <;> cases h

/-- The walk that found a name free finds the file that was made there. -/
theorem walk_fills {folder : NodeId} {name : String} {links : Nat} {current : NodeId}
    {above : List NodeId} {ps : List String}
    (h : d.walk follow links current above ps = .ok (.free folder name)) :
    (d.add folder name (.file [])).walk follow links current above ps =
      .ok (.taken d.nodes.length (some (folder, name))) := by
  have hvacancy := walk_free h
  have hadded : d.Added (.file []) (d.add folder name (.file [])) := ⟨folder, name, hvacancy, rfl⟩
  induction links using Nat.strong_induction_on generalizing current above ps with
  | _ links ih =>
    rw [walk_eq] at h ⊢
    cases hstride : d.stride follow none current above ps with
    | error e =>
      rw [hstride] at h
      cases h
    | ok stride =>
      rw [hstride] at h
      cases stride with
      | arrived place =>
        cases h
        rw [stride_fills hvacancy hstride]
      | jump at_ higher target left =>
        rw [stride_of_added hadded nofun hstride (by simp)]
        cases links with
        | zero => cases h
        | succ fewer => exact ih fewer (Nat.lt_succ_self fewer) h

/-- What asking for a file comes to: the path led to it, or to a free name that it has now. -/
theorem ensureFile_eq_ok {id : NodeId} (h : d.ensureFile path = .ok (id, d')) :
    d' = d ∧ d.reach true path = some id ∧ ¬ d.IsFolder id ∨
      d.reach true path = none ∧ d.Added (.file []) d' ∧ id = d.nodes.length ∧
        d'.reach true path = some id := by
  obtain ⟨hcheck, ⟨folder, name, hplace, rfl, rfl⟩ | ⟨entry, hplace, hnot, rfl⟩⟩ :=
    ensureFile_eq_ok_iff.mp h
  · obtain ⟨hslash, hwalk⟩ := walk_of_walkToFile hplace
    rw [← steps_of_slashless hslash] at hwalk
    have hadded : d.Added (.file []) (d.add folder name (.file [])) :=
      ⟨folder, name, walk_free hwalk, rfl⟩
    refine .inr ⟨?_, hadded, rfl, reach_eq_some.mpr ⟨some (folder, name), locate_eq_ok.mpr
      ⟨hcheck, ?_⟩⟩⟩
    · have hplaced : d.locate true path = .ok (.free folder name) :=
        locate_eq_ok.mpr ⟨hcheck, hwalk⟩
      simp only [reach, hplaced]
    · rw [hadded.start]
      exact walk_fills hwalk
  · obtain ⟨hslash, hwalk⟩ := walk_of_walkToFile hplace
    rw [← steps_of_slashless hslash] at hwalk
    exact .inl ⟨rfl, reach_eq_some.mpr ⟨entry, locate_eq_ok.mpr ⟨hcheck, hwalk⟩⟩, hnot⟩

/-! ### What is seen at a path -/

/-- What stands at a path, the entries of a folder aside. -/
def sight (d : Disk) (follow : Bool) (path : String) : Option Node :=
  ((d.reach follow path).bind d.node?).map Node.face

/-- Whether all that can be seen of a change is an empty file at the node that a path leads to:
whatever is at other paths is as it was, and what is new is this file. -/
def GainsFile (path : String) (d d' : Disk) : Prop :=
  ∀ follow other, d'.sight follow other = d.sight follow other ∨
    d.sight follow other = none ∧ d'.sight follow other = some (.file []) ∧
      ∃ id, d'.reach follow other = some id ∧ d'.reach true path = some id

theorem GainsFile.refl (path : String) (d : Disk) : d.GainsFile path d :=
  fun _ _ => .inl rfl

theorem Added.face (h : d.Added node d') {id : NodeId} (hid : id ≠ d.nodes.length) :
    (d'.node? id).map Node.face = (d.node? id).map Node.face := by
  obtain ⟨folder, name, ⟨-, entries, hfolder, -⟩, rfl⟩ := h
  rw [node?_add hfolder, if_neg hid]
  by_cases hsame : id = folder
  · rw [if_pos hsame, hsame, hfolder]
    rfl
  · rw [if_neg hsame]

/-- What stands at a path stands there when a node was added that is no link. -/
theorem sight_of_added (h : d.Added node d') (hnode : ∀ target, node ≠ .link target) {face : Node}
    (hsight : d.sight follow path = some face) : d'.sight follow path = some face := by
  obtain ⟨old, hold, rfl⟩ := Option.map_eq_some_iff.mp hsight
  obtain ⟨id, hreach, hid⟩ := Option.bind_eq_some_iff.mp hold
  have hne : id ≠ d.nodes.length := Nat.ne_of_lt (List.getElem?_eq_some_iff.mp hid).1
  have hface := h.face hne
  rw [sight, reach_of_added h hnode hreach, Option.bind_some, hface, hid, Option.map_some]

/-- At every path stands what stood there, or the new file where there was nothing. -/
theorem sight_added (h : d.Added (.file []) d') (follow : Bool) (path : String) :
    d'.sight follow path = d.sight follow path ∨
      d.sight follow path = none ∧ d'.sight follow path = some (.file []) ∧
        d'.reach follow path = some d.nodes.length := by
  have hbefore : d.node? d.nodes.length = none := by simp [Disk.node?]
  rcases reach_added h follow path with hsame | ⟨hnone, hnew⟩
  · simp only [sight, hsame]
    cases d.reach follow path with
    | none => exact .inl rfl
    | some id =>
      simp only [Option.bind_some]
      by_cases hid : id = d.nodes.length
      · subst hid
        exact .inr ⟨by rw [hbefore]; rfl, by rw [h.node?_new]; rfl, rfl⟩
      · exact .inl (h.face hid)
  · refine .inr ⟨by simp [sight, hnone], ?_, hnew⟩
    simp only [sight, hnew, Option.bind_some, h.node?_new]
    rfl

/-- All that can be seen of a file being asked for is the file. -/
theorem gains_of_ensureFile {id : NodeId} (h : d.ensureFile path = .ok (id, d')) :
    d.GainsFile path d' := by
  rcases ensureFile_eq_ok h with ⟨rfl, -, -⟩ | ⟨-, hadded, rfl, hreach⟩
  · exact .refl path _
  · intro follow other
    rcases sight_added hadded follow other with hsame | ⟨hnone, hnew, hother⟩
    · exact .inl hsame
    · exact .inr ⟨hnone, hnew, _, hother, hreach⟩

/-- Whether a disk is another one, perhaps with the file at a path made, empty, where it was
missing. -/
def Ensured (path : String) (d d' : Disk) : Prop :=
  d' = d ∨ ∃ id, d.ensureFile path = .ok (id, d')

theorem Ensured.gains (h : d.Ensured path d') : d.GainsFile path d' := by
  rcases h with rfl | ⟨id, hensured⟩
  · exact .refl path _
  · exact gains_of_ensureFile hensured

theorem Ensured.same_or_added (h : d.Ensured path d') : d' = d ∨ d.Added (.file []) d' := by
  rcases h with rfl | ⟨id, hensured⟩
  · exact .inl rfl
  · rcases ensureFile_eq_ok hensured with ⟨rfl, -, -⟩ | ⟨-, hadded, -, -⟩
    · exact .inl rfl
    · exact .inr hadded

/-- Whether all that stands at paths on a disk stands there on another, files with their bytes. -/
def Preserves (d d' : Disk) : Prop :=
  ∀ follow path face, d.sight follow path = some face → d'.sight follow path = some face

theorem Preserves.refl (d : Disk) : d.Preserves d :=
  fun _ _ _ h => h

theorem Preserves.trans {d'' : Disk} (h : d.Preserves d') (h' : d'.Preserves d'') :
    d.Preserves d'' :=
  fun follow path face hface => h' follow path face (h follow path face hface)

theorem Added.preserves (h : d.Added node d') (hnode : ∀ target, node ≠ .link target) :
    d.Preserves d' :=
  fun _ _ _ hface => sight_of_added h hnode hface

theorem Ensured.preserves (h : d.Ensured path d') : d.Preserves d' := by
  rcases h.same_or_added with rfl | hadded
  · exact .refl _
  · exact hadded.preserves nofun

/-! ### Opening and reading -/

theorem exists?_eq_sight (d : Disk) (path : String) :
    d.exists? path = (d.sight true path).isSome := by
  simp only [exists?, find?_eq_reach, sight, Option.isSome_map]

theorem exists?_of_added (h : d.Added (.file []) d') (hexists : d.exists? path = true) :
    d'.exists? path = true := by
  rw [exists?_eq_sight, Option.isSome_iff_exists] at hexists ⊢
  obtain ⟨face, hface⟩ := hexists
  exact ⟨face, h.preserves nofun true path face hface⟩

theorem existing_eq_ok {id : NodeId} :
    d.existing path false = .ok id ↔ d.reach true path = some id := by
  rw [reach_eq_some, existing]
  cases hplace : d.locate true path with
  | error e => simp [bind, Except.bind]
  | ok place =>
    cases place with
    | free => simp [bind, Except.bind]
    | taken other entry => simp [bind, Except.bind]

/-- What exists can be opened. -/
theorem existing_of_exists (hexists : d.exists? path = true) :
    ∃ id, d.existing path false = .ok id := by
  rw [exists?, find?_eq_reach, Option.isSome_iff_exists] at hexists
  obtain ⟨found, hfound⟩ := hexists
  obtain ⟨id, hreach, -⟩ := Option.bind_eq_some_iff.mp hfound
  exact ⟨id, existing_eq_ok.mpr hreach⟩

/-- What could be opened is the same when an empty file was added. -/
theorem Added.existing (h : d.Added (.file []) d') {id : NodeId}
    (hexisting : d.existing path false = .ok id) : d'.existing path false = .ok id :=
  existing_eq_ok.mpr (reach_of_added h nofun (existing_eq_ok.mp hexisting))

/-- Adding an empty file changes nothing about what is read of a node: of one that is not there
nothing is read either. -/
theorem Added.bytes? (h : d.Added (.file []) d') (id : NodeId) : d'.bytes? id = d.bytes? id := by
  obtain ⟨folder, name, ⟨-, entries, hnode, -⟩, rfl⟩ := h
  rw [Disk.bytes?, Disk.bytes?, node?_add hnode]
  by_cases hnew : id = d.nodes.length
  · have hnone : d.node? id = none := by simp [Disk.node?, hnew]
    rw [if_pos hnew, hnone]
  · rw [if_neg hnew]
    by_cases hfolder : id = folder
    · rw [if_pos hfolder, hfolder, hnode]
    · rw [if_neg hfolder]

/-- What is no folder is none when a file was added. -/
theorem Added.not_isFolder (h : d.Added (.file []) d') {id : NodeId} (hid : ¬ d.IsFolder id) :
    ¬ d'.IsFolder id := by
  rintro ⟨entries, hnode⟩
  obtain ⟨folder, name, ⟨-, inner, hadded, -⟩, rfl⟩ := h
  have hne : id ≠ folder := fun heq => hid ⟨inner, heq ▸ hadded⟩
  rw [node?_add hadded, if_neg hne] at hnode
  split at hnode
  · cases hnode
  · exact hid ⟨entries, hnode⟩

/-- What is read at a path when an empty file was added: what was read there, unless the path led
nowhere. Then nothing is read of the new file, or there still is no file, if for another reason. -/
theorem contents?_added (h : d.Added (.file []) d') (path : String) :
    d'.contents? path = d.contents? path ∨ d.reach true path = none ∧
      (d'.contents? path = some (.ok []) ∨ ∃ e, d'.contents? path = some (.error e)) := by
  simp only [contents?]
  rcases reach_added h true path with hsame | ⟨hnone, hnew⟩
  · cases hreach : d.reach true path with
    | some id =>
      rw [existing_eq_ok.mpr hreach, existing_eq_ok.mpr (hsame.trans hreach)]
      exact .inl (h.bytes? id)
    | none =>
      cases hexisting : d'.existing path false with
      | error e => exact .inr ⟨rfl, .inr ⟨e, rfl⟩⟩
      | ok id =>
        rw [existing_eq_ok, hsame, hreach] at hexisting
        cases hexisting
  · refine .inr ⟨hnone, .inl ?_⟩
    rw [existing_eq_ok.mpr hnew]
    simp only [Disk.bytes?, h.node?_new]

end Disk

/-! ### Machines -/

namespace Machine

variable {m m' : Machine} {path : String}

/-- Whether a machine refuses what another one does and has its disk, or that with an empty file
more. -/
structure Gained (m m' : Machine) : Prop where
  refuses : m'.refuses = m.refuses
  disk : m'.disk = m.disk ∨ m.disk.Added (.file []) m'.disk

/-- What exists is opened as what it was. -/
theorem Gained.existing (h : m.Gained m') (hexists : m.disk.exists? path = true) :
    m'.existing path = m.existing path := by
  rcases h.disk with hsame | hadded
  · exact existing_of_same h.refuses hsame path
  · obtain ⟨id, hexisting⟩ := Disk.existing_of_exists hexists
    simp only [Machine.existing, opening, h.refuses, hexisting, hadded.existing hexisting]
    cases m.refuses path .read <;> rfl

/-- What is read at a path is what was read there, unless the path led nowhere. -/
theorem Gained.contents? (h : m.Gained m') (path : String) :
    m'.contents? path = m.contents? path ∨ m.disk.reach true path = none ∧
      (m'.contents? path = some (.ok []) ∨ ∃ e, m'.contents? path = some (.error e)) := by
  rcases h.disk with hsame | hadded
  · exact .inl (contents?_of_same h.refuses hsame path)
  · rw [contents?_eq, contents?_eq, h.refuses]
    cases m.refuses path .read with
    | some e => exact .inl rfl
    | none => exact Disk.contents?_added hadded path

/-- Nothing that is read without end is new. -/
theorem Gained.contents?_ends (h : m.Gained m') (hends : m.contents? path ≠ none) :
    m'.contents? path ≠ none := by
  rcases h.contents? path with hsame | ⟨-, hempty | ⟨e, herror⟩⟩
  · rwa [hsame]
  · simp [hempty]
  · simp [herror]

/-- What can be read is read. -/
theorem Gained.contents?_of_ok (h : m.Gained m') {content : Bytes}
    (hcontents : m.contents? path = some (.ok content)) :
    m'.contents? path = some (.ok content) := by
  rcases h.contents? path with hsame | ⟨hnone, -⟩
  · rw [hsame, hcontents]
  · obtain ⟨-, hdisk⟩ := contents?_eq_ok.mp hcontents
    rw [Disk.contents?] at hdisk
    cases hexisting : m.disk.existing path false with
    | error e =>
      rw [hexisting] at hdisk
      cases hdisk
    | ok id =>
      rw [Disk.existing_eq_ok, hnone] at hexisting
      cases hexisting

end Machine

end ScriptCache
