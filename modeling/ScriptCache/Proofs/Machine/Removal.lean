import Mathlib
import ScriptCache.Proofs.Machine.Faults
import ScriptCache.Proofs.Machine.Sight

/-! Names that are gone, and contents that change.

A path whose name was taken away leads nowhere, whatever disk it was and whatever links there are:
a walk goes on as before until it comes upon the name, and ends there (`walk_without`). Where there
was no name to take away the path led nowhere before (`walk_follow`). What is in files, on the other
hand, no walk looks at (`SameTree.walk`), so paths lead where they led after files were written
(`SameTree.reach`). -/
namespace ScriptCache

namespace Disk

variable {d d' : Disk} {path : String}

/-! ### Links at the end -/

/-- A stride that comes to nothing if it does not follow a link at the end comes to nothing if it
does. -/
theorem stride_follow_error {entry : Option (NodeId × String)} {current : NodeId}
    {above : List NodeId} {ps : List String} {e : SysError}
    (h : d.stride false entry current above ps = .error e) :
    d.stride true entry current above ps = .error e := by
  induction ps generalizing entry current above with
  | nil => cases h
  | cons p ps ih =>
    rw [stride_cons] at h ⊢
    cases hhop : d.hop current above p with
    | error e' =>
      rw [hhop] at h
      exact h
    | ok result =>
      rw [hhop] at h
      cases result with
      | stand entry' current' above' => exact ih h
      | missing => exact h
      | link id target =>
        simp only at h
        split at h <;> cases h

/-- A walk that arrives at a node arrives at one, too, if it does not follow a link at the end. -/
theorem walk_follow {links : Nat} {current : NodeId} {above : List NodeId} {ps : List String}
    {id : NodeId} {entry : Option (NodeId × String)}
    (h : d.walk true links current above ps = .ok (.taken id entry)) :
    ∃ id' entry', d.walk false links current above ps = .ok (.taken id' entry') := by
  induction links using Nat.strong_induction_on generalizing current above ps with
  | _ links ih =>
    rw [walk_eq] at h ⊢
    cases hstride : d.stride false none current above ps with
    | error e =>
      rw [stride_follow_error hstride] at h
      cases h
    | ok stride =>
      cases stride with
      | arrived place =>
        cases place with
        | taken id' entry' => exact ⟨id', entry', rfl⟩
        | free folder name =>
          rw [stride_free_follow hstride (by simp)] at h
          cases h
      | jump at_ higher target left =>
        rw [stride_free_follow hstride (by simp)] at h
        cases links with
        | zero => cases h
        | succ fewer => exact ih fewer (Nat.lt_succ_self fewer) h

/-! ### Without a name -/

theorem hop_dotted {current : NodeId} {above : List NodeId} {part : String} {result : Hop}
    (h : d.hop current above part = .ok result) (hpart : part = "." ∨ part = "..") :
    ∃ current' above', result = .stand none current' above' := by
  by_cases hfolder : d.IsFolder current
  · rw [hop_of_isFolder hfolder] at h
    rcases hpart with rfl | rfl
    · cases h
      exact ⟨_, _, rfl⟩
    · cases above <;> cases h <;> exact ⟨_, _, rfl⟩
  · rw [hop_of_not_isFolder hfolder] at h
    cases h

/-- Where a part was walked to by its name, the name is the part. -/
theorem hop_stand {current current' : NodeId} {above above' : List NodeId} {part : String}
    {named : NodeId × String}
    (h : d.hop current above part = .ok (.stand (some named) current' above')) :
    named = (current, part) := by
  by_cases hfolder : d.IsFolder current
  · rw [hop_of_isFolder hfolder] at h
    split_ifs at h
    · cases h
    · cases above <;> cases h
    · cases hchild : d.child? current part with
      | none =>
        rw [hchild] at h
        cases h
      | some id =>
        rw [hchild] at h
        simp only [behind, Except.ok.injEq] at h
        split at h
        · cases h
        · cases h
          rfl
  · rw [hop_of_not_isFolder hfolder] at h
    cases h

section

variable {folder : NodeId} {name : String}

theorem isFolder_without (h : d.IsFolder folder) (id : NodeId) :
    (d.without folder name).IsFolder id ↔ d.IsFolder id := by
  obtain ⟨entries, hnode⟩ := h
  simp only [IsFolder, node?_without hnode]
  by_cases hid : id = folder <;> simp [hid, hnode]

/-- One part of a walk on a disk without a name: it goes as before, unless it is at that name. -/
theorem hop_without (h : d.IsFolder folder) (name : String) (current : NodeId)
    (above : List NodeId) (part : String) :
    (d.without folder name).hop current above part = .ok .missing ∨
      (d.without folder name).hop current above part = d.hop current above part ∧
        (current = folder → part = name → part = "." ∨ part = ".." ∨
          ∃ e, d.hop current above part = .error e) := by
  by_cases hcurrent : d.IsFolder current
  · have hbehind (id : NodeId) : (d.without folder name).behind current above part id =
        d.behind current above part id := by
      obtain ⟨entries, hnode⟩ := h
      simp only [behind, node?_without hnode]
      by_cases hid : id = folder <;> simp [hid, hnode]
    have hchild : (d.without folder name).child? current part =
        if current = folder ∧ part = name then none else d.child? current part := by
      by_cases hsame : current = folder
      · rw [hsame, child?_without h]
        simp
      · obtain ⟨entries, hnode⟩ := h
        simp [child?, node?_without hnode, hsame]
    rw [hop_of_isFolder hcurrent, hop_of_isFolder ((isFolder_without h current).mpr hcurrent), hchild]
    split_ifs with hdot hup hlong hgone
    · exact .inr ⟨rfl, fun _ _ => .inl hdot⟩
    · exact .inr ⟨rfl, fun _ _ => .inr (.inl hup)⟩
    · exact .inr ⟨rfl, fun _ _ => .inr (.inr ⟨_, rfl⟩)⟩
    · exact .inl rfl
    · refine .inr ⟨?_, fun hfolder hname => absurd ⟨hfolder, hname⟩ hgone⟩
      cases d.child? current part with
      | none => rfl
      | some id => simp only [hbehind]
  · have hcurrent' : ¬ (d.without folder name).IsFolder current := fun hfolder =>
      hcurrent ((isFolder_without h current).mp hfolder)
    rw [hop_of_not_isFolder hcurrent, hop_of_not_isFolder hcurrent']
    exact .inr ⟨rfl, fun _ _ => .inr (.inr ⟨_, rfl⟩)⟩

/-- A stride that came to the name that is gone, or to a link before it, comes to nothing or to
that link. -/
theorem stride_without (h : d.IsFolder folder) {entry : Option (NodeId × String)}
    {current : NodeId} {above : List NodeId} {ps : List String} {stride : Stride}
    (hentry : ps = [] → entry ≠ some (folder, name))
    (hstride : d.stride false entry current above ps = .ok stride)
    (hend : ∀ place, stride = .arrived place → ∃ id, place = .taken id (some (folder, name))) :
    Lost ((d.without folder name).stride true entry current above ps) ∨
      (d.without folder name).stride true entry current above ps = .ok stride ∧
        ∀ place, stride ≠ .arrived place := by
  induction ps generalizing entry current above with
  | nil =>
    cases hstride
    obtain ⟨id, hplace⟩ := hend _ rfl
    cases hplace
    exact absurd rfl (hentry rfl)
  | cons p ps ih =>
    rw [stride_cons] at hstride ⊢
    rcases hop_without h name current above p with hmissing | ⟨hsame, hapart⟩
    · rw [hmissing]
      exact .inl (lost_missing current p ps)
    rw [hsame]
    cases hhop : d.hop current above p with
    | error e =>
      rw [hhop] at hstride
      cases hstride
    | ok result =>
      -- What is walked to here is not the name that is gone.
      have hother : current = folder → p = name → ∃ current' above',
          result = .stand none current' above' := by
        intro hfolder hname
        rcases hapart hfolder hname with hdot | hup | ⟨e, herror⟩
        · exact hop_dotted hhop (.inl hdot)
        · exact hop_dotted hhop (.inr hup)
        · rw [hhop] at herror
          cases herror
      rw [hhop] at hstride
      cases result with
      | stand entry' current' above' =>
        refine ih (fun _ => ?_) hstride
        rintro rfl
        obtain ⟨rfl, rfl⟩ := Prod.mk.inj (hop_stand hhop)
        obtain ⟨_, _, hstand⟩ := hother rfl rfl
        cases hstand
      | missing =>
        simp only at hstride
        split at hstride
        · cases hstride
          obtain ⟨id, hplace⟩ := hend _ rfl
          cases hplace
        · cases hstride
      | link id target =>
        simp only at hstride
        split at hstride
        · cases hstride
          obtain ⟨_, hplace⟩ := hend _ rfl
          cases hplace
          obtain ⟨_, _, hstand⟩ := hother rfl rfl
          cases hstand
        · cases hstride
          exact .inr ⟨by simp, nofun⟩

/-- A walk that came to a name arrives nowhere without it. -/
theorem walk_without (h : d.IsFolder folder) {links : Nat} {current : NodeId}
    {above : List NodeId} {ps : List String} {id : NodeId}
    (hwalk : d.walk false links current above ps = .ok (.taken id (some (folder, name))))
    (id' : NodeId) (entry : Option (NodeId × String)) :
    (d.without folder name).walk true links current above ps ≠ .ok (.taken id' entry) := by
  induction links using Nat.strong_induction_on generalizing current above ps with
  | _ links ih =>
    rw [walk_eq] at hwalk
    cases hstride : d.stride false none current above ps with
    | error e =>
      rw [hstride] at hwalk
      cases hwalk
    | ok stride =>
      rw [hstride] at hwalk
      have hend : ∀ place, stride = .arrived place →
          ∃ id, place = .taken id (some (folder, name)) := by
        rintro place rfl
        cases hwalk
        exact ⟨id, rfl⟩
      rcases stride_without h (fun _ => by simp) hstride hend with hlost | ⟨hsame, hjump⟩
      · exact walk_of_lost hlost id' entry
      · cases stride with
        | arrived place => exact absurd rfl (hjump place)
        | jump at_ higher target left =>
          rw [walk_eq, hsame]
          cases links with
          | zero => nofun
          | succ fewer => exact ih fewer (Nat.lt_succ_self fewer) hwalk

end

/-- Taking a name away succeeds where the path stands for it. -/
theorem unlink_eq_ok (h : d.unlink path = .ok d') : Path.endsInSlash path = false ∧
    ∃ id folder name, d.IsFolder folder ∧ d' = d.without folder name ∧
      d.locateSteps false path (Path.parts path) = .ok (.taken id (some (folder, name))) := by
  simp only [unlink, bind, Except.bind] at h
  cases hplace : d.locateSteps false path (Path.parts path) with
  | error e =>
    rw [hplace] at h
    cases h
  | ok place =>
    rw [hplace] at h
    cases place with
    | free folder name => cases h
    | taken id entry =>
      simp only at h
      split at h
      · cases h
      · cases h
      · rename_i folder name _
        split at h
        · cases h
        · rename_i hslash
          split at h
          · rename_i entries hnode
            cases h
            exact ⟨by simpa using hslash, id, folder, name, ⟨entries, hnode⟩,
              by simp only [without, hnode], rfl⟩
          · cases h

/-- A path whose name was taken away leads nowhere. -/
theorem reach_of_unlink (h : d.unlink path = .ok d') : d'.reach true path = none := by
  obtain ⟨hslash, id, folder, name, hfolder, rfl, hplace⟩ := unlink_eq_ok h
  by_contra hreach
  obtain ⟨id', hsome⟩ := Option.ne_none_iff_exists'.mp hreach
  obtain ⟨entry, hlocate⟩ := reach_eq_some.mp hsome
  obtain ⟨-, hwalk⟩ := locate_eq_ok.mp hlocate
  have hhere : (d.without folder name).here = d.here := by
    obtain ⟨entries, hnode⟩ := hfolder
    simp only [without, hnode, put]
  rw [steps_of_slashless hslash, start_of_here hhere] at hwalk
  exact walk_without hfolder (locateSteps_eq_ok.mp hplace).2 id' entry hwalk

/-- A path that there was no name to take away of led nowhere. -/
theorem reach_of_unlink_notFound (hslash : Path.endsInSlash path = false)
    (h : d.unlink path = .error .notFound) : d.reach true path = none := by
  by_contra hreach
  obtain ⟨id, hsome⟩ := Option.ne_none_iff_exists'.mp hreach
  obtain ⟨entry, hlocate⟩ := reach_eq_some.mp hsome
  obtain ⟨hcheck, hwalk⟩ := locate_eq_ok.mp hlocate
  rw [steps_of_slashless hslash] at hwalk
  obtain ⟨id', entry', hwalk'⟩ := walk_follow hwalk
  have hplace : d.locateSteps false path (Path.parts path) = .ok (.taken id' entry') :=
    locateSteps_eq_ok.mpr ⟨hcheck, hwalk'⟩
  simp only [unlink, hplace, hslash, bind, Except.bind, Bool.false_eq_true, if_false] at h
  split at h
  · cases h
  · cases h
  · split at h <;> cases h

/-! ### Other contents -/

/-- Whether two disks differ in nothing but what is in their files. -/
structure SameTree (d d' : Disk) : Prop where
  here : d'.here = d.here
  folder : ∀ id entries, d'.node? id = some (.folder entries) ↔ d.node? id = some (.folder entries)
  link : ∀ id target, d'.node? id = some (.link target) ↔ d.node? id = some (.link target)

theorem SameTree.refl (d : Disk) : d.SameTree d :=
  ⟨rfl, fun _ _ => .rfl, fun _ _ => .rfl⟩

theorem SameTree.trans {d'' : Disk} (h : d.SameTree d') (h' : d'.SameTree d'') : d.SameTree d'' :=
  ⟨h'.here.trans h.here, fun id entries => (h'.folder id entries).trans (h.folder id entries),
    fun id target => (h'.link id target).trans (h.link id target)⟩

theorem sameTree_put {id : NodeId} {content : Bytes} (h : d.node? id = some (.file content))
    (new : Bytes) : d.SameTree (d.put id (.file new)) := by
  have hlt : id < d.nodes.length := (List.getElem?_eq_some_iff.mp h).1
  refine ⟨rfl, fun other entries => ?_, fun other target => ?_⟩
  · rw [node?_put hlt]
    by_cases hother : other = id <;> simp [hother, h]
  · rw [node?_put hlt]
    by_cases hother : other = id <;> simp [hother, h]

theorem SameTree.hop (h : d.SameTree d') (current : NodeId) (above : List NodeId) (part : String) :
    d'.hop current above part = d.hop current above part := by
  have hbehind (id : NodeId) : d'.behind current above part id = d.behind current above part id := by
    have hlink := h.link id
    simp only [behind]
    split
    · rename_i target htarget
      rw [(hlink target).mp htarget]
    · rename_i hno
      split
      · rename_i target htarget
        exact absurd ((hlink target).mpr htarget) (hno target)
      · rfl
  by_cases hfolder : d.IsFolder current
  · obtain ⟨entries, hnode⟩ := hfolder
    have hnode' := (h.folder current entries).mpr hnode
    have hchild : d'.child? current part = d.child? current part := by
      simp only [child?, hnode, hnode']
    rw [hop_of_isFolder ⟨entries, hnode⟩, hop_of_isFolder ⟨entries, hnode'⟩, hchild]
    simp only [hbehind]
  · have hfolder' : ¬ d'.IsFolder current := by
      rintro ⟨entries, hnode⟩
      exact hfolder ⟨entries, (h.folder current entries).mp hnode⟩
    rw [hop_of_not_isFolder hfolder, hop_of_not_isFolder hfolder']

theorem SameTree.stride (h : d.SameTree d') (follow : Bool) (entry : Option (NodeId × String))
    (current : NodeId) (above : List NodeId) (ps : List String) :
    d'.stride follow entry current above ps = d.stride follow entry current above ps := by
  induction ps generalizing entry current above with
  | nil => rfl
  | cons p ps ih =>
    rw [stride_cons, stride_cons, h.hop]
    cases d.hop current above p with
    | error e => rfl
    | ok result => cases result <;> simp only [ih]

theorem SameTree.walk (h : d.SameTree d') (follow : Bool) (links : Nat) (current : NodeId)
    (above : List NodeId) (ps : List String) :
    d'.walk follow links current above ps = d.walk follow links current above ps := by
  induction links using Nat.strong_induction_on generalizing current above ps with
  | _ links ih =>
    rw [walk_eq, walk_eq, h.stride]
    cases d.stride follow none current above ps with
    | error e => rfl
    | ok stride =>
      cases stride with
      | arrived place => rfl
      | jump at_ higher target left =>
        cases links with
        | zero => rfl
        | succ fewer => exact ih fewer (Nat.lt_succ_self fewer) _ _ _

/-- Paths lead where they led, whatever was written to files. -/
theorem SameTree.reach (h : d.SameTree d') (follow : Bool) (path : String) :
    d'.reach follow path = d.reach follow path := by
  simp only [Disk.reach, locate, locateSteps, start_of_here h.here, h.walk]

end Disk

/-- Whether an action changes what is in an open file, or keeps what was changed. -/
def Action.Writes : Action → Prop
  | setLength .. | write .. | sync _ => True
  | _ => False

namespace Machine

variable {m m' : Machine} {action : Action} {reply : action.Reply}

theorem sameTree_perform (h : action.Writes) (m : Machine) :
    m.disk.SameTree (m.perform action).2.disk := by
  cases action with
  | setLength handle length =>
    simp only [perform, setLength]
    split
    · exact .refl _
    · split
      · rename_i content hnode
        exact Disk.sameTree_put hnode _
      · exact .refl _
  | write handle bytes =>
    simp only [perform, write]
    split
    · exact .refl _
    · split
      · exact .refl _
      · split
        · rename_i content hnode
          exact Disk.sameTree_put hnode _
        · exact .refl _
        · exact .refl _
        · exact .refl _
  | sync => exact .refl _
  | _ => exact h.elim

theorem Answers.sameTree (h : m.Answers action reply m') (hwrites : action.Writes) :
    m.disk.SameTree m'.disk := by
  cases h with
  | done => exact sameTree_perform hwrites m
  | failed => exact .refl _
  | partly handle bytes size =>
    have hpart : (Action.write handle (bytes.take size)).Writes := trivial
    exact sameTree_perform hpart m

end Machine

end ScriptCache
