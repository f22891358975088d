import Vyoma.TimeTravel

/-!
# The disks under branches

A branch needs the disk of its source for as long as it lives. Nothing keeps count of that:
when a VM is stopped its disk is removed. New disks are made over files that are there, and in
places of their own, so a removal is all that can keep a disk from opening.
-/
namespace Vyoma.VmService
open FileTrees Overlays PointerChains Runs Storage

/-- Every file opens as a disk. -/
def DisksOpen (s : Site) : Prop := ∀ q, (s.files q).isSome → Opens s.disks q

/-- The ids that are drawn have not been used for a disk, and the image of a new VM is there. -/
def makesNew (dirs : Directories) (s : Site) : SiteAction → Bool
  | .boots _ o =>
    (s.files (place (vmDirPath dirs.data o.vmId ++ "/root.qcow2"))).isNone &&
    (s.files (place (vmDirPath dirs.data o.vmId ++ "/diff.cow"))).isNone &&
    match o.image with
    | .error _ => true
    | .ok image => (s.files (place image.rootfsSqfsPath)).isSome
  | .branches _ _ _ _ newVmId _ _ _ _ _ =>
    (s.files (place (joinPath (vmDir dirs.data newVmId) "root.qcow2"))).isNone
  | .restores _ _ newVmId _ _ _ _ =>
    dirs.home.all fun home => (s.files (place (Site.clonedDisk home newVmId))).isNone
  | _ => true

/-- Whatever is removed, no disk that stays is over it. -/
def KeepsBases (dirs : Directories) (s : Site) (a : SiteAction) : Prop :=
  ∀ q, (s.files q).isSome → Removes dirs s a q = false →
    ∀ p, Leads (below s.disks) q p → Removes dirs s a p = false

section Steps

variable {dirs : Directories} {s : Site} {a : SiteAction} {q : List String} {file : DiskFile}

theorem disks_eq_some_iff {image : DiskImage} :
    s.disks q = some image ↔ ∃ file, s.files q = some file ∧ file.image = image :=
  Option.map_eq_some_iff

/-- A disk that opens stands for itself, or is over one that opens. -/
theorem opens_backing (h : Opens s.disks q) (hfile : s.files q = some file) :
    file.image.backing = none ∨
      ∃ p, file.image.backing = some p ∧ Opens s.disks p := by
  have himage : s.disks q = some file.image := disks_eq_some_iff.mpr ⟨file, hfile, rfl⟩
  cases hbacking : file.image.backing with
  | none => exact .inl rfl
  | some p => exact .inr ⟨p, rfl, (opens_over_iff himage hbacking).mp h⟩

/-- What a step leaves stands for itself, or is over a disk that opens. -/
theorem backing_of_leaves (h : DisksOpen s) (hnew : makesNew dirs s a = true)
    (hleaves : Leaves dirs s a q file) :
    file.image.backing = none ∨ ∃ p, file.image.backing = some p ∧ Opens s.disks p := by
  cases hleaves with
  | @overlay request o =>
    unfold Site.overlayLeft
    split
    · next image _ himage =>
      dsimp only [makesNew] at hnew
      rw [himage] at hnew
      exact .inr ⟨_, rfl, h _ (Bool.and_eq_true_iff.mp hnew).2⟩
    · exact .inl rfl
  | cowFile => exact .inl rfl
  | branchOver hbacking => exact .inr ⟨_, rfl, h _ (Option.isSome_of_eq_some hbacking)⟩
  | branchBlank => exact .inl rfl
  | branchBroken => exact .inl rfl
  | copied hhome hsource =>
    exact opens_backing (h _ (Option.isSome_of_eq_some hsource)) hsource
  | copyBroken hhome => exact .inl rfl
  | hibernated hname => exact .inl rfl
  | @written vmId b d q image hq =>
    have hopens := opens_backing (h q (Option.isSome_of_eq_some hq)) hq
    exact hopens

theorem absurd_of_isNone {old : DiskFile} (hold : s.files q = some old)
    (hnew : (s.files q).isNone = true) : False := by
  rw [hold] at hnew
  cases hnew

/-- What a step leaves in the place of a file is over what that was over, if over anything. -/
theorem backing_kept_of_leaves (hnew : makesNew dirs s a = true)
    (hleaves : Leaves dirs s a q file) {old : DiskFile} (hold : s.files q = some old) :
    file.image.backing = old.image.backing ∨ file.image.backing = none := by
  cases hleaves with
  | overlay =>
    obtain ⟨hdisks, -⟩ := Bool.and_eq_true_iff.mp hnew
    exact (absurd_of_isNone hold (Bool.and_eq_true_iff.mp hdisks).1).elim
  | cowFile => exact .inr rfl
  | branchOver hbacking => exact (absurd_of_isNone hold hnew).elim
  | branchBlank => exact .inr rfl
  | branchBroken => exact .inr rfl
  | @copied _ _ newVmId _ _ _ _ home _ _ hhome hsource =>
    dsimp only [makesNew] at hnew
    rw [hhome] at hnew
    exact (absurd_of_isNone hold hnew).elim
  | copyBroken hhome => exact .inr rfl
  | hibernated hname => exact .inr rfl
  | written hq =>
    rw [hq] at hold
    cases hold
    exact .inl rfl

theorem disks_carried (hremoves : ∀ q, Removes dirs s a q = false)
    (hnew : makesNew dirs s a = true) : Carries s.disks (siteStep dirs s a).disks := by
  intro q image hq
  obtain ⟨old, hold, rfl⟩ := disks_eq_some_iff.mp hq
  obtain ⟨hgone, -⟩ | ⟨-, hsame | ⟨file, hfile, hleaves⟩⟩ := files_siteStep dirs s a q
  · rw [hremoves] at hgone
    cases hgone
  · exact ⟨old.image, disks_eq_some_iff.mpr ⟨old, hsame.trans hold, rfl⟩, .inl rfl⟩
  · exact ⟨file.image, disks_eq_some_iff.mpr ⟨file, hfile, rfl⟩,
      backing_kept_of_leaves hnew hleaves hold⟩

/-- While no file is removed, every file goes on opening, and so do the new ones. -/
theorem DisksOpen.siteStep (h : DisksOpen s) (hremoves : ∀ q, Removes dirs s a q = false)
    (hnew : makesNew dirs s a = true) : DisksOpen (siteStep dirs s a) := by
  have hcarried := disks_carried hremoves hnew
  intro q hq
  obtain ⟨hgone, -⟩ | ⟨-, hsame | ⟨file, hfile, hleaves⟩⟩ := files_siteStep dirs s a q
  · rw [hremoves] at hgone
    cases hgone
  · exact (h q (hsame ▸ hq)).carried hcarried
  · have himage : (VmService.siteStep dirs s a).disks q = some file.image :=
      disks_eq_some_iff.mpr ⟨file, hfile, rfl⟩
    obtain hbase | ⟨p, hover, hbelow⟩ := backing_of_leaves h hnew hleaves
    · exact .base himage hbase
    · exact .layered himage hover (hbelow.carried hcarried)

theorem disks_stopVm (o : Site.StopOutcomes) (io : Daemon.Append) (timestamp : UInt64)
    (vmId : String) :
    (s.stopVm dirs o io timestamp vmId).disks =
      remove (Removes dirs s (.stops o io timestamp vmId)) s.disks := by
  funext q
  rw [Site.disks, Site.files_stopVm, remove]
  cases Removes dirs s (.stops o io timestamp vmId) q with
  | true => rfl
  | false => rfl

/-- After a VM has been stopped every file opens exactly if what was removed is below no file
that is left. -/
theorem disksOpen_stopVm_iff (h : DisksOpen s) (o : Site.StopOutcomes) (io : Daemon.Append)
    (timestamp : UInt64) (vmId : String) :
    DisksOpen (s.stopVm dirs o io timestamp vmId) ↔
      KeepsBases dirs s (.stops o io timestamp vmId) := by
  have hopens : ∀ q, Opens (s.stopVm dirs o io timestamp vmId).disks q ↔ Opens s.disks q ∧
      ∀ p, Leads (below s.disks) q p → Removes dirs s (.stops o io timestamp vmId) p = false := by
    intro q
    rw [disks_stopVm]
    exact opens_remove_iff
  constructor
  · intro hopen q hq hkept
    have hleft : ((s.stopVm dirs o io timestamp vmId).files q).isSome := by
      rw [Site.files_stopVm, hkept]
      exact hq
    exact ((hopens q).mp (hopen q hleft)).2
  · intro hkeeps q hq
    rw [Site.files_stopVm] at hq
    cases hkept : Removes dirs s (.stops o io timestamp vmId) q with
    | true =>
      rw [hkept] at hq
      cases hq
    | false =>
      rw [hkept] at hq
      exact (hopens q).mpr ⟨h q hq, hkeeps q hq hkept⟩

theorem disksOpen_siteStep_iff (h : DisksOpen s) (hnew : makesNew dirs s a = true) :
    DisksOpen (siteStep dirs s a) ↔ KeepsBases dirs s a := by
  by_cases hremoves : ∀ q, Removes dirs s a q = false
  · exact iff_of_true (h.siteStep hremoves hnew) fun _ _ _ p _ => hremoves p
  · cases a with
    | stops o io timestamp vmId => exact disksOpen_stopVm_iff h o io timestamp vmId
    | _ => exact absurd (fun _ => rfl) hremoves

end Steps

/-- Where every file opens to begin with, every file opens in every state of a run exactly if
what is removed when a VM is stopped is never below a file that stays. -/
theorem stops_keep_disksOpen_iff {dirs : Directories} {s : Site} (hs : DisksOpen s)
    {run : List SiteAction}
    (hnew : Along (siteStep dirs) (fun s a => makesNew dirs s a = true) s run) :
    Throughout (siteStep dirs) DisksOpen s run ↔ Along (siteStep dirs) (KeepsBases dirs) s run :=
  throughout_iff_along hs (fun _ _ h ha => disksOpen_siteStep_iff h ha) hnew

def stopsFirst : SiteAction := .stops ⟨true, fun _ => true⟩ ⟨true, true, 0⟩ 0 "first"

theorem disksOpen_imagePulled : DisksOpen imagePulled := by
  intro q hq
  dsimp only [imagePulled] at hq
  split_ifs at hq with hbase
  · subst hbase
    exact .base rfl rfl
  · cases hq

/-- Its disk was over the one that has been removed. -/
theorem stopped_source_closes_branch :
    ¬Throughout (siteStep oneHost) DisksOpen imagePulled
      (snapshotOfFirst ++ [branchFromBase, stopsFirst]) := by
  have hnew : Along (siteStep oneHost) (fun s a => makesNew oneHost s a = true) imagePulled
      (snapshotOfFirst ++ [branchFromBase, stopsFirst]) := by
    decide
  intro hopen
  obtain ⟨-, -, -, -, hkeeps, -⟩ :=
    (stops_keep_disksOpen_iff disksOpen_imagePulled hnew).mp hopen
  have hkept := hkeeps (place branchDiskPath) (by decide) (by decide)
    (place "/data/.vyoma/vms/first/root.qcow2") (.single (by rfl))
  exact absurd hkept (by decide)

end Vyoma.VmService
