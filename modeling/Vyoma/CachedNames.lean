import Vyoma.BaseImages
import Vyoma.RustText

/-!
# The names of conversions

The ext4 conversion of a root file system is kept under the path of that file, with the
separators turned into underscores. The files that a build can stand on are those of images
and the layers of commands. Among these, two with the same name for their conversions are
the same file, as long as no image name has a backslash: the other separators are taken
out of image names beforehand.
-/
namespace Vyoma.Build
open HostFiles
open RustText (isDigit_of_mem_toString natRepr_injective)

/-! ## Numbers in file names -/

theorem mem_toList_toString {n : ℤ} {c : Char} (h : c ∈ (toString n).toList) :
    c = '-' ∨ c.isDigit = true := by
  have hdigit : ∀ m : ℕ, c ∈ m.repr.toList → c.isDigit = true :=
    fun _ => isDigit_of_mem_toString
  rw [Int.toString_eq_repr, Int.repr_eq_if] at h
  split_ifs at h
  · exact .inr (hdigit _ h)
  · rw [String.toList_append, List.mem_append] at h
    obtain hminus | hrest := h
    · exact .inl (List.mem_singleton.mp hminus)
    · exact .inr (hdigit _ hrest)

theorem notMem_toString {c : Char} (hminus : c ≠ '-') (hdigit : c.isDigit = false) (n : ℤ) :
    c ∉ (toString n).toList := by
  intro h
  obtain hc | hc := mem_toList_toString h
  · exact hminus hc
  · rw [hdigit] at hc
    cases hc

theorem toString_injective {m n : ℤ} (h : toString m = toString n) : m = n := by
  have hminus : ∀ a b : ℕ, a.repr ≠ "-" ++ b.repr := by
    intro a b he
    have hmem : '-' ∈ (toString a).toList := by
      rw [Nat.toString_eq_repr, he]
      simp
    exact absurd (isDigit_of_mem_toString hmem) (by decide)
  rw [Int.toString_eq_repr, Int.toString_eq_repr, Int.repr_eq_if, Int.repr_eq_if] at h
  split_ifs at h with hm hn hn
  · have := natRepr_injective h
    omega
  · exact absurd h (hminus _ _)
  · exact absurd h.symm (hminus _ _)
  · have := natRepr_injective ((String.append_right_inj "-").mp h)
    omega

/-! ## The files a build can stand on -/

/-- The file name has none of the characters that names of conversions do not keep apart. -/
def Plain (name : String) : Prop := '/' ∉ name.toList ∧ ':' ∉ name.toList ∧ '\\' ∉ name.toList

def layerPath (nanos : ℤ) : HostPath := ⟨.temp, "layer_" ++ toString nanos ++ ".sqfs"⟩

inductive IsRootfs : HostPath → Prop
  | image {name : String} (h : Plain name) : IsRootfs ⟨.image name, "rootfs.sqfs"⟩
  | layer (nanos : ℤ) : IsRootfs (layerPath nanos)

theorem toList_replace (old new : Char) (s : String) :
    (replace old new s).toList = s.toList.map fun c => if c = old then new else c := by
  simp [replace]

theorem notMem_replace {old new : Char} (h : new ≠ old) (s : String) :
    old ∉ (replace old new s).toList := by
  rw [toList_replace]
  intro hmem
  obtain ⟨c, -, hc⟩ := List.mem_map.mp hmem
  split_ifs at hc with hold
  · exact h hc
  · exact hold hc

theorem notMem_replace_of_notMem {old new c : Char} {s : String} (hnew : new ≠ c)
    (h : c ∉ s.toList) : c ∉ (replace old new s).toList := by
  rw [toList_replace]
  intro hmem
  obtain ⟨d, hd, hc⟩ := List.mem_map.mp hmem
  split_ifs at hc
  · exact hnew hc
  · exact h (hc ▸ hd)

/-- An image whose name has no backslash is in a directory with a plain name. -/
theorem isRootfs_imageDir {image : String} (h : '\\' ∉ image.toList) :
    IsRootfs ⟨imageDir image, "rootfs.sqfs"⟩ := by
  have hplain : Plain (replace ':' '_' (replace '/' '_' image)) := by
    refine ⟨?_, ?_, ?_⟩
    · exact notMem_replace_of_notMem (by decide) (notMem_replace (by decide) image)
    · exact notMem_replace (by decide) _
    · exact notMem_replace_of_notMem (by decide) (notMem_replace_of_notMem (by decide) h)
  refine .image ?_
  split_ifs
  · unfold Plain
    decide
  · exact hplain

theorem plain_toString (n : ℤ) : Plain (toString n) :=
  ⟨notMem_toString (by decide) (by decide) n, notMem_toString (by decide) (by decide) n,
    notMem_toString (by decide) (by decide) n⟩

/-! ## The conversion of a file -/

/-- The name under which the conversion of a path is cached. -/
def cachePath (workDir : String) (p : HostPath) : HostPath :=
  ext4PathOf (BuildRunner.display ⟨workDir, false, none⟩ p)

/-- A separator becomes an underscore. -/
def flatten (c : Char) : Char := if c = '/' ∨ c = ':' ∨ c = '\\' then '_' else c

theorem toList_ext4PathOf (key : String) :
    (ext4PathOf key).file.toList = key.toList.map flatten ++ ".ext4".toList := by
  have hchar : (((fun c : Char => if c = '\\' then '_' else c) ∘
      fun c => if c = ':' then '_' else c) ∘ fun c => if c = '/' then '_' else c) = flatten := by
    funext c
    simp only [Function.comp_apply, flatten]
    by_cases hslash : c = '/'
    · simp [hslash]
    · by_cases hcolon : c = ':'
      · simp [hcolon]
      · simp [hslash, hcolon]
  unfold ext4PathOf
  rw [String.toList_append, toList_replace, toList_replace, toList_replace, List.map_map,
    List.map_map, hchar]

theorem map_flatten {name : String} (h : Plain name) : name.toList.map flatten = name.toList := by
  obtain ⟨hslash, hcolon, hback⟩ := h
  have hsame : ∀ c ∈ name.toList, flatten c = id c := by
    intro c hc
    refine if_neg fun hsep => ?_
    obtain rfl | rfl | rfl := hsep
    · exact hslash hc
    · exact hcolon hc
    · exact hback hc
  rw [List.map_congr_left hsame, List.map_id]

theorem cachePath_image (workDir : String) {name : String} (h : Plain name) :
    (cachePath workDir ⟨.image name, "rootfs.sqfs"⟩).file.toList =
      workDir.toList.map flatten ++ ("_.vyoma_images_".toList ++
        (name.toList ++ "_rootfs.sqfs.ext4".toList)) := by
  have hhead : "/.vyoma/images/".toList.map flatten = "_.vyoma_images_".toList := by decide
  have htail : "/rootfs.sqfs".toList.map flatten ++ ".ext4".toList =
      "_rootfs.sqfs.ext4".toList := by decide
  have hpath : BuildRunner.display ⟨workDir, false, none⟩ ⟨.image name, "rootfs.sqfs"⟩ =
      workDir ++ ("/.vyoma/images/" ++ (name ++ "/rootfs.sqfs")) := by
    simp only [BuildRunner.display, String.append_assoc]
    rfl
  rw [cachePath, toList_ext4PathOf, hpath]
  simp only [String.toList_append, List.map_append, List.append_assoc, hhead, map_flatten h]
  rw [htail]

theorem cachePath_layer (workDir : String) (nanos : ℤ) :
    (cachePath workDir (layerPath nanos)).file.toList =
      workDir.toList.map flatten ++ ("_temp_layer_".toList ++
        ((toString nanos).toList ++ ".sqfs.ext4".toList)) := by
  have hhead : "/temp/layer_".toList.map flatten = "_temp_layer_".toList := by decide
  have htail : ".sqfs".toList.map flatten ++ ".ext4".toList = ".sqfs.ext4".toList := by decide
  have hpath : BuildRunner.display ⟨workDir, false, none⟩ (layerPath nanos) =
      workDir ++ ("/temp/layer_" ++ (toString nanos ++ ".sqfs")) := by
    have hlayer : "/temp/layer_" = "/temp/" ++ "layer_" := rfl
    simp only [BuildRunner.display, layerPath, hlayer, String.append_assoc]
  rw [cachePath, toList_ext4PathOf, hpath]
  simp only [String.toList_append, List.map_append, List.append_assoc, hhead,
    map_flatten (plain_toString nanos)]
  rw [htail]

/-- The names of conversions keep root file systems apart. -/
theorem cachePath_injective {workDir : String} {p q : HostPath} (hp : IsRootfs p)
    (hq : IsRootfs q) (h : cachePath workDir p = cachePath workDir q) : p = q := by
  have hfile : (cachePath workDir p).file.toList = (cachePath workDir q).file.toList := by rw [h]
  cases hp with
  | image hname =>
    cases hq with
    | image hname' =>
      rw [cachePath_image workDir hname, cachePath_image workDir hname'] at hfile
      have hrest := List.append_cancel_left (List.append_cancel_left hfile)
      rw [String.ext (List.append_cancel_right hrest)]
    | layer nanos =>
      rw [cachePath_image workDir hname, cachePath_layer workDir] at hfile
      have hrest := List.append_cancel_left hfile
      simp at hrest
  | layer nanos =>
    cases hq with
    | image hname' =>
      rw [cachePath_image workDir hname', cachePath_layer workDir] at hfile
      have hrest := List.append_cancel_left hfile
      simp at hrest
    | layer nanos' =>
      rw [cachePath_layer workDir, cachePath_layer workDir] at hfile
      have hrest := List.append_cancel_left (List.append_cancel_left hfile)
      have hnanos := toString_injective (String.ext (List.append_cancel_right hrest))
      rw [hnanos]

/-! ## Files that are no root file systems -/

theorem getLast_of_isRootfs {p : HostPath} (hp : IsRootfs p) :
    p.file.toList.getLast? = some 's' := by
  cases hp with
  | image hname =>
    show "rootfs.sqfs".toList.getLast? = some 's'
    decide
  | layer nanos =>
    rw [layerPath, String.toList_append, List.getLast?_append]
    rfl

theorem getLast_ext4PathOf (key : String) : (ext4PathOf key).file.toList.getLast? = some '4' := by
  rw [toList_ext4PathOf, List.getLast?_append]
  rfl

theorem dir_ne_of_isRootfs {p : HostPath} (hp : IsRootfs p) :
    p.dir ≠ .ext4Cache ∧ (∀ id, p.dir ≠ .build id) ∧ ∀ path, p.dir ≠ .other path := by
  cases hp with
  | image hname => exact ⟨nofun, nofun, nofun⟩
  | layer nanos => exact ⟨nofun, nofun, nofun⟩

/-- The squashfs a copy makes is not a layer of a command. -/
theorem newSquashfsPath_ne {γ : Type} (o : CopyOutcome γ) {p : HostPath} (hp : IsRootfs p) :
    o.newSquashfsPath ≠ p := by
  intro he
  cases hp with
  | image hname =>
    have hdir := congrArg Path.dir he
    cases hdir
  | layer nanos =>
    have hfile : "layer_" ++ toString o.seconds ++ "_injected.sqfs" =
        "layer_" ++ toString nanos ++ ".sqfs" := congrArg Path.file he
    have hlist : (toString o.seconds).toList ++ "_injected".toList = (toString nanos).toList := by
      simp only [String.append_assoc] at hfile
      have hrest := (String.append_right_inj "layer_").mp hfile
      have hlast : "_injected.sqfs" = "_injected" ++ ".sqfs" := rfl
      rw [hlast, ← String.append_assoc] at hrest
      rw [← (String.append_left_inj ".sqfs").mp hrest, String.toList_append]
    have hmem : '_' ∈ (toString nanos).toList := by
      rw [← hlist]
      simp
    exact notMem_toString (by decide) (by decide) nanos hmem

/-- Whoever writes this file writes no conversion, and no root file system but those that
are to be rewritten. -/
def Spare (rewritten : HostPath → Prop) (t : HostPath) : Prop :=
  (∀ q, IsRootfs q → ¬ rewritten q → t ≠ q) ∧ ∀ key, t ≠ ext4PathOf key

variable {rewritten : HostPath → Prop}

theorem spare_of_getLast {dir : HostDir} {file : String} (hs : file.toList.getLast? ≠ some 's')
    (h4 : file.toList.getLast? ≠ some '4') : Spare rewritten ⟨dir, file⟩ := by
  constructor
  · intro q hq _ he
    exact hs ((congrArg (fun p => p.file.toList.getLast?) he).trans (getLast_of_isRootfs hq))
  · intro key he
    exact h4 ((congrArg (fun p => p.file.toList.getLast?) he).trans (getLast_ext4PathOf key))

theorem spare_of_rewritten {t : HostPath} (ht : rewritten t) (hdir : t.dir ≠ .ext4Cache) :
    Spare rewritten t := by
  constructor
  · intro q _ hq he
    exact hq (he ▸ ht)
  · intro key he
    exact hdir (congrArg Path.dir he)

theorem spare_build (id file : String) : Spare rewritten ⟨.build id, file⟩ := by
  constructor
  · intro q hq _ he
    exact (dir_ne_of_isRootfs hq).2.1 id (congrArg Path.dir he).symm
  · intro key he
    cases congrArg Path.dir he

end Vyoma.Build
