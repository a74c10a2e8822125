/-
Drives in asset names.

Where paths have drives, a segment that starts with a letter and a colon does not go behind a path:
it is a path of its own, and what stood in front of it is lost. A name that starts like that is
refused, as is every name with a colon in its first segment. No other segment is looked at, and this
module says what follows from that. What a name holds of drives behind its first segment comes
through to the canonical form as it is (`Asset.filter_segments`), so the form is free of drives
exactly if the name is. If it is not, the asset does not lie below the asset directory: with paths
put together by any rule that starts over at a drive, it has one path, and that is the same for all
roots (`Asset.StartsOver.exists_path`).
-/
import SpriteStage.Proofs.AssetNames

set_option autoImplicit false

namespace SpriteStage.Asset

/-! ## Segments with a drive -/

/-- Whether a segment starts with a drive: one of the letters from A to Z, in either case, with a
colon behind it. -/
def startsWithDrive : List Char → Bool
  | letter :: ':' :: _ => letter.isAlpha
  | _ => false

variable {name : String} {seg : List Char}

theorem exists_of_startsWithDrive (h : startsWithDrive seg) :
    ∃ letter rest, seg = letter :: ':' :: rest := by
  unfold startsWithDrive at h
  split at h
  · exact ⟨_, _, rfl⟩
  · cases h

theorem isStep_of_startsWithDrive (h : startsWithDrive seg) : Path.isStep seg := by
  obtain ⟨letter, rest, rfl⟩ := exists_of_startsWithDrive h
  simp [Path.isStep]

/-- Of the pieces of a name, those that start with a drive are all segments, in the same order. -/
theorem filter_segments (cs : List Char) :
    (segments cs).filter startsWithDrive = (cs.splitOnP isSeparator).filter startsWithDrive := by
  rw [segments, Path.pieces_eq_splitOnP, List.filter_filter]
  -- the filter for steps takes out empty pieces and dots, and neither is long enough for a drive
  refine List.filter_congr fun piece _ => ?_
  cases hdrive : startsWithDrive piece with
  | false => rfl
  | true => rw [isStep_of_startsWithDrive hdrive, Bool.and_true]

namespace Admitted

/-- The first segment of a canonical form has no colon, so it starts with no drive. -/
theorem first_without_drive (h : Admitted name)
    (hfirst : ((canonical name).toList.splitOn '/').head? = some seg) : ¬ startsWithDrive seg := by
  intro hdrive
  obtain ⟨letter, rest, rfl⟩ := exists_of_startsWithDrive hdrive
  rw [h.splitOn_canonical] at hfirst
  exact h.noDrive _ hfirst (List.mem_cons_of_mem letter List.mem_cons_self)

theorem filter_canonical (h : Admitted name) :
    ((canonical name).toList.splitOn '/').filter startsWithDrive =
      (name.toList.splitOnP isSeparator).filter startsWithDrive := by
  rw [h.splitOn_canonical, filter_segments]

end Admitted

/-! ## Paths that start over -/

/-- Whether a rule for putting a name behind a path drops the path in front of a drive. -/
def StartsOver (join : String → String → String) : Prop :=
  ∀ seg, startsWithDrive seg →
    ∀ path path', join path (String.ofList seg) = join path' (String.ofList seg)

variable {join : String → String → String}

/-- With a drive among the segments, the start does not matter. -/
theorem StartsOver.foldl_eq (hjoin : StartsOver join) {segs : List (List Char)} (hmem : seg ∈ segs)
    (hdrive : startsWithDrive seg) (root root' : String) :
    segs.foldl (fun path seg => join path (String.ofList seg)) root =
      segs.foldl (fun path seg => join path (String.ofList seg)) root' := by
  obtain ⟨before, after, rfl⟩ := List.append_of_mem hmem
  -- whatever the paths in front of the drive are, they are the same path behind it
  rw [List.foldl_append, List.foldl_append, List.foldl_cons, List.foldl_cons]
  exact congrArg (after.foldl _) (hjoin seg hdrive _ _)

/-- An admitted name with a drive in it has one path for all roots. -/
theorem StartsOver.exists_path (hjoin : StartsOver join)
    (hchecked : checked name = .ok (segments name.toList))
    (hpiece : ∃ piece ∈ name.toList.splitOnP isSeparator, startsWithDrive piece) :
    ∃ path, ∀ root, resolveBy join root name = .ok path := by
  obtain ⟨piece, hmem, hdrive⟩ := hpiece
  have hseg : piece ∈ (segments name.toList).filter startsWithDrive := by
    rw [filter_segments]
    exact List.mem_filter.mpr ⟨hmem, hdrive⟩
  refine ⟨(segments name.toList).foldl (fun path seg => join path (String.ofList seg)) "",
    fun root => ?_⟩
  rw [resolveBy_eq, hchecked]
  exact congrArg Except.ok (hjoin.foldl_eq (List.mem_filter.mp hseg).1 hdrive root "")

/-! ## What becomes of drives -/

/-- **Drives are refused in front and nowhere else.** Take any admitted name. The first segment of
its form does not start with a drive. Of the others, those that do are the pieces of the name that
do, so the form is free of drives exactly if no piece of the name starts with one. If one does, then
by every rule that starts over at a drive the asset has the same path for all roots. -/
theorem drives_behind_first_remain (name m : String) (h : normalize name = .ok m) :
    let pieces := name.toList.splitOnP fun c => c = '/' || c = '\\'
    let segs := m.toList.splitOn '/'
    (∀ first, segs.head? = some first → ¬ startsWithDrive first) ∧
    segs.filter startsWithDrive = pieces.filter startsWithDrive ∧
    ((∀ seg ∈ segs, ¬ startsWithDrive seg) ↔ ∀ piece ∈ pieces, ¬ startsWithDrive piece) ∧
    ∀ join, StartsOver join → (∃ piece ∈ pieces, startsWithDrive piece) →
      ∃ path, ∀ root, resolveBy join root name = .ok path := by
  intro pieces segs
  rcases checked_cases name with ⟨hadmitted, hchecked⟩ | ⟨-, reason, hchecked⟩
  · rw [normalize, hchecked] at h
    obtain rfl : canonical name = m := Except.ok.inj h
    have hfilter : segs.filter startsWithDrive = pieces.filter startsWithDrive :=
      hadmitted.filter_canonical
    refine ⟨fun first hfirst => hadmitted.first_without_drive hfirst, hfilter, ?_,
      fun join hjoin => hjoin.exists_path hchecked⟩
    -- that there is no drive says on both sides that the same list is empty
    rw [← List.filter_eq_nil_iff, ← List.filter_eq_nil_iff, hfilter]
  · rw [normalize, hchecked] at h
    cases h

/-- Where a drive starts a path over, a name with a drive behind a folder leads to that drive. -/
theorem folder_before_drive :
    let join (path seg : String) := if startsWithDrive seg.toList then seg else Path.join path seg
    normalize "maps\\.\\C:x" = .ok "maps/C:x" ∧ StartsOver join ∧
      ∀ root, resolveBy join root "maps\\.\\C:x" = .ok "C:x" := by
  intro join
  have hok : normalize "maps\\.\\C:x" = .ok "maps/C:x" := rfl
  have hjoin : StartsOver join := by
    intro seg hdrive path path'
    simp only [join, String.toList_ofList, hdrive, if_true]
  obtain ⟨-, -, -, hpath⟩ := drives_behind_first_remain "maps\\.\\C:x" "maps/C:x" hok
  obtain ⟨path, hall⟩ := hpath join hjoin ⟨"C:x".toList, by decide, rfl⟩
  have hempty : resolveBy join "" "maps\\.\\C:x" = .ok "C:x" := rfl
  obtain rfl : path = "C:x" := Except.ok.inj ((hall "").symm.trans hempty)
  exact ⟨hok, hjoin, hall⟩

/-- A name that is admitted with a drive behind its first segment. -/
theorem not_free_of_drives :
    ¬ ∀ name m, normalize name = .ok m → ∀ seg ∈ m.toList.splitOn '/', ¬ startsWithDrive seg := by
  intro hfree
  have hok : normalize "d/C:x" = .ok "d/C:x" := rfl
  exact hfree "d/C:x" "d/C:x" hok "C:x".toList (by decide) rfl

end SpriteStage.Asset
