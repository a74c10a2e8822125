/-
Asset names and where they lead.

A name is judged by its segments: the pieces between separators of either kind, without the empty
ones and the dots. Which names are admitted (`Asset.Admitted`) and what their canonical form is are
both said about segments, so the one fact that everything rests on is that the canonical form has the
segments of the name as its pieces (`Path.splitOnP_intercalate`). From this it follows that the form
is canonical in each of its parts, for a slash at an end or next to another one would be a piece with
nothing in it, and that normalizing it again finds the same segments.

A path below a root is made by putting the segments behind the root one by one. Each of them but the
last is followed by a slash, since no segment ends in one, so what comes behind the root is the
canonical form as a whole (`Path.foldl_join`).
-/
import SpriteStage.Asset

set_option autoImplicit false

namespace SpriteStage

/-! ## Pieces of a text -/

namespace Path

variable {isSeparator : Char → Bool} {sep : Char} {segs : List (List Char)}

theorem pieces_eq_splitOnP (isSeparator : Char → Bool) (cs : List Char) :
    pieces isSeparator cs = cs.splitOnP isSeparator := by
  induction cs with
  | nil => rfl
  | cons c cs ih =>
    rw [pieces, List.splitOnP_cons_eq_if_modifyHead, ih]
    by_cases hc : isSeparator c
    · rw [if_pos hc, if_pos hc]
    · rw [if_neg hc, if_neg hc]
      cases hsplit : cs.splitOnP isSeparator with
      | nil => exact absurd hsplit (List.splitOnP_ne_nil isSeparator cs)
      | cons first rest => rfl

/-- Segments put together with separators between them are the pieces of the whole. -/
theorem splitOnP_intercalate (hsep : isSeparator sep = true)
    (hsegs : ∀ seg ∈ segs, ∀ c ∈ seg, isSeparator c = false) (hne : segs ≠ []) :
    (List.intercalate [sep] segs).splitOnP isSeparator = segs := by
  induction segs with
  | nil => exact absurd rfl hne
  | cons seg rest ih =>
    have hseg := hsegs seg List.mem_cons_self
    cases rest with
    | nil =>
      rw [List.intercalate_singleton]
      exact List.splitOnP_eq_singleton hseg
    | cons next rest =>
      rw [List.intercalate_cons_cons, List.append_assoc, List.singleton_append,
        List.splitOnP_append_cons_of_forall_mem hseg sep hsep,
        ih (fun s hs => hsegs s (List.mem_cons_of_mem seg hs)) (List.cons_ne_nil next rest)]

/-- A separator at an end of a text, or in front of another one, leaves an empty piece. -/
theorem nil_mem_splitOnP {before after : List Char} (hsep : isSeparator sep = true)
    (h : before = [] ∨ after = [] ∨ ∃ rest, after = sep :: rest) :
    [] ∈ (before ++ sep :: after).splitOnP isSeparator := by
  rw [List.splitOnP_append_cons _ _ hsep, List.mem_append]
  rcases h with rfl | rfl | ⟨rest, rfl⟩
  · exact .inl (List.mem_singleton.mpr rfl)
  · exact .inr (List.mem_singleton.mpr rfl)
  · rw [List.splitOnP_cons_eq_if_modifyHead, if_pos hsep]
    exact .inr List.mem_cons_self

theorem mem_intercalate {c : Char} (h : c ∈ List.intercalate [sep] segs) :
    c = sep ∨ ∃ seg ∈ segs, c ∈ seg := by
  induction segs with
  | nil => cases h
  | cons seg rest ih =>
    cases rest with
    | nil =>
      rw [List.intercalate_singleton] at h
      exact .inr ⟨seg, List.mem_cons_self, h⟩
    | cons next rest =>
      rw [List.intercalate_cons_cons, List.mem_append, List.mem_append, List.mem_singleton] at h
      rcases h with (h | h) | h
      · exact .inr ⟨seg, List.mem_cons_self, h⟩
      · exact .inl h
      · rcases ih h with h | ⟨s, hs, hc⟩
        · exact .inl h
        · exact .inr ⟨s, List.mem_cons_of_mem seg hs, hc⟩

/-! ## Paths below a root -/

/-- What stands between a path and a name that is put behind it. -/
def gap (path : String) : String :=
  if path = "" ∨ path.toList.getLast? = some '/' then "" else "/"

theorem join_eq (path name : String) : join path name = path ++ gap path ++ name := by
  unfold join gap
  split
  · next h =>
    have hempty : path = "" := String.toList_eq_nil_iff.mp (List.getLast?_eq_none_iff.mp h)
    rw [if_pos (.inl hempty), hempty]
    rfl
  · next h => rw [if_pos (.inr h), String.append_empty]
  · next c hslash h =>
    rw [if_neg]
    rintro (hempty | hlast)
    · rw [hempty] at h
      cases h
    · exact hslash (Option.some.inj (h.symm.trans hlast))

/-- Behind a segment comes a slash. -/
theorem gap_join {seg : List Char} (hne : seg ≠ []) (hseg : '/' ∉ seg) (path : String) :
    gap (join path (String.ofList seg)) = "/" := by
  have hlast : (join path (String.ofList seg)).toList.getLast? = some (seg.getLast hne) := by
    rw [join_eq, String.toList_append, String.toList_ofList, List.getLast?_append,
      List.getLast?_eq_some_getLast hne]
    rfl
  refine if_neg (not_or.mpr ⟨fun hempty => ?_, fun hslash => ?_⟩)
  · rw [hempty] at hlast
    cases hlast
  · have heq : seg.getLast hne = '/' := Option.some.inj (hlast.symm.trans hslash)
    exact hseg (heq ▸ List.getLast_mem hne)

/-- **Segments behind a root.** Put behind a path one by one, they come out as they do together, with
a slash in front of them unless there is none to be put. -/
theorem foldl_join (hsegs : ∀ seg ∈ segs, seg ≠ [] ∧ '/' ∉ seg) (hne : segs ≠ []) (root : String) :
    segs.foldl (fun path seg => join path (String.ofList seg)) root =
      root ++ gap root ++ String.ofList (List.intercalate ['/'] segs) := by
  induction segs generalizing root with
  | nil => exact absurd rfl hne
  | cons seg rest ih =>
    obtain ⟨hseg, hslash⟩ := hsegs seg List.mem_cons_self
    cases rest with
    | nil => rw [List.foldl_cons, List.foldl_nil, List.intercalate_singleton, join_eq]
    | cons next rest =>
      rw [List.foldl_cons, ih (fun s hs => hsegs s (List.mem_cons_of_mem seg hs))
        (List.cons_ne_nil next rest), gap_join hseg hslash, join_eq, List.intercalate_cons_cons,
        String.ofList_append, String.ofList_append]
      simp only [String.append_assoc]

end Path

/-! ## Admitted names -/

namespace Asset

/-- The segments of a name are its pieces between slashes and backslashes, without the empty ones
and the dots. -/
theorem segments_eq (cs : List Char) :
    segments cs = (cs.splitOnP fun c => c = '/' || c = '\\').filter
      fun seg => seg ≠ [] && seg ≠ ['.'] := by
  rw [segments, Path.pieces_eq_splitOnP]
  rfl

theorem of_mem_segments {cs seg : List Char} (h : seg ∈ segments cs) :
    (seg ≠ [] ∧ seg ≠ ['.']) ∧ ∀ c ∈ seg, isSeparator c = false := by
  obtain ⟨hpiece, hstep⟩ := List.mem_filter.mp h
  rw [Path.isStep, Bool.and_eq_true, decide_eq_true_iff, decide_eq_true_iff] at hstep
  exact ⟨hstep, Path.not_isSeparator_of_mem_pieces hpiece⟩

theorem slash_not_mem_segment {cs seg : List Char} (h : seg ∈ segments cs) : '/' ∉ seg := by
  intro hslash
  have hno := (of_mem_segments h).2 '/' hslash
  cases hno

/-- Names that lead to something below the root. -/
structure Admitted (name : String) : Prop where
  relative : ∀ c, name.toList.head? = some c → isSeparator c = false
  named : segments name.toList ≠ []
  noDrive : ∀ first, (segments name.toList).head? = some first → ':' ∉ first
  noParent : ['.', '.'] ∉ segments name.toList

variable {name : String}

/-- A name is either admitted, with its segments, or rejected. -/
theorem checked_cases (name : String) :
    (Admitted name ∧ checked name = .ok (segments name.toList)) ∨
      (¬ Admitted name ∧ ∃ reason, checked name = .error (.rejected reason)) := by
  unfold checked
  by_cases hroot : name.toList.head?.any isSeparator
  · obtain ⟨c, hc, hsep⟩ := (Option.any_eq_true ..).mp hroot
    refine .inr ⟨fun h => ?_, _, if_pos hroot⟩
    rw [h.relative c hc] at hsep
    cases hsep
  simp only [if_neg hroot]
  by_cases hdrive : (segments name.toList).head?.any (·.contains ':')
  · obtain ⟨first, hfirst, hcolon⟩ := (Option.any_eq_true ..).mp hdrive
    exact .inr ⟨fun h => h.noDrive first hfirst (List.contains_iff_mem.mp hcolon), _, if_pos hdrive⟩
  simp only [if_neg hdrive]
  by_cases hparent : (segments name.toList).contains ['.', '.']
  · exact .inr ⟨fun h => h.noParent (List.contains_iff_mem.mp hparent), _, if_pos hparent⟩
  simp only [if_neg hparent]
  by_cases hnamed : segments name.toList = []
  · exact .inr ⟨fun h => h.named hnamed, _, if_pos hnamed⟩
  · refine .inl ⟨⟨fun c hc => ?_, hnamed, fun first hfirst hcolon => ?_, fun hmem => ?_⟩,
      if_neg hnamed⟩
    · exact Bool.eq_false_iff.mpr fun hsep => hroot ((Option.any_eq_true ..).mpr ⟨c, hc, hsep⟩)
    · exact hdrive ((Option.any_eq_true ..).mpr ⟨first, hfirst, List.contains_iff_mem.mpr hcolon⟩)
    · exact hparent (List.contains_iff_mem.mpr hmem)

/-! ## Canonical forms -/

/-- Texts without anything in them that a name may be written with and need not be. -/
structure Canonical (m : String) : Prop where
  noBackslash : '\\' ∉ m.toList
  noLeading : m.toList.head? ≠ some '/'
  noTrailing : m.toList.getLast? ≠ some '/'
  noDoubled : ¬ ['/', '/'] <:+: m.toList
  noDots : ∀ seg ∈ m.toList.splitOn '/', seg ≠ ['.'] ∧ seg ≠ ['.', '.']

/-- The segments of a name with single slashes between them. -/
def canonical (name : String) : String :=
  String.ofList (List.intercalate ['/'] (segments name.toList))

/-- The parts of a canonical form are the segments of the name. -/
theorem Admitted.parts_canonical (h : Admitted name) :
    Path.parts (canonical name) = segments name.toList := by
  rw [Path.parts, Path.pieces_eq_splitOnP, canonical, String.toList_ofList]
  refine Path.splitOnP_intercalate (by rfl) (fun seg hseg c hc => ?_) h.named
  exact decide_eq_false fun heq => slash_not_mem_segment hseg (heq ▸ hc)

theorem normalize_of_checked {segs : List (List Char)} (h : checked name = .ok segs) :
    normalize name = .ok (String.ofList (List.intercalate ['/'] segs)) := by
  rw [normalize, h]
  rfl

theorem normalize_of_rejected {fault : Fault} (h : checked name = .error fault) :
    normalize name = .error fault := by
  rw [normalize, h]
  rfl

/-- Putting the parts of the form behind a root is putting the segments of the name there. -/
theorem resolveBy_eq (join : String → String → String) (root name : String) :
    resolveBy join root name = (checked name).map fun segs =>
      segs.foldl (fun path seg => join path (String.ofList seg)) root := by
  rcases checked_cases name with ⟨hadmitted, hok⟩ | ⟨-, reason, herror⟩
  · rw [resolveBy, normalize_of_checked hok, hok]
    show Except.ok (List.foldl _ root (Path.parts (canonical name))) = _
    rw [hadmitted.parts_canonical]
    rfl
  · rw [resolveBy, normalize_of_rejected herror, herror]
    rfl

/-- What becomes of a name: an admitted one has its canonical form, which is put behind every root,
and any other is rejected. -/
theorem normalize_cases (name : String) :
    (Admitted name ∧ normalize name = .ok (canonical name) ∧
      ∀ root, resolve root name = .ok (root ++ Path.gap root ++ canonical name)) ∨
    (¬ Admitted name ∧ ∃ reason, normalize name = .error (.rejected reason) ∧
      ∀ root, resolve root name = .error (.rejected reason)) := by
  rcases checked_cases name with ⟨hadmitted, hok⟩ | ⟨hnot, reason, herror⟩
  · refine .inl ⟨hadmitted, normalize_of_checked hok, fun root => ?_⟩
    rw [resolve, resolveBy_eq, hok]
    exact congrArg Except.ok (Path.foldl_join
      (fun seg hseg => ⟨(of_mem_segments hseg).1.1, slash_not_mem_segment hseg⟩) hadmitted.named root)
  · refine .inr ⟨hnot, reason, normalize_of_rejected herror, fun root => ?_⟩
    rw [resolve, resolveBy_eq, herror]
    rfl

namespace Admitted

variable {name : String}

/-- The pieces of a canonical form are the segments of the name. -/
theorem splitOnP_canonical (h : Admitted name) :
    (canonical name).toList.splitOnP isSeparator = segments name.toList := by
  rw [canonical, String.toList_ofList]
  exact Path.splitOnP_intercalate rfl (fun seg hseg => (of_mem_segments hseg).2) h.named

theorem splitOn_canonical (h : Admitted name) :
    (canonical name).toList.splitOn '/' = segments name.toList := by
  rw [canonical, String.toList_ofList]
  exact List.splitOn_intercalate '/' (fun seg hseg => slash_not_mem_segment hseg) h.named

theorem segments_canonical (h : Admitted name) :
    segments (canonical name).toList = segments name.toList := by
  rw [segments, Path.pieces_eq_splitOnP, h.splitOnP_canonical, List.filter_eq_self]
  exact fun seg hseg => (List.mem_filter.mp hseg).2

/-- Nowhere in a canonical form does a slash leave an empty piece. -/
theorem not_canonical_split (h : Admitted name) {before after : List Char} {sep : Char}
    (hsep : isSeparator sep = true)
    (hends : before = [] ∨ after = [] ∨ ∃ rest, after = sep :: rest) :
    (canonical name).toList ≠ before ++ sep :: after := by
  intro hsplit
  have hmem := Path.nil_mem_splitOnP hsep hends
  rw [← hsplit, h.splitOnP_canonical] at hmem
  exact (of_mem_segments hmem).1.1 rfl

theorem canonical_form (h : Admitted name) : Canonical (canonical name) where
  noBackslash := by
    intro hmem
    rw [canonical, String.toList_ofList] at hmem
    rcases Path.mem_intercalate hmem with heq | ⟨seg, hseg, hc⟩
    · cases heq
    · have hno := (of_mem_segments hseg).2 _ hc
      cases hno
  noLeading := by
    intro hhead
    obtain ⟨rest, hrest⟩ := List.head?_eq_some_iff.mp hhead
    exact h.not_canonical_split rfl (.inl rfl) hrest
  noTrailing := by
    intro hlast
    obtain ⟨before, hbefore⟩ := List.getLast?_eq_some_iff.mp hlast
    exact h.not_canonical_split rfl (.inr (.inl rfl)) hbefore
  noDoubled := by
    rintro ⟨before, rest, hsplit⟩
    rw [List.append_assoc] at hsplit
    exact h.not_canonical_split rfl (.inr (.inr ⟨rest, rfl⟩)) hsplit.symm
  noDots := by
    intro seg hseg
    rw [h.splitOn_canonical] at hseg
    exact ⟨(of_mem_segments hseg).1.2, fun heq => h.noParent (heq ▸ hseg)⟩

/-- The canonical form of a name is a name, and it has the same canonical form. -/
theorem of_canonical (h : Admitted name) : Admitted (canonical name) where
  relative := by
    intro c hc
    obtain ⟨rest, hrest⟩ := List.head?_eq_some_iff.mp hc
    exact Bool.eq_false_iff.mpr fun hsep => h.not_canonical_split hsep (.inl rfl) hrest
  named := by
    rw [h.segments_canonical]
    exact h.named
  noDrive := by
    rw [h.segments_canonical]
    exact h.noDrive
  noParent := by
    rw [h.segments_canonical]
    exact h.noParent

theorem normalize_canonical (h : Admitted name) :
    normalize (canonical name) = .ok (canonical name) := by
  have hsame : canonical (canonical name) = canonical name := by
    rw [canonical, h.segments_canonical, ← canonical]
  rcases normalize_cases (canonical name) with ⟨-, hok, -⟩ | ⟨hnot, -⟩
  · rw [hok, hsame]
  · exact absurd h.of_canonical hnot

end Admitted

/-- **Names are brought to one form and stay below the root.** Take any name, with `segs` the pieces
between its slashes and backslashes that are neither empty nor a dot. The name is admitted exactly if
it does not start with a separator, has segments, has no colon in the first and no two dots as one of
them. Its form is then made of the segments with single slashes between them; nothing in it could be
left out, and it is its own form. Below any root text, the path of the name is that text, a slash
unless the text is empty or ends in one, and the form. Every other name is rejected, with or without
a root. -/
theorem names_are_canonical (name : String) :
    let segs := (name.toList.splitOnP fun c => c = '/' || c = '\\').filter
      fun seg => seg ≠ [] && seg ≠ ['.']
    ((∃ m, normalize name = .ok m) ↔
      (∀ c, name.toList.head? = some c → c ≠ '/' ∧ c ≠ '\\') ∧ segs ≠ [] ∧
        (∀ first, segs.head? = some first → ':' ∉ first) ∧ ['.', '.'] ∉ segs) ∧
    (∀ m, normalize name = .ok m →
      m.toList = List.intercalate ['/'] segs ∧ Canonical m ∧ normalize m = .ok m ∧
      ∀ root, resolve root name =
        .ok (root ++ (if root = "" ∨ root.toList.getLast? = some '/' then "" else "/") ++ m)) ∧
    (∀ fault, normalize name = .error fault → ∃ reason, fault = .rejected reason) ∧
    ∀ root fault, resolve root name = .error fault ↔ normalize name = .error fault := by
  intro segs
  have hsegs : segments name.toList = segs := segments_eq name.toList
  have hsep (c : Char) : isSeparator c = false ↔ c ≠ '/' ∧ c ≠ '\\' := by
    rw [isSeparator, Bool.or_eq_false_iff, decide_eq_false_iff_not, decide_eq_false_iff_not]
  have hadmitted : Admitted name ↔
      (∀ c, name.toList.head? = some c → c ≠ '/' ∧ c ≠ '\\') ∧ segs ≠ [] ∧
        (∀ first, segs.head? = some first → ':' ∉ first) ∧ ['.', '.'] ∉ segs := by
    rw [← hsegs]
    constructor
    · intro h
      exact ⟨fun c hc => (hsep c).mp (h.relative c hc), h.named, h.noDrive, h.noParent⟩
    · rintro ⟨hrelative, hnamed, hdrive, hparent⟩
      exact ⟨fun c hc => (hsep c).mpr (hrelative c hc), hnamed, hdrive, hparent⟩
  rcases normalize_cases name with ⟨h, hok, hresolve⟩ | ⟨h, reason, herror, hresolve⟩
  · refine ⟨⟨fun _ => hadmitted.mp h, fun _ => ⟨_, hok⟩⟩, fun m hm => ?_, fun fault hfault => ?_,
      fun root fault => ?_⟩
    · obtain rfl : canonical name = m := Except.ok.inj (hok.symm.trans hm)
      refine ⟨?_, h.canonical_form, h.normalize_canonical, hresolve⟩
      rw [canonical, String.toList_ofList, hsegs]
    · rw [hok] at hfault
      cases hfault
    · rw [hok, hresolve root]
      exact ⟨nofun, nofun⟩
  · refine ⟨⟨?_, fun hconds => absurd (hadmitted.mpr hconds) h⟩, fun m hm => ?_,
      fun fault hfault => ?_, fun root fault => ?_⟩
    · rintro ⟨m, hm⟩
      rw [herror] at hm
      cases hm
    · rw [herror] at hm
      cases hm
    · exact ⟨reason, Except.error.inj (hfault.symm.trans herror)⟩
    · rw [herror, hresolve root]

/-- A name with both separators, a dot, empty pieces, and a colon behind its first segment. -/
theorem mixed_name_is_canonical :
    normalize ".\\/maps\\\\.//a:b.txt" = .ok "maps/a:b.txt" ∧
      normalize "maps/a:b.txt" = .ok "maps/a:b.txt" ∧
      resolve "assets" ".\\/maps\\\\.//a:b.txt" = .ok ("assets" ++ "/" ++ "maps/a:b.txt") := by
  have hok : normalize ".\\/maps\\\\.//a:b.txt" = .ok "maps/a:b.txt" := by rfl
  obtain ⟨-, hform, -⟩ := names_are_canonical ".\\/maps\\\\.//a:b.txt"
  obtain ⟨-, -, hagain, hpath⟩ := hform _ hok
  exact ⟨hok, hagain, hpath "assets"⟩

end Asset

end SpriteStage
