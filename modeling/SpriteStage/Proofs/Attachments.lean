/-
References as a queue for each sprite.

A reference is added behind the others and the first reference to a sprite is the one that is taken
off, so each sprite has a queue of its own, with the queues of the other sprites in between. Seen
from the end of a run it is only a matter of numbers. The references are the sprites of the
attachments in the order of the calls, without the first few of each sprite, namely as many as were
taken off (`Host.references_first_in_first_out`). When they were taken off does not matter, which is
what the two laws below say: droppings add up (`dropEach_dropEach`), and they pass over whatever is
attached later (`dropEach_append`).

The numbers are those of the calls that reported a reference. A call that takes nothing off does not
count, and it is exactly one that finds no reference, whether or not there is still such a sprite.
-/
import Mathlib.Logic.Function.Basic
import SpriteStage.Proofs.References

set_option autoImplicit false

namespace SpriteStage

/-! ## Dropping the first of each -/

/-- A list without the first `k s` occurrences of every `s`. -/
def dropEach (k : Ident → Nat) : List Ident → List Ident
  | [] => []
  | s :: rest =>
    if k s = 0 then s :: dropEach k rest else dropEach (Function.update k s (k s - 1)) rest

theorem dropEach_cons_of_zero {k : Ident → Nat} {s : Ident} (h : k s = 0) (rest : List Ident) :
    dropEach k (s :: rest) = s :: dropEach k rest := if_pos h

theorem dropEach_cons_of_pos {k : Ident → Nat} {s : Ident} (h : k s ≠ 0) (rest : List Ident) :
    dropEach k (s :: rest) = dropEach (Function.update k s (k s - 1)) rest := if_neg h

@[simp] theorem dropEach_zero (l : List Ident) : dropEach (fun _ => 0) l = l := by
  induction l with
  | nil => rfl
  | cons s rest ih => rw [dropEach_cons_of_zero rfl, ih]

theorem dropEach_sublist (k : Ident → Nat) (l : List Ident) : (dropEach k l).Sublist l := by
  induction l generalizing k with
  | nil => exact List.Sublist.slnil
  | cons s rest ih =>
    by_cases hk : k s = 0
    · rw [dropEach_cons_of_zero hk]
      exact (ih k).cons_cons s
    · rw [dropEach_cons_of_pos hk]
      exact (ih _).cons s

theorem count_dropEach (k : Ident → Nat) (l : List Ident) (t : Ident) :
    (dropEach k l).count t = l.count t - k t := by
  induction l generalizing k with
  | nil => rw [dropEach, List.count_nil, Nat.zero_sub]
  | cons s rest ih =>
    by_cases hk : k s = 0
    · rw [dropEach_cons_of_zero hk, List.count_cons, List.count_cons, ih]
      by_cases hst : s = t
      · rw [← hst, hk, Nat.sub_zero, Nat.sub_zero]
      · rw [if_neg (by simpa using hst), Nat.add_zero, Nat.add_zero]
    · rw [dropEach_cons_of_pos hk, ih]
      by_cases hst : s = t
      · rw [← hst, Function.update_self, List.count_cons_self]
        omega
      · rw [Function.update_of_ne (Ne.symm hst), List.count_cons_of_ne hst]

/-- What comes behind enough occurrences is not dropped. -/
theorem dropEach_append {k : Ident → Nat} {l : List Ident} (h : ∀ t, k t ≤ l.count t)
    (more : List Ident) : dropEach k (l ++ more) = dropEach k l ++ more := by
  induction l generalizing k with
  | nil =>
    have hk : k = fun _ => 0 := funext fun t => Nat.le_zero.mp (h t)
    rw [hk, dropEach_zero, dropEach_zero]
  | cons s rest ih =>
    rw [List.cons_append]
    by_cases hk : k s = 0
    · have hrest : ∀ t, k t ≤ rest.count t := by
        intro t
        by_cases hst : s = t
        · rw [← hst, hk]
          exact Nat.zero_le _
        · rw [← List.count_cons_of_ne hst]
          exact h t
      rw [dropEach_cons_of_zero hk, dropEach_cons_of_zero hk, ih hrest, List.cons_append]
    · have hrest : ∀ t, Function.update k s (k s - 1) t ≤ rest.count t := by
        intro t
        have ht := h t
        by_cases hst : s = t
        · rw [← hst, List.count_cons_self] at ht
          rw [← hst, Function.update_self]
          omega
        · rwa [Function.update_of_ne (Ne.symm hst), ← List.count_cons_of_ne hst]
      rw [dropEach_cons_of_pos hk, dropEach_cons_of_pos hk, ih hrest]

theorem update_pred_add {k : Ident → Nat} {s : Ident} (h : k s ≠ 0) (j : Ident → Nat) :
    (fun t => Function.update k s (k s - 1) t + j t) =
      Function.update (fun t => k t + j t) s (k s + j s - 1) := by
  funext t
  by_cases hts : t = s
  · rw [hts, Function.update_self, Function.update_self]
    omega
  · rw [Function.update_of_ne hts, Function.update_of_ne hts]

/-- Droppings add up. -/
theorem dropEach_dropEach (j k : Ident → Nat) (l : List Ident) :
    dropEach j (dropEach k l) = dropEach (fun t => k t + j t) l := by
  induction l generalizing j k with
  | nil => rfl
  | cons s rest ih =>
    by_cases hk : k s = 0
    · rw [dropEach_cons_of_zero hk]
      by_cases hj : j s = 0
      · have hsum : k s + j s = 0 := by omega
        rw [dropEach_cons_of_zero hj, dropEach_cons_of_zero hsum, ih]
      · have hsum : k s + j s ≠ 0 := by omega
        rw [dropEach_cons_of_pos hj, dropEach_cons_of_pos hsum, ih]
        simp only [Nat.add_comm (k _)]
        rw [update_pred_add hj]
    · have hsum : k s + j s ≠ 0 := by omega
      rw [dropEach_cons_of_pos hk, dropEach_cons_of_pos hsum, ih, update_pred_add hk]

theorem dropEach_single (s : Ident) (l : List Ident) :
    dropEach (fun t => if t = s then 1 else 0) l = l.erase s := by
  induction l with
  | nil => rfl
  | cons t rest ih =>
    by_cases hts : t = s
    · have hnone : Function.update (fun t => if t = s then 1 else 0) s 0 = fun _ => 0 := by
        funext u
        by_cases hus : u = s
        · rw [hus, Function.update_self]
        · rw [Function.update_of_ne hus, if_neg hus]
      rw [hts, dropEach_cons_of_pos (by rw [if_pos rfl]; decide), if_pos rfl, hnone,
        dropEach_zero, List.erase_cons_head]
    · rw [dropEach_cons_of_zero (if_neg hts), ih, List.erase_cons_tail (by simpa using hts)]

/-! ## What is attached and what is taken off -/

/-- The sprite that an entry has attached to a canvas. -/
def Entry.attached? (canvas : Ident) (e : Entry) : Option Ident :=
  match e.wiringOf? canvas with
  | some (.attach sprite) => some sprite
  | _ => none

/-- The sprites that were attached to a canvas, in the order of the calls. -/
def attachments (canvas : Ident) (past : List Entry) : List Ident :=
  past.filterMap (Entry.attached? canvas)

theorem attachments_append (canvas : Ident) (past more : List Entry) :
    attachments canvas (past ++ more) = attachments canvas past ++ attachments canvas more :=
  List.filterMap_append

theorem attachments_singleton (canvas : Ident) (e : Entry) :
    attachments canvas [e] = (e.attached? canvas).toList := rfl

theorem Entry.attached?_eq_none {canvas : Ident} {e : Entry}
    (hadd : ∀ sprite, e.call ≠ .canvasAddBitmap canvas sprite) : e.attached? canvas = none := by
  unfold attached?
  split
  · next sprite hw => exact absurd (attached_of_wiringOf? hw).1 (hadd sprite)
  · rfl

namespace Host

variable {σ : Type} [EventSink σ] {h : Host σ} {c : Call} {canvas : Ident}

omit [EventSink σ] in
/-- What taking a reference to a sprite off a canvas reports, which is whether there was one. -/
def reports (h : Host σ) (canvas sprite : Ident) : Except Fault Bool :=
  ((Stage.detachSprite canvas sprite).runOn h.stage).1

/-- How many references to a sprite calls take off a canvas. Calls that report none do not count. -/
def takings (h : Host σ) (canvas sprite : Ident) : List Call → Nat
  | [] => 0
  | c :: rest =>
    (if c = .canvasRemoveBitmap canvas sprite ∧ h.reports canvas sprite = .ok true then 1 else 0) +
      (h.after c).takings canvas sprite rest

omit [EventSink σ] in
theorem reports_of_find? {shown : Canvas} (hfind : h.stage.canvases.find? canvas = some shown)
    (sprite : Ident) : h.reports canvas sprite = .ok (shown.refersTo sprite) := by
  simp only [reports, Stage.detachSprite, Attempt.runOn_bind, Attempt.runOn_get,
    Attempt.runOn_liftM, Stage.canvas, hfind, Attempt.runOn_modify, Attempt.runOn_pure]

omit [EventSink σ] in
/-- A reference is reported exactly if there is one. -/
theorem reports_iff (sprite : Ident) :
    h.reports canvas sprite = .ok true ↔ 0 < (h.stage.references canvas).count sprite := by
  cases hfind : h.stage.canvases.find? canvas with
  | none =>
    simp [reports, Stage.detachSprite, Attempt.runOn_bind, Attempt.runOn_get, Attempt.runOn_liftM,
      Stage.canvas, Stage.references, hfind]
  | some shown =>
    rw [reports_of_find? hfind, Stage.references_of_find? hfind, List.count_pos_iff,
      ← List.contains_iff_mem]
    exact ⟨Except.ok.inj, congrArg Except.ok⟩

/-- A reference that is reported was taken off by the call. -/
theorem wiringOf?_of_reports (hs : h.stage.Sound) {sprite : Ident}
    (hreport : h.reports canvas sprite = .ok true) :
    (⟨.canvasRemoveBitmap canvas sprite, h.answer (.canvasRemoveBitmap canvas sprite)⟩ :
      Entry).wiringOf? canvas = some (.detach sprite) := by
  have hpos := (reports_iff sprite).mp hreport
  have hhas : h.stage.has .canvas canvas := by
    refine Stage.has_of_references fun hnil => ?_
    rw [hnil] at hpos
    exact Nat.lt_irrefl 0 hpos
  obtain ⟨shown, hfind⟩ := Option.isSome_iff_exists.mp hhas
  rw [answer, step_of_accepts hs (.canvasRemoveBitmap hfind sprite), Entry.wiringOf?]
  exact if_pos rfl

theorem takings_of_reports {sprite : Ident} (hreport : h.reports canvas sprite = .ok true) :
    (fun s => h.takings canvas s [.canvasRemoveBitmap canvas sprite]) =
      fun s => if s = sprite then 1 else 0 := by
  funext s
  refine if_congr ?_ rfl rfl
  rw [Call.canvasRemoveBitmap.injEq]
  constructor
  · rintro ⟨⟨-, heq⟩, -⟩
    exact heq.symm
  · rintro rfl
    exact ⟨⟨rfl, rfl⟩, hreport⟩

theorem takings_of_none (hnone : ∀ sprite, c = .canvasRemoveBitmap canvas sprite →
    h.reports canvas sprite ≠ .ok true) : (fun s => h.takings canvas s [c]) = fun _ => 0 := by
  funext s
  refine if_neg ?_
  rintro ⟨hcall, hreport⟩
  exact hnone s hcall hreport

/-- A call drops what it takes off, and then adds what it attaches. -/
theorem references_step (hs : h.stage.Sound)
    (hfresh : (⟨c, h.answer c⟩ : Entry).created? = some (.canvas, canvas) →
      h.stage.references canvas = []) :
    (h.after c).stage.references canvas =
      dropEach (fun s => h.takings canvas s [c]) (h.stage.references canvas) ++
        attachments canvas [⟨c, h.answer c⟩] := by
  -- only a detachment takes something off
  have hnothing (hw : ∀ s, (⟨c, h.answer c⟩ : Entry).wiringOf? canvas ≠ some (.detach s)) :
      (fun s => h.takings canvas s [c]) = fun _ => 0 := by
    refine takings_of_none ?_
    rintro s rfl hreport
    exact hw s (wiringOf?_of_reports hs hreport)
  rw [references_after hs, attachments_singleton, Entry.attached?]
  cases hw : (⟨c, h.answer c⟩ : Entry).wiringOf? canvas with
  | none =>
    rw [hnothing (by simp [hw]), dropEach_zero]
    exact (List.append_nil _).symm
  | some w =>
    cases w with
    | reset =>
      rw [hfresh (Entry.created?_of_reset hw)]
      rfl
    | attach sprite =>
      rw [hnothing (by simp [hw]), dropEach_zero]
      rfl
    | detach sprite =>
      have hcall : c = .canvasRemoveBitmap canvas sprite := Entry.detached_of_wiringOf? hw
      show (h.stage.references canvas).erase sprite = _ ++ []
      rw [List.append_nil]
      by_cases hreport : h.reports canvas sprite = .ok true
      · rw [hcall, takings_of_reports hreport, dropEach_single]
      · have hnone : (fun s => h.takings canvas s [c]) = fun _ => 0 := by
          refine takings_of_none ?_
          rintro s hs' htrue
          rw [hcall, Call.canvasRemoveBitmap.injEq] at hs'
          rw [hs'.2] at hreport
          exact hreport htrue
        rw [hnone, dropEach_zero, List.erase_of_not_mem]
        rwa [reports_iff, List.count_pos_iff] at hreport

/-- What one call takes off is there. -/
theorem takings_le_count (c : Call) (canvas sprite : Ident) :
    h.takings canvas sprite [c] ≤ (h.stage.references canvas).count sprite := by
  show (if c = .canvasRemoveBitmap canvas sprite ∧ h.reports canvas sprite = .ok true then 1
    else 0) ≤ _
  split
  · next htaken => exact (reports_iff sprite).mp htaken.2
  · exact Nat.zero_le _

/-- A call that neither attaches to a canvas nor takes off it leaves its references as they are. -/
theorem references_other (hs : h.stage.Sound)
    (hadd : ∀ sprite, c ≠ .canvasAddBitmap canvas sprite)
    (hremove : ∀ sprite, c ≠ .canvasRemoveBitmap canvas sprite)
    (hfresh : (⟨c, h.answer c⟩ : Entry).created? = some (.canvas, canvas) →
      h.stage.references canvas = []) :
    (h.after c).stage.references canvas = h.stage.references canvas := by
  rw [references_step hs hfresh, takings_of_none fun s hcall => absurd hcall (hremove s),
    dropEach_zero, attachments_singleton, Entry.attached?_eq_none hadd]
  exact List.append_nil _

/-- **References are queues.** Whatever a canvas refers to at some time, after more calls it refers
to that and to what they attach, less the first of each sprite that they take off. The calls must
not create another canvas with the id of one that refers to something. -/
theorem references_queue (hs : h.stage.Sound) (calls : List Call)
    (hfresh : ∀ earlier c later, calls = earlier ++ c :: later →
      (⟨c, (h.run earlier).answer c⟩ : Entry).created? = some (.canvas, canvas) →
      (h.run earlier).stage.references canvas = []) :
    let all := h.stage.references canvas ++ attachments canvas (h.history calls)
    (h.run calls).stage.references canvas =
        dropEach (fun s => h.takings canvas s calls) all ∧
      ∀ s, h.takings canvas s calls ≤ all.count s := by
  intro all
  induction calls generalizing h with
  | nil =>
    refine ⟨?_, fun s => Nat.zero_le _⟩
    show h.stage.references canvas = dropEach (fun _ => 0) (h.stage.references canvas ++ [])
    rw [dropEach_zero, List.append_nil]
  | cons c rest ih =>
    have hstep := references_step hs (hfresh [] c rest rfl)
    obtain ⟨hrest, hcount⟩ := ih (sound_after hs c)
      fun earlier c' later hsplit => hfresh (c :: earlier) c' later (congrArg (c :: ·) hsplit)
    -- the first call takes off what was there before, so the rest attaches behind it
    have hall : (h.after c).stage.references canvas ++
          attachments canvas ((h.after c).history rest) =
        dropEach (fun s => h.takings canvas s [c]) all := by
      rw [hstep, List.append_assoc, ← attachments_append,
        ← dropEach_append fun s => takings_le_count c canvas s]
      rfl
    rw [hall] at hrest hcount
    have htakings : ∀ s, h.takings canvas s (c :: rest) =
        h.takings canvas s [c] + (h.after c).takings canvas s rest := fun s => rfl
    refine ⟨?_, fun s => ?_⟩
    · show ((h.after c).run rest).stage.references canvas = _
      rw [hrest, dropEach_dropEach]
      rfl
    · have hfirst : h.takings canvas s [c] ≤ all.count s :=
        (takings_le_count c canvas s).trans (List.sublist_append_left _ _ |>.count_le s)
      have hlater := hcount s
      rw [count_dropEach] at hlater
      rw [htakings]
      omega

/-- Canvases that are created have no references as long as the ids last. -/
theorem references_of_created {settings : Settings} {sink : σ} {calls : List Call}
    (hfew : ((start settings sink).history calls).countP (Entry.creates .canvas) < 2 ^ 32)
    (hcreated : (⟨c, ((start settings sink).run calls).answer c⟩ : Entry).created? =
      some (.canvas, canvas)) :
    ((start settings sink).run calls).stage.references canvas = [] := by
  rcases answer_cases (sound_run settings sink calls) c with
    ⟨reply, hanswer, ha⟩ | ⟨fault, hanswer, -⟩
  · rw [hanswer] at hcreated
    by_contra hrefs
    exact ha.not_has_of_created hcreated hfew (Stage.has_of_references hrefs)
  · rw [hanswer, Entry.created?_error] at hcreated
    cases hcreated

/-- **References are first in, first out for each sprite.** Take any run, any canvas, and the
references of the canvas after the run. As long as fewer than `2 ^ 32` canvases were created, they
are the sprites of all attachments to the canvas that went through, in the order of the calls,
without the first few of each sprite, as many as there were calls that took this sprite off the
canvas and reported a reference; and a call that neither attaches to this canvas nor takes off it
leaves them as they are. A reference is reported exactly if there is one at the moment, also to a
sprite that is gone. When ids have run out, so that another canvas may get the id of this one, the
same holds from any time on until that happens. -/
theorem references_first_in_first_out (settings : Settings) (sink : σ) (calls : List Call)
    (canvas : Ident) :
    let h := (start settings sink).run calls
    let all := attachments canvas ((start settings sink).history calls)
    let taken := fun sprite => (start settings sink).takings canvas sprite calls
    (((start settings sink).history calls).countP (Entry.creates .canvas) < 2 ^ 32 →
      h.stage.references canvas = dropEach taken all ∧
      (h.stage.references canvas).Sublist all ∧
      (∀ sprite, taken sprite ≤ all.count sprite) ∧
      ∀ c, (∀ sprite, c ≠ .canvasAddBitmap canvas sprite) →
        (∀ sprite, c ≠ .canvasRemoveBitmap canvas sprite) →
        (h.after c).stage.references canvas = h.stage.references canvas) ∧
    (∀ sprite, h.reports canvas sprite = .ok true ↔
      0 < (h.stage.references canvas).count sprite) ∧
    ∀ more, (∀ e ∈ h.history more, e.created? ≠ some (.canvas, canvas)) →
      let allMore := h.stage.references canvas ++ attachments canvas (h.history more)
      (h.run more).stage.references canvas =
          dropEach (fun sprite => h.takings canvas sprite more) allMore ∧
        ∀ sprite, h.takings canvas sprite more ≤ allMore.count sprite := by
  intro h all taken
  have hs : h.stage.Sound := sound_run settings sink calls
  refine ⟨?_, fun sprite => reports_iff sprite, ?_⟩
  · intro hfew
    have hfresh : ∀ earlier c later, calls = earlier ++ c :: later →
        (⟨c, ((start settings sink).run earlier).answer c⟩ : Entry).created? =
          some (.canvas, canvas) →
        ((start settings sink).run earlier).stage.references canvas = [] := by
      intro earlier c later hsplit
      refine references_of_created ?_
      rw [hsplit, history_append, List.countP_append] at hfew
      omega
    obtain ⟨hqueue, hcount⟩ := references_queue (sound_run settings sink []) calls hfresh
    refine ⟨hqueue, hqueue ▸ dropEach_sublist taken all, hcount, ?_⟩
    intro c hadd hremove
    exact references_other hs hadd hremove (references_of_created hfew)
  · intro more hnone
    refine references_queue hs more ?_
    rintro earlier c later rfl hcreated
    refine absurd hcreated (hnone _ ?_)
    rw [history_append]
    exact List.mem_append_right _ List.mem_cons_self

/-- Two sprites are attached to a canvas in turn, and the first one is taken off twice, the second
time after it was deleted. An attempt to take off a sprite that was never attached does not count,
and neither a deletion nor a redraw shows in the references. -/
theorem second_sprite_left_twice :
    let calls : List Call := [.createCanvas 2 2, .createBitmap 1 1, .createText "hi" .black 12,
      .canvasAddBitmap 1 1, .canvasAddBitmap 1 2, .canvasAddBitmap 1 1, .canvasRemoveBitmap 1 1,
      .canvasDeleteBitmap 1, .canvasRemoveBitmap 1 7, .canvasRedraw 1, .canvasAddBitmap 1 2,
      .canvasRemoveBitmap 1 1]
    let h : Host Recorder := (start {} {}).run calls
    h.stage.references 1 = [2, 2] ∧
      (h.after (.canvasDeleteBitmap 2)).stage.references 1 = [2, 2] ∧
      (h.run [.canvasDeleteBitmap 2, .canvasRemoveBitmap 1 2]).stage.references 1 = [2] := by
  intro calls h
  obtain ⟨hfew, -, hmore⟩ := references_first_in_first_out {} ({} : Recorder) calls 1
  obtain ⟨hqueue, -, -, hother⟩ := hfew (by decide +kernel)
  have hrefs : h.stage.references 1 = [2, 2] := hqueue.trans (by decide +kernel)
  refine ⟨hrefs, (hother (.canvasDeleteBitmap 2) nofun nofun).trans hrefs, ?_⟩
  exact (hmore [.canvasDeleteBitmap 2, .canvasRemoveBitmap 1 2] (by decide +kernel)).1.trans
    (by decide +kernel)

end Host

end SpriteStage
