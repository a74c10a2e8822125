/-
The frames that a run presents.

Every redraw that goes through presents one frame, and a run has the list of them
(`Host.presentations`): for each the canvas, the number that was replied, and the raster as it stood
right after the call.

What a call can do to the raster of a canvas is said once (`Host.Accepts.repaints`). A redraw of that
canvas moves its raster one frame on, a creation puts a blank raster where there was none, and all
other calls leave it as it is, with its pixels, its texts and its frame number. So the frames of one
canvas form a film: the first has the number one, each later one the next number, and the last one
is what the raster of the canvas shows (`Film`, `Host.film_run`).

A canvas that is created must not be there already, which is why the runs here are those that create
fewer than `2 ^ 32` canvases.
-/
import SpriteStage.Proofs.Numbering

set_option autoImplicit false

namespace SpriteStage

/-! ## Presentations -/

/-- A frame that was presented: the canvas, the number of the frame, and the raster of the canvas right
after the call. -/
structure Presentation where
  canvas : Ident
  frame : UInt64
  raster : Raster

/-- The raster of a canvas. -/
def Stage.raster? {σ : Type} (s : Stage σ) (id : Ident) : Option Raster :=
  (s.canvases.find? id).map Canvas.raster

/-- The canvas and the number of the frame that a result tells of. -/
def redrawn? : Except Fault Reply → Option (Ident × UInt64)
  | .ok (.redrawn canvas frame) => some (canvas, frame)
  | _ => none

/-- The frame that a result tells of, as the stage shows it. -/
def Stage.presented? {σ : Type} (s : Stage σ) : Except Fault Reply → Option Presentation
  | .ok (.redrawn canvas frame) => (s.raster? canvas).map fun raster => ⟨canvas, frame, raster⟩
  | _ => none

/-- The frames that calls present, the first one first. -/
def Host.presentations {σ : Type} [EventSink σ] (h : Host σ) : List Call → List Presentation
  | [] => []
  | c :: rest =>
    ((h.after c).stage.presented? (h.answer c)).toList ++ (h.after c).presentations rest

theorem Stage.presented?_redrawn {σ : Type} {s : Stage σ} {canvas : Ident} {frame : UInt64}
    {r : Raster} (h : s.raster? canvas = some r) :
    s.presented? (.ok (.redrawn canvas frame)) = some ⟨canvas, frame, r⟩ := by
  rw [presented?, h, Option.map_some]

theorem Stage.presented?_eq_some {σ : Type} {s : Stage σ} {result : Except Fault Reply}
    {p : Presentation} :
    s.presented? result = some p ↔
      result = .ok (.redrawn p.canvas p.frame) ∧ s.raster? p.canvas = some p.raster := by
  constructor
  · intro h
    unfold presented? at h
    split at h
    · next canvas frame =>
      obtain ⟨r, hr, rfl⟩ := Option.map_eq_some_iff.mp h
      exact ⟨rfl, hr⟩
    · cases h
  · rintro ⟨rfl, hr⟩
    exact presented?_redrawn hr

theorem Host.presentations_append {σ : Type} [EventSink σ] (h : Host σ) (calls more : List Call) :
    h.presentations (calls ++ more) = h.presentations calls ++ (h.run calls).presentations more := by
  induction calls generalizing h with
  | nil => rfl
  | cons c rest ih =>
    rw [List.cons_append, presentations, presentations, ih (h.after c), List.append_assoc]
    rfl

theorem Host.presentations_concat {σ : Type} [EventSink σ] (h : Host σ) (calls : List Call)
    (c : Call) :
    h.presentations (calls ++ [c]) = h.presentations calls ++
      (((h.run calls).after c).stage.presented? ((h.run calls).answer c)).toList := by
  rw [presentations_append, presentations, presentations, List.append_nil]

/-! ## One call -/

theorem Extent.Within.toNat_eq {limit : UInt32} {width height : Int32}
    (h : Within limit width height) :
    width.toUInt32.toNat = width.toInt ∧ height.toUInt32.toNat = height.toInt := by
  obtain ⟨⟨hw, -⟩, hh, -⟩ := h
  rw [toNat_toUInt32_of_nonneg (by omega), toNat_toUInt32_of_nonneg (by omega)]
  omega

/-- Extents that were asked for when a canvas was created. -/
def Extent.RequestedFor (e : Extent) (canvas : Ident) (past : List Entry) : Prop :=
  ∃ width height : Int32, ⟨.createCanvas width height, .ok (.id canvas)⟩ ∈ past ∧
    e.width.toNat = width.toInt ∧ e.height.toNat = height.toInt

theorem Extent.RequestedFor.concat {e : Extent} {canvas : Ident} {past : List Entry}
    (h : e.RequestedFor canvas past) (entry : Entry) : e.RequestedFor canvas (past ++ [entry]) := by
  obtain ⟨width, height, hmem, hsize⟩ := h
  exact ⟨width, height, List.mem_append_left _ hmem, hsize⟩

theorem Stage.isSome_raster? {σ : Type} (s : Stage σ) (id : Ident) :
    (s.raster? id).isSome ↔ s.has .canvas id := by
  rw [raster?, Option.isSome_map]
  exact .rfl

/-- What a call with its reply can do to the raster of a canvas. -/
inductive Repaints (id : Ident) : Option Raster → Call → Reply → Option Raster → Prop where
  | presented {old new : Raster} (extent_eq : new.extent = old.extent)
      (frame_eq : new.frame = old.frame + 1) :
    Repaints id (some old) (.canvasRedraw id) (.redrawn id new.frame) (some new)
  | created {limit : UInt32} {width height : Int32} (within : Extent.Within limit width height)
      (before : Option Raster) :
    Repaints id before (.createCanvas width height) (.id id)
      (some (.blank ⟨width.toUInt32, height.toUInt32⟩))
  | kept {before after : Option Raster} {c : Call} {reply : Reply} (same : after = before)
      (other : ∀ frame, reply ≠ .redrawn id frame) :
    Repaints id before c reply after

theorem Repaints.same_or_created {id : Ident} {before after : Option Raster} {c : Call}
    {reply : Reply} (h : Repaints id before c reply after) (hcall : c ≠ .canvasRedraw id) :
    after = before ∨ (⟨c, .ok reply⟩ : Entry).created? = some (.canvas, id) := by
  cases h with
  | presented => exact absurd rfl hcall
  | created => exact .inr rfl
  | kept same => exact .inl same

theorem Stage.raster?_storeCanvas {σ : Type} {s : Stage σ} {target : Ident} {old new : Canvas}
    (hfind : s.canvases.find? target = some old) (hraster : new.raster = old.raster) (id : Ident) :
    (s.storeCanvas target new).raster? id = s.raster? id := by
  rw [raster?, storeCanvas, Table.find?_insert]
  split
  · next heq => rw [heq, raster?, hfind, Option.map_some, Option.map_some, hraster]
  · rfl

namespace Host

variable {σ : Type} [EventSink σ] {h h' : Host σ} {c : Call} {reply : Reply}

/-- **What becomes of a raster.** -/
theorem Accepts.repaints (ha : h.Accepts c reply h') (id : Ident) :
    Repaints id (h.stage.raster? id) c reply (h'.stage.raster? id) := by
  cases ha with
  | createCanvas within =>
    rw [stage_put, Stage.raster?, Stage.raster?, Table.find?_insert]
    split
    · next heq =>
      subst heq
      exact .created within _
    · exact .kept rfl (by rintro _ ⟨⟩)
  | canvasAddBitmap live found =>
    exact .kept (Stage.raster?_storeCanvas found (by rfl) id) (by rintro _ ⟨⟩)
  | canvasRemoveBitmap found sprite =>
    exact .kept (Stage.raster?_storeCanvas found (by rfl) id) (by rintro _ ⟨⟩)
  | @canvasRedraw canvas old found =>
    rw [stage_put, Stage.raster?, Stage.raster?, Stage.storeCanvas, Table.find?_insert]
    split
    · next heq =>
      subst heq
      rw [found]
      exact @Repaints.presented _ old.raster
        (old.redrawn h.stage.sprites h.stage.settings.clear).raster rfl rfl
    · next hne =>
      -- the frame is one of another canvas
      refine .kept rfl fun frame heq => hne ?_
      cases heq
      rfl
  | _ => exact .kept rfl (by rintro _ ⟨⟩)

theorem Accepts.eq_of_redrawn {canvas : Ident} {frame : UInt64}
    (ha : h.Accepts c (.redrawn canvas frame) h') : c = .canvasRedraw canvas := by
  cases ha
  rfl

/-- A reply that tells of a frame is followed by that frame on the stage. -/
theorem Accepts.presented? (ha : h.Accepts c reply h') :
    (h'.stage.presented? (.ok reply)).map (fun p => (p.canvas, p.frame)) =
      redrawn? (.ok reply) := by
  cases ha with
  | @canvasRedraw canvas old found =>
    have hraster : (h.stage.storeCanvas canvas
        (old.redrawn h.stage.sprites h.stage.settings.clear)).raster? canvas =
          some (old.redrawn h.stage.sprites h.stage.settings.clear).raster := by
      rw [Stage.raster?, Stage.storeCanvas, Table.find?_insert_self, Option.map_some]
    rw [stage_put, Stage.presented?_redrawn hraster]
    rfl
  | _ => rfl

/-- A call presents a frame, or its result tells of none. -/
theorem presented_or_none (hs : h.stage.Sound) (c : Call) :
    (∃ p, (h.after c).stage.presented? (h.answer c) = some p) ∨
      redrawn? (h.answer c) = none ∧ (h.after c).stage.presented? (h.answer c) = none := by
  rcases answer_cases hs c with ⟨reply, hanswer, ha⟩ | ⟨fault, hanswer, -⟩
  · rw [hanswer]
    have htag := ha.presented?
    revert htag
    cases (h.after c).stage.presented? (.ok reply) with
    | none => exact fun htag => .inr ⟨htag.symm, rfl⟩
    | some p => exact fun _ => .inl ⟨p, rfl⟩
  · rw [hanswer]
    exact .inr ⟨rfl, rfl⟩

variable {settings : Settings} {sink : σ} {calls : List Call} {id : Ident} {r : Raster}

theorem Accepts.raster?_of_created (ha : ((start settings sink).run calls).Accepts c reply h')
    (hcreated : (⟨c, .ok reply⟩ : Entry).created? = some (.canvas, id))
    (hfew : ((start settings sink).history calls).countP (Entry.creates .canvas) < 2 ^ 32) :
    ((start settings sink).run calls).stage.raster? id = none := by
  have habsent := ha.not_has_of_created hcreated hfew
  rw [← Stage.isSome_raster?] at habsent
  exact Option.not_isSome_iff_eq_none.mp habsent

/-- A call that is no redraw of a canvas leaves the raster of the canvas as it was. -/
theorem raster?_after
    (hfew : ((start settings sink).history calls).countP (Entry.creates .canvas) < 2 ^ 32)
    (hraster : ((start settings sink).run calls).stage.raster? id = some r)
    (hcall : c ≠ .canvasRedraw id) :
    (((start settings sink).run calls).after c).stage.raster? id = some r := by
  rcases answer_cases (sound_run settings sink calls) c with
    ⟨reply, -, ha⟩ | ⟨fault, -, hafter, -⟩
  · rcases (ha.repaints id).same_or_created hcall with hsame | hcreated
    · exact hsame.trans hraster
    · cases (ha.raster?_of_created hcreated hfew).symm.trans hraster
  · rw [hafter]
    exact hraster

end Host

/-! ## Films -/

/-- The frames that one canvas has presented, and what its raster shows then. -/
inductive Film (canvas : Ident) : List Presentation → Option Raster → Prop where
  | absent : Film canvas [] none
  | blank (e : Extent) : Film canvas [] (some (.blank e))
  | presented {frames : List Presentation} {old new : Raster}
      (film : Film canvas frames (some old)) (extent_eq : new.extent = old.extent)
      (frame_eq : new.frame = old.frame + 1) :
    Film canvas (frames ++ [⟨canvas, new.frame, new⟩]) (some new)

namespace Film

variable {canvas : Ident} {frames : List Presentation} {raster : Option Raster}

/-- Frames are numbered from one, and a raster counts the frames of its canvas. -/
theorem numbers (hf : Film canvas frames raster) (hlength : frames.length < 2 ^ 64) :
    (frames.map fun p => p.frame.toNat) = List.range' 1 frames.length ∧
      ∀ r, raster = some r → r.frame.toNat = frames.length := by
  induction hf with
  | absent => exact ⟨rfl, nofun⟩
  | blank e =>
    refine ⟨rfl, ?_⟩
    rintro _ ⟨⟩
    rfl
  | @presented frames old new film extent_eq frame_eq ih =>
    rw [List.length_append, List.length_singleton] at hlength
    obtain ⟨hnumbers, hcount⟩ := ih (by omega)
    have hnew : new.frame.toNat = frames.length + 1 := by
      rw [frame_eq, UInt64.toNat_add, hcount old rfl, UInt64.toNat_one]
      exact Nat.mod_eq_of_lt hlength
    refine ⟨?_, ?_⟩
    · rw [List.map_append, hnumbers, List.length_append, List.length_singleton, List.range'_concat,
        List.map_singleton, hnew, Nat.one_mul, Nat.add_comm]
    · rintro _ ⟨⟩
      rw [hnew, List.length_append, List.length_singleton]

theorem exists_raster (hf : Film canvas frames raster) {p : Presentation} (hp : p ∈ frames) :
    ∃ r, raster = some r := by
  cases hf with
  | absent => exact absurd hp List.not_mem_nil
  | blank e => exact ⟨_, rfl⟩
  | presented => exact ⟨_, rfl⟩

/-- The frame with the highest number is what the raster shows. -/
theorem raster_of_max (hf : Film canvas frames raster) (hlength : frames.length < 2 ^ 64)
    {p : Presentation} (hp : p ∈ frames) (hmax : ∀ q ∈ frames, q.frame ≤ p.frame) :
    raster = some p.raster := by
  cases hf with
  | absent | blank => exact absurd hp List.not_mem_nil
  | @presented earlier old new film extent_eq frame_eq =>
    have hnew := ((film.presented extent_eq frame_eq).numbers hlength).2 new rfl
    rw [List.length_append, List.length_singleton] at hlength hnew
    rcases List.mem_append.mp hp with hp | hp
    · -- an earlier frame has a lower number than the last one
      have hmem := List.mem_map_of_mem (f := fun p => p.frame.toNat) hp
      rw [(film.numbers (by omega)).1, List.mem_range'_1] at hmem
      have hle : new.frame.toNat ≤ p.frame.toNat := UInt64.le_iff_toNat_le.mp
        (hmax ⟨canvas, new.frame, new⟩ (List.mem_append_right _ List.mem_cons_self))
      omega
    · rw [List.mem_singleton.mp hp]

/-- The film of a canvas after one more call. -/
theorem concat {σ : Type} {s' : Stage σ} {c : Call} {reply : Reply}
    (hf : Film canvas frames raster) (hr : Repaints canvas raster c reply (s'.raster? canvas))
    (hnew : (⟨c, .ok reply⟩ : Entry).created? = some (.canvas, canvas) → raster = none) :
    Film canvas (frames ++ (s'.presented? (.ok reply)).toList.filter (·.canvas = canvas))
      (s'.raster? canvas) := by
  generalize hafter : s'.raster? canvas = after at hr ⊢
  cases hr with
  | presented extent_eq frame_eq =>
    rw [Stage.presented?_redrawn hafter]
    simpa using hf.presented extent_eq frame_eq
  | created =>
    -- the canvas is new, so its film is empty
    obtain rfl := hnew rfl
    cases hf
    exact .blank _
  | kept same other =>
    have hnone : (s'.presented? (.ok reply)).toList.filter (·.canvas = canvas) = [] := by
      refine List.filter_eq_nil_iff.mpr fun p hp heq => ?_
      obtain ⟨hreply, -⟩ := Stage.presented?_eq_some.mp (Option.mem_toList.mp hp)
      rw [of_decide_eq_true heq] at hreply
      exact other _ (Except.ok.inj hreply)
    rw [hnone, List.append_nil, same]
    exact hf

end Film

namespace Host

variable {σ : Type} [EventSink σ] (settings : Settings) (sink : σ) (calls : List Call)

theorem tags_presentations :
    ((start settings sink).presentations calls).map (fun p => (p.canvas, p.frame)) =
      (((start settings sink).history calls).map Entry.result).filterMap redrawn? := by
  induction calls using List.reverseRecOn with
  | nil => rfl
  | append_singleton calls c ih =>
    rw [presentations_concat, history_concat, List.map_append, List.map_append,
      List.filterMap_append, ih]
    congr 1
    rcases answer_cases (sound_run settings sink calls) c with
      ⟨reply, hanswer, ha⟩ | ⟨fault, hanswer, -⟩
    · rw [hanswer, ← Option.toList_map, ha.presented?]
      cases h : redrawn? (.ok reply) <;> simp [h]
    · rw [hanswer]
      rfl

theorem length_presentations_le (h : Host σ) :
    (h.presentations calls).length ≤ calls.length := by
  induction calls generalizing h with
  | nil => exact Nat.le_refl _
  | cons c rest ih =>
    have hrest := ih (h.after c)
    have hone : (((h.after c).stage.presented? (h.answer c)).toList).length ≤ 1 := by
      cases (h.after c).stage.presented? (h.answer c) <;> simp
    rw [presentations, List.length_append, List.length_cons]
    omega

/-- Where a frame comes from: it is the raster of its canvas right after a redraw of it. -/
theorem exists_of_mem_presentations {p : Presentation}
    (hp : p ∈ (start settings sink).presentations calls) :
    ∃ earlier later, calls = earlier ++ .canvasRedraw p.canvas :: later ∧
      ((start settings sink).run earlier).answer (.canvasRedraw p.canvas) =
        .ok (.redrawn p.canvas p.frame) ∧
      (((start settings sink).run earlier).after (.canvasRedraw p.canvas)).stage.raster? p.canvas =
        some p.raster := by
  induction calls using List.reverseRecOn with
  | nil => exact absurd hp List.not_mem_nil
  | append_singleton calls c ih =>
    rw [presentations_concat] at hp
    rcases List.mem_append.mp hp with hp | hp
    · obtain ⟨earlier, later, rfl, hrest⟩ := ih hp
      exact ⟨earlier, later ++ [c], by simp, hrest⟩
    · obtain ⟨hresult, hraster⟩ := Stage.presented?_eq_some.mp (Option.mem_toList.mp hp)
      have hcall : c = .canvasRedraw p.canvas := by
        rcases answer_cases (sound_run settings sink calls) c with
          ⟨reply, hanswer, ha⟩ | ⟨fault, hanswer, -⟩
        · rw [hanswer] at hresult
          rw [Except.ok.inj hresult] at ha
          exact ha.eq_of_redrawn
        · rw [hanswer] at hresult
          cases hresult
      rw [hcall] at hresult hraster ⊢
      exact ⟨calls, [], rfl, hresult, hraster⟩

/-- A raster has the extent that was asked for when its canvas was created. -/
theorem requestedFor_run {id : Ident} {r : Raster}
    (hraster : ((start settings sink).run calls).stage.raster? id = some r) :
    r.extent.RequestedFor id ((start settings sink).history calls) := by
  refine run_induction (motive := fun past h => ∀ r, h.stage.raster? id = some r →
    r.extent.RequestedFor id past) settings sink nofun (fun {calls c reply h'} ih ha => ?_)
    (fun ih _ => ?_) calls r hraster
  · intro r hr
    have hrepaints := ha.repaints id
    rw [hr] at hrepaints
    generalize hbefore : ((start settings sink).run calls).stage.raster? id = before at hrepaints
    cases hrepaints with
    | presented extent_eq =>
      rw [extent_eq]
      exact (ih _ hbefore).concat _
    | created within =>
      exact ⟨_, _, List.mem_append_right _ List.mem_cons_self, within.toNat_eq⟩
    | kept same => exact (ih r (hbefore.trans same.symm)).concat _
  · intro r hr
    exact (ih r hr).concat _

theorem requestedFor_redrawn {id canvas : Ident} {r : Raster}
    (hraster : (((start settings sink).run calls).after (.canvasRedraw canvas)).stage.raster? id =
      some r) :
    r.extent.RequestedFor id ((start settings sink).history calls) := by
  rw [← run_concat] at hraster
  obtain ⟨width, height, hmem, hsize⟩ := requestedFor_run settings sink _ hraster
  rw [history_concat] at hmem
  rcases List.mem_append.mp hmem with hmem | hmem
  · exact ⟨width, height, hmem, hsize⟩
  · cases List.mem_singleton.mp hmem

section Few

variable {settings sink calls}
  (hfew : ((start settings sink).history calls).countP (Entry.creates .canvas) < 2 ^ 32)
  (hlength : calls.length < 2 ^ 64)

include hfew

/-- **The frames of a canvas are a film.** -/
theorem film_run (canvas : Ident) :
    Film canvas (((start settings sink).presentations calls).filter (·.canvas = canvas))
      (((start settings sink).run calls).stage.raster? canvas) := by
  induction calls using List.reverseRecOn with
  | nil => exact .absent
  | append_singleton calls c ih =>
    have hfew' := countP_lt_of_concat hfew
    rw [presentations_concat, run_concat, List.filter_append]
    rcases answer_cases (sound_run settings sink calls) c with
      ⟨reply, hanswer, ha⟩ | ⟨fault, hanswer, hafter, -⟩
    · rw [hanswer]
      exact (ih hfew').concat (ha.repaints canvas)
        fun hcreated => ha.raster?_of_created hcreated hfew'
    · rw [hanswer, hafter]
      simpa [Stage.presented?] using ih hfew'

include hlength

omit hfew in
theorem length_film (canvas : Ident) :
    (((start settings sink).presentations calls).filter (·.canvas = canvas)).length < 2 ^ 64 :=
  Nat.lt_of_le_of_lt (List.length_filter_le _ _)
    (Nat.lt_of_le_of_lt (length_presentations_le calls _) hlength)

/-- The frames of a canvas have the numbers from one, in the order in which they were presented. -/
theorem numbers_run (canvas : Ident) :
    let own := ((start settings sink).presentations calls).filter (·.canvas = canvas)
    (own.map fun p => p.frame.toNat) = List.range' 1 own.length ∧
      ∀ r, ((start settings sink).run calls).stage.raster? canvas = some r →
        r.frame.toNat = own.length := by
  exact (film_run hfew canvas).numbers (length_film hlength canvas)

/-- No number of a canvas comes twice. -/
theorem nodup_tags :
    (((start settings sink).presentations calls).map fun p => (p.canvas, p.frame)).Nodup := by
  have hnumbers := fun canvas => (numbers_run hfew hlength canvas).1
  generalize (start settings sink).presentations calls = frames at hnumbers ⊢
  refine List.pairwise_map.mpr (List.pairwise_iff_getElem.mpr ?_)
  intro i j hi hj hij heq
  obtain ⟨hcanvas, hframe⟩ := Prod.mk.inj heq
  -- both frames are among those of one canvas, where no number comes twice
  have hnodup : ((frames.filter (·.canvas = frames[i].canvas)).map fun p => p.frame.toNat).Nodup := by
    rw [hnumbers]
    exact List.nodup_range'
  rw [List.Nodup, List.pairwise_map, List.pairwise_filter] at hnodup
  refine List.pairwise_iff_getElem.mp hnodup i j hi hj hij ?_ ?_ (congrArg UInt64.toNat hframe)
  · exact decide_eq_true rfl
  · exact decide_eq_true hcanvas.symm

end Few

end Host

end SpriteStage
