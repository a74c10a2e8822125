/-
The layout of the column.

The column is a list beside four tables, and different calls change them: a creation appends a widget
and stores an element, a removal of a text view erases the first occurrence of its widget and the
element. That list and tables agree is an invariant of two parts. What is in the column is on the
stage, so that a removal that finds nothing has nothing to erase. And no widget is in the column
twice, so that a removal leaves no second occurrence behind. The second part rests on fresh ids
(`Host.next_absent`), since a widget that is appended must not be there already.

Widgets of different kinds never get in each other's way, for the kind is part of the widget.
-/
import SpriteStage.Proofs.Numbering

set_option autoImplicit false

namespace SpriteStage

/-! ## The widgets of a history -/

/-- The widget of an element. Sprites have none. -/
def Widget.of? : Kind × Ident → Option Widget
  | (.textView, id) => some (.textView id)
  | (.button, id) => some (.button id)
  | (.canvas, id) => some (.canvas id)
  | (.sprite, _) => none

/-- The element that a widget stands for. -/
def Widget.element : Widget → Kind × Ident
  | textView id => (.textView, id)
  | button id => (.button, id)
  | canvas id => (.canvas, id)

theorem Widget.of?_eq_some {element : Kind × Ident} {w : Widget} :
    of? element = some w ↔ element = w.element := by
  obtain ⟨k, id⟩ := element
  cases k <;> cases w <;> simp [of?, Widget.element]

theorem Widget.element_ne_sprite (w : Widget) : w.element.1 ≠ .sprite := by
  cases w <;> simp [Widget.element]

/-- The widget that an entry tells the creation of. -/
def Entry.widget? (e : Entry) : Option Widget := e.created?.bind Widget.of?

/-- The widget that an entry takes away, if it is there. -/
def Entry.removal? (e : Entry) : Option Widget := e.call.removes?.bind Widget.of?

theorem Entry.widget?_eq_some {e : Entry} {w : Widget} :
    e.widget? = some w ↔ e.created? = some w.element := by
  simp only [Entry.widget?, Option.bind_eq_some_iff, Widget.of?_eq_some, exists_eq_right]

theorem Entry.removal?_eq_some {e : Entry} {w : Widget} :
    e.removal? = some w ↔ e.call.removes? = some w.element := by
  simp only [Entry.removal?, Option.bind_eq_some_iff, Widget.of?_eq_some, exists_eq_right]

/-- The widgets that a history leaves standing: those that it created, in the order of creation,
without those that a later entry took away. -/
def standing : List Entry → List Widget
  | [] => []
  | e :: later =>
    e.widget?.toList.filter (fun w => later.all fun e' => e'.removal? ≠ some w) ++ standing later

theorem standing_concat (past : List Entry) (e : Entry) :
    standing (past ++ [e]) =
      (standing past).filter (fun w => e.removal? ≠ some w) ++ e.widget?.toList := by
  induction past with
  | nil => simp [standing]
  | cons first rest ih =>
    rw [List.cons_append, standing, standing, ih, List.filter_append, List.append_assoc,
      List.filter_filter]
    -- the first widget has to outlast the rest and the new entry
    congr 2
    funext w
    rw [List.all_append, List.all_cons, List.all_nil, Bool.and_true, Bool.and_comm]

theorem mem_standing {w : Widget} {past : List Entry} :
    w ∈ standing past ↔ Live w.element.1 w.element.2 past := by
  induction past using List.reverseRecOn with
  | nil => exact iff_of_false List.not_mem_nil (not_live_nil _ _)
  | append_singleton past e ih =>
    rw [standing_concat, live_concat, List.mem_append, List.mem_filter, Option.mem_toList,
      Entry.widget?_eq_some, decide_eq_true_iff, ne_eq, Entry.removal?_eq_some, ih, or_comm]

theorem filter_removeTextView (id : Ident) (result : Except Fault Reply) (ws : List Widget) :
    ws.filter (fun w => (⟨.removeTextView id, result⟩ : Entry).removal? ≠ some w) =
      ws.filter (· ≠ .textView id) := by
  refine List.filter_congr fun w _ => ?_
  simp [Entry.removal?, Call.removes?, Widget.of?, eq_comm]

theorem filter_of_removal?_none {e : Entry} (h : e.removal? = none) (ws : List Widget) :
    ws.filter (fun w => e.removal? ≠ some w) = ws := by
  simp [h]

/-! ## One call -/

namespace Host

variable {σ : Type} [EventSink σ] {h h' : Host σ} {c : Call} {reply : Reply}

/-- An accepted call takes the widget off the column that it removes, and appends the one that it
creates. -/
theorem Accepts.children (ha : h.Accepts c reply h') (hnodup : h.stage.column.children.Nodup)
    (hhas : ∀ w ∈ h.stage.column.children, h.stage.has w.element.1 w.element.2) :
    h'.stage.column.children =
      h.stage.column.children.filter (fun w => (⟨c, .ok reply⟩ : Entry).removal? ≠ some w) ++
        (⟨c, .ok reply⟩ : Entry).widget?.toList := by
  cases ha with
  | createTextView | createButton | createCanvas =>
    rw [filter_of_removal?_none rfl]
    rfl
  | removeTextView found =>
    -- the first occurrence is the only one
    show h.stage.column.children.erase (.textView _) = _ ++ []
    rw [hnodup.erase_eq_filter, List.append_nil, filter_removeTextView]
    simp only [bne, beq_eq_decide, decide_not]
  | removeNoTextView absent =>
    show h.stage.column.children = _ ++ []
    rw [List.append_nil, eq_comm, List.filter_eq_self]
    intro w hw
    rw [decide_eq_true_iff, ne_eq, Entry.removal?_eq_some]
    intro heq
    -- a widget that is removed in vain is not in the column
    have hfound := hhas w hw
    rw [← Option.some.inj heq, Stage.has, absent] at hfound
    exact Bool.false_ne_true hfound
  | _ =>
    rw [filter_of_removal?_none rfl]
    exact (List.append_nil _).symm

variable (settings : Settings) (sink : σ) (calls : List Call)

/-- The widgets that a history leaves standing are those of the elements on the stage. -/
theorem mem_standing_run {w : Widget} :
    w ∈ standing ((start settings sink).history calls) ↔
      ((start settings sink).run calls).stage.has w.element.1 w.element.2 :=
  mem_standing.trans (has_run_iff settings sink calls _ _).symm

variable {settings sink calls} in
/-- A widget that is created was not standing before. -/
theorem Accepts.widget?_fresh {c : Call} {reply : Reply} {h' : Host σ} {w : Widget}
    (ha : ((start settings sink).run calls).Accepts c reply h')
    (hw : (⟨c, .ok reply⟩ : Entry).widget? = some w)
    (hfew : ((start settings sink).history calls).countP (Entry.creates w.element.1) < 2 ^ 32) :
    w ∉ standing ((start settings sink).history calls) := by
  rw [mem_standing_run]
  exact ha.not_has_of_created (Entry.widget?_eq_some.mp hw) hfew

section Few

variable {settings sink calls}
  (hfew : ∀ k, k ≠ .sprite →
    ((start settings sink).history calls).countP (Entry.creates k) < 2 ^ 32)

include hfew

/-- The column of a run lists the widgets that its history leaves standing, none of them twice. -/
theorem children_run :
    ((start settings sink).run calls).stage.column.children =
        standing ((start settings sink).history calls) ∧
      (standing ((start settings sink).history calls)).Nodup := by
  induction calls using List.reverseRecOn with
  | nil => exact ⟨rfl, List.nodup_nil⟩
  | append_singleton calls c ih =>
    have hfew' : ∀ k, k ≠ .sprite →
        ((start settings sink).history calls).countP (Entry.creates k) < 2 ^ 32 :=
      fun k hk => countP_lt_of_concat (hfew k hk)
    obtain ⟨hchildren, hnodup⟩ := ih hfew'
    rw [history_concat, run_concat, standing_concat]
    rcases answer_cases (sound_run settings sink calls) c with
      ⟨reply, hanswer, ha⟩ | ⟨fault, hanswer, hafter, hr⟩
    · rw [hanswer]
      have hhas : ∀ w ∈ ((start settings sink).run calls).stage.column.children,
          ((start settings sink).run calls).stage.has w.element.1 w.element.2 := by
        intro w hw
        rw [hchildren] at hw
        exact (mem_standing_run settings sink calls).mp hw
      refine ⟨?_, List.Nodup.append (hnodup.filter _) (Option.toList_nodup _) ?_⟩
      · rw [ha.children (hchildren ▸ hnodup) hhas, hchildren]
      · intro w hold hnew
        have hfresh := ha.widget?_fresh (Option.mem_toList.mp hnew)
          (hfew' _ w.element_ne_sprite)
        exact hfresh (List.mem_of_mem_filter hold)
    · have hnone : (⟨c, .error fault⟩ : Entry).removal? = none := by
        rw [Entry.removal?, hr.removes?_eq]
        rfl
      have hnothing : (⟨c, .error fault⟩ : Entry).widget? = none := by
        rw [Entry.widget?, Entry.created?_error]
        rfl
      rw [hanswer, hafter, filter_of_removal?_none hnone, hnothing, Option.toList_none, List.append_nil]
      exact ⟨hchildren, hnodup⟩

/-- A widget is in the column exactly if its element is on the stage. -/
theorem mem_children_run (w : Widget) :
    w ∈ ((start settings sink).run calls).stage.column.children ↔
      ((start settings sink).run calls).stage.has w.element.1 w.element.2 := by
  rw [(children_run hfew).1]
  exact mem_standing_run settings sink calls

/-- Removing a text view takes its widget off the column, if there is one, and leaves the others in
their places. -/
theorem children_removeTextView (id : Ident) :
    (((start settings sink).run calls).after (.removeTextView id)).stage.column.children =
      ((start settings sink).run calls).stage.column.children.filter (· ≠ .textView id) := by
  obtain ⟨hchildren, hnodup⟩ := children_run hfew
  have hhas := fun w => (mem_children_run hfew w).mp
  rcases answer_cases (sound_run settings sink calls) (.removeTextView id) with
    ⟨reply, -, ha⟩ | ⟨fault, -, -, hr⟩
  · have hnothing : (⟨.removeTextView id, .ok reply⟩ : Entry).widget? = none := rfl
    rw [ha.children (hchildren ▸ hnodup) hhas, hnothing, Option.toList_none, List.append_nil,
      filter_removeTextView]
  · cases hr

end Few

/-- **The column lists the live widgets.** After every run that has created fewer than `2 ^ 32` text
views, buttons and canvases each, the column lists the widgets that were created, in the order of
their creation and without the text views that were removed later on. None of them is listed twice.
So a widget is in the column exactly if the table of its kind has its id, and removing a text view
leaves every other widget where it was, one of another kind with the same number among them. -/
theorem column_lists_widgets
    (hfew : ∀ k, k ≠ .sprite →
      ((start settings sink).history calls).countP (Entry.creates k) < 2 ^ 32) :
    let s := ((start settings sink).run calls).stage
    s.column.children = standing ((start settings sink).history calls) ∧
      s.column.children.Nodup ∧
      (∀ id, .textView id ∈ s.column.children ↔ s.textViews.contains id) ∧
      (∀ id, .button id ∈ s.column.children ↔ s.buttons.contains id) ∧
      (∀ id, .canvas id ∈ s.column.children ↔ s.canvases.contains id) ∧
      ∀ id, (((start settings sink).run calls).after (.removeTextView id)).stage.column.children =
        s.column.children.filter (· ≠ .textView id) := by
  intro s
  obtain ⟨hchildren, hnodup⟩ := children_run hfew
  have hmem := mem_children_run hfew
  refine ⟨hchildren, ?_, ?_, ?_, ?_, children_removeTextView hfew⟩
  · show s.column.children.Nodup
    rw [hchildren]
    exact hnodup
  · exact fun id => hmem (.textView id)
  · exact fun id => hmem (.button id)
  · exact fun id => hmem (.canvas id)

/-- Of three widgets with the same number, a removal takes the text view away. -/
theorem column_after_removal :
    let calls := [.createTextView "one", .createButton "go", .createCanvas 4 4, .createCanvas 0 4,
      .createTextView "two", .removeTextView 1, .removeTextView 3, .createTextView "three"]
    ((start {} ({} : Recorder)).run calls).stage.column.children =
      [.button 1, .canvas 1, .textView 2, .textView 3] := by
  intro calls
  have hfew : ∀ k, k ≠ .sprite →
      ((start {} ({} : Recorder)).history calls).countP (Entry.creates k) < 2 ^ 32 := by
    intro k _
    cases k <;> decide +kernel
  obtain ⟨hchildren, -⟩ := column_lists_widgets {} ({} : Recorder) calls hfew
  exact hchildren.trans (by decide +kernel)

end Host

end SpriteStage
