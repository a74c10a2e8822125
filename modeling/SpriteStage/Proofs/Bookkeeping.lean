/-
What a session keeps.

A session has four records: the outcomes of its calls, the events that its sink was handed, and the
callbacks for clicks and for ticks. They are kept in different places, and each of them can be read
off the history of the calls. A press that went through is an event, a registration that went
through is a callback, and a call that failed is an outcome and nothing else.

The callbacks are settled one call at a time (`Host.Accepts.ticks_eq`, `Host.Accepts.click?_eq`) and
from there along the run. Buttons are never removed, so whoever registered for one or pressed it did
so after its creation (`Host.created_of_found`).
-/
import SpriteStage.Proofs.Presence
import SpriteStage.Proofs.Replay
import SpriteStage.Proofs.Sinks

set_option autoImplicit false

namespace SpriteStage

/-! ## Registrations -/

/-- The callback that a call registers for ticks. -/
def Call.tick? : Call → Option Callback
  | .registerOnTick callback => some callback
  | _ => none

/-- The callback that an entry gives to a button. Only a registration that went through gives one.
-/
def Entry.clickOf? (button : Ident) : Entry → Option Callback
  | ⟨.registerOnClick id callback, .ok _⟩ => if id = button then some callback else none
  | _ => none

/-- Whether an entry tells of a press of a button or of a registration for it that went through. -/
def Entry.Concerns (button : Ident) (e : Entry) : Prop :=
  (e.clickOf? button).isSome ∨ e.press? = some (.buttonPress button)

theorem Entry.clickOf?_error (button : Ident) (c : Call) (fault : Fault) :
    (⟨c, .error fault⟩ : Entry).clickOf? button = none := by
  cases c <;> rfl

/-- A creation of a button is a call that asked for one and was answered with an id. -/
theorem Entry.eq_createButton {e : Entry} {id : Ident} (h : e.created? = some (.button, id)) :
    ∃ label, e = ⟨.createButton label, .ok (.id id)⟩ := by
  obtain ⟨c, result⟩ := e
  unfold created? at h
  split at h
  · next k id' hk hresult =>
    cases h
    obtain rfl : result = .ok (.id id) := hresult
    cases c with
    | createButton label => exact ⟨label, rfl⟩
    | _ => cases hk
  · cases h

/-- What was handed to a recorder is its record. -/
theorem Recorder.handed_eq (r : Recorder) (events : List Event) :
    EventSink.handed r events = ⟨r.events ++ events⟩ := by
  induction events generalizing r with
  | nil =>
    rw [List.append_nil]
    rfl
  | cons e rest ih =>
    have hfirst : EventSink.handed r (e :: rest) = EventSink.handed (r.add e) rest := rfl
    rw [hfirst, ih, Recorder.add, List.append_assoc, List.singleton_append]

namespace Host

variable {σ : Type} [EventSink σ] {h h' : Host σ} {c : Call} {reply : Reply}

theorem calls_history (h : Host σ) (calls : List Call) :
    (h.history calls).map Entry.call = calls := by
  induction calls generalizing h with
  | nil => rfl
  | cons c rest ih => rw [history, List.map_cons, ih]

/-- A history that is split at an entry: the calls before it, and what it was answered on the host
that they left. -/
theorem history_split {calls : List Call} {before after : List Entry} {e : Entry}
    (hsplit : h.history calls = before ++ e :: after) :
    ∃ earlier, before = h.history earlier ∧ e.result = (h.run earlier).answer e.call := by
  induction before generalizing h calls with
  | nil =>
    cases calls with
    | nil => cases hsplit
    | cons c rest =>
      obtain ⟨rfl, -⟩ := List.cons.inj hsplit
      exact ⟨[], rfl, rfl⟩
  | cons first before ih =>
    cases calls with
    | nil => cases hsplit
    | cons c rest =>
      obtain ⟨rfl, hrest⟩ := List.cons.inj hsplit
      obtain ⟨earlier, rfl, hresult⟩ := ih hrest
      exact ⟨c :: earlier, rfl, hresult⟩

/-! ## Callbacks -/

/-- A call adds the callback that it registers for ticks. -/
theorem Accepts.ticks_eq (ha : h.Accepts c reply h') :
    h'.handlers.ticks = h.handlers.ticks ++ c.tick?.toList := by
  cases ha with
  | registerOnTick callback => rfl
  | _ => exact (List.append_nil _).symm

omit [EventSink σ] in
/-- A registration for ticks is never refused. -/
theorem Refuses.tick?_eq {fault : Fault} (hr : h.Refuses c fault) : c.tick? = none := by
  cases hr <;> rfl

/-- A call gives a button the callback that it registers for it, in place of an earlier one. -/
theorem Accepts.click?_eq (ha : h.Accepts c reply h') (button : Ident) :
    h'.handlers.click? button =
      ((⟨c, .ok reply⟩ : Entry).clickOf? button).or (h.handlers.click? button) := by
  cases ha with
  | @registerOnClick id label found callback =>
    have hclick := h.handlers.clicks.find?_insert id callback button
    rw [Handlers.click?, Handlers.onClick, hclick, Entry.clickOf?, eq_comm]
    by_cases heq : id = button
    · rw [if_pos heq, if_pos heq.symm]
      rfl
    · rw [if_neg heq, if_neg (Ne.symm heq)]
      rfl
  | _ => rfl

variable (settings : Settings) (sink : σ) (calls : List Call)

/-- The callbacks for ticks after a run. -/
theorem ticks_run :
    ((start settings sink).run calls).handlers.ticks = calls.filterMap Call.tick? := by
  have hpast : ((start settings sink).run calls).handlers.ticks =
      ((start settings sink).history calls).filterMap fun e => e.call.tick? := by
    refine run_induction (motive := fun past h =>
      h.handlers.ticks = past.filterMap fun e => e.call.tick?) settings sink rfl
      (fun {calls c reply h'} ih ha => ?_) (fun {calls c fault} ih hr => ?_) calls
    · rw [ha.ticks_eq, ih, List.filterMap_append]
      cases hc : c.tick? <;> simp [hc]
    · rw [ih, List.filterMap_append]
      simp [hr.tick?_eq]
  rw [hpast]
  conv_rhs => rw [← (start settings sink).calls_history calls, List.filterMap_map]
  rfl

/-- The callback of a button after a run. -/
theorem click?_run (button : Ident) :
    ((start settings sink).run calls).handlers.click? button =
      (((start settings sink).history calls).filterMap (Entry.clickOf? button)).getLast? := by
  refine run_induction (motive := fun past h =>
    h.handlers.click? button = (past.filterMap (Entry.clickOf? button)).getLast?) settings sink rfl
    (fun {calls c reply h'} ih ha => ?_) (fun {calls c fault} ih hr => ?_) calls
  · rw [ha.click?_eq button, ih, List.filterMap_append, List.getLast?_append]
    cases hc : (⟨c, .ok reply⟩ : Entry).clickOf? button <;> simp [hc]
  · rw [ih, List.filterMap_append]
    simp [Entry.clickOf?_error]

/-! ## Buttons -/

/-- A button that is found was created. -/
theorem created_of_found {button : Ident} {label : String}
    (hfind : ((start settings sink).run calls).stage.buttons.find? button = some label) :
    ∃ label, ⟨.createButton label, .ok (.id button)⟩ ∈ (start settings sink).history calls := by
  have hlive := (has_run_iff settings sink calls .button button).mp (by simp [Stage.has, hfind])
  obtain ⟨e, hmem, hcreated⟩ := (live_iff_created (.inr rfl)).mp hlive
  obtain ⟨label, rfl⟩ := Entry.eq_createButton hcreated
  exact ⟨label, hmem⟩

/-- A press or a registration that went through found its button. -/
theorem found_of_concerns {e : Entry} {button : Ident} (hs : h.stage.Sound)
    (hresult : e.result = h.answer e.call) (he : e.Concerns button) :
    ∃ label, h.stage.buttons.find? button = some label := by
  obtain ⟨c, result⟩ := e
  obtain rfl : result = h.answer c := hresult
  rw [answer] at he
  rcases step_cases hs c with ⟨reply, h', hstep, ha⟩ | ⟨fault, hstep, -⟩
  · rw [hstep] at he
    cases ha with
    | @registerOnClick id label found callback =>
      rcases he with he | he
      · rw [Entry.clickOf?] at he
        split at he
        · next heq => exact ⟨label, heq ▸ found⟩
        · cases he
      · cases he
    | @pressButton id label found =>
      rcases he with he | he
      · cases he
      · cases he
        exact ⟨label, found⟩
    | _ => rcases he with he | he <;> cases he
  · rw [hstep, Entry.Concerns, Entry.clickOf?_error, Entry.press?_error] at he
    rcases he with he | he <;> cases he

/-- **Creation first.** Before a press of a button or a registration for it that went through, the
button was created. -/
theorem created_before_concern {button : Ident} {before after : List Entry} {e : Entry}
    (hsplit : (start settings sink).history calls = before ++ e :: after)
    (he : e.Concerns button) :
    ∃ label, ⟨.createButton label, .ok (.id button)⟩ ∈ before := by
  obtain ⟨earlier, rfl, hresult⟩ := history_split hsplit
  obtain ⟨label, hfind⟩ := found_of_concerns (sound_run settings sink earlier) hresult he
  exact created_of_found settings sink earlier hfind

end Host

/-! ## Sessions -/

namespace Session

variable {s : Session} {settings : Settings}

/-- A session that was started is a host on which nothing has happened yet, without outcomes. -/
theorem eq_of_start (hs : start settings = .ok s) : s = ⟨.start settings {}, []⟩ := by
  rw [start] at hs
  cases hvalid : settings.validate with
  | error fault =>
    rw [hvalid] at hs
    cases hs
  | ok _ =>
    rw [hvalid] at hs
    exact (Except.ok.inj hs).symm

/-- An outcome stays where it is. -/
theorem getElem?_outcomes_of_lt {i : Nat} (hi : i < s.outcomes.length) (calls : List Call) :
    (s.run calls).outcomes[i]? = s.outcomes[i]? := by
  induction calls generalizing s with
  | nil => rfl
  | cons c rest ih =>
    rw [run_cons, ih (by rw [outcomes_apply, List.length_append]; omega), outcomes_apply,
      List.getElem?_append_left hi]

/-- The outcome of each call of a run. -/
theorem getElem?_outcomes_run (s : Session) (calls : List Call) (i : Nat) :
    (s.run calls).outcomes[s.outcomes.length + i]? = calls[i]?.map fun c =>
      Outcome.mk (s.outcomes.length + i) c.name ((s.run (calls.take i)).host.answer c) := by
  induction calls generalizing s i with
  | nil => simp
  | cons c rest ih =>
    have hlength : (s.apply c).2.outcomes.length = s.outcomes.length + 1 := by
      rw [outcomes_apply, List.length_append, List.length_singleton]
    cases i with
    | zero =>
      rw [run_cons, Nat.add_zero, getElem?_outcomes_of_lt (by omega), outcomes_apply,
        List.getElem?_concat_length]
      rfl
    | succ i =>
      have hnext := ih (s.apply c).2 i
      rw [hlength, Nat.add_assoc, Nat.add_comm 1] at hnext
      exact hnext

/-- **A session keeps its books.** After any calls on a new session, the outcome of each call has
its position, its name and what it was answered at its turn. The events are the presses that went
through, in order. The callbacks for ticks are those of all registrations, in order and with
repetitions. The callback of a button is that of the last registration for it that went through.
Before a press of a button or a registration for it that went through, the button was created; so
every button with a callback or an event was. And a call that fails adds its outcome and leaves
everything else as it was. -/
theorem session_keeps_books (hs : start settings = .ok s) (calls : List Call) :
    let past := s.host.history calls
    let t := s.run calls
    (∀ i : Nat, t.outcomes[i]? = calls[i]?.map fun c =>
      Outcome.mk i c.name ((s.run (calls.take i)).host.answer c)) ∧
    t.events = presses past ∧
    t.host.handlers.ticks = calls.filterMap Call.tick? ∧
    (∀ button, t.host.handlers.click? button =
      (past.filterMap (Entry.clickOf? button)).getLast?) ∧
    (∀ before e after button, past = before ++ e :: after → e.Concerns button →
      ∃ label, ⟨.createButton label, .ok (.id button)⟩ ∈ before) ∧
    (∀ button, (t.host.handlers.click? button).isSome ∨ .buttonPress button ∈ t.events →
      ∃ label, ⟨.createButton label, .ok (.id button)⟩ ∈ past) ∧
    ∀ c fault, t.host.answer c = .error fault →
      (t.apply c).2 = ⟨t.host, t.outcomes ++ [⟨t.outcomes.length, c.name, .error fault⟩]⟩ := by
  intro past t
  obtain rfl := eq_of_start hs
  have hhost : t.host = (Host.start settings {}).run calls := host_run _ calls
  have hevents : t.events = presses past := by
    rw [events, stage, hhost, Host.sink_run, Recorder.handed_eq]
    rfl
  have hclick := Host.click?_run settings ({} : Recorder) calls
  have hbefore := @Host.created_before_concern Recorder _ settings {} calls
  refine ⟨?_, hevents, ?_, ?_, fun before e after button => hbefore, ?_, ?_⟩
  · intro i
    have houtcome := getElem?_outcomes_run ⟨.start settings {}, []⟩ calls i
    rw [List.length_nil, Nat.zero_add] at houtcome
    exact houtcome
  · rw [hhost]
    exact Host.ticks_run settings _ calls
  · intro button
    rw [hhost]
    exact hclick button
  · intro button hbutton
    -- the callback or the event stems from an entry, and the creation came before that entry
    have hmem : ∃ e ∈ past, e.Concerns button := by
      rcases hbutton with hsome | hevent
      · rw [hhost, hclick button] at hsome
        obtain ⟨callback, hlast⟩ := Option.isSome_iff_exists.mp hsome
        obtain ⟨e, he, heq⟩ := List.mem_filterMap.mp (List.mem_of_getLast? hlast)
        exact ⟨e, he, .inl (Option.isSome_of_eq_some heq)⟩
      · rw [hevents] at hevent
        obtain ⟨e, he, heq⟩ := List.mem_filterMap.mp hevent
        exact ⟨e, he, .inr heq⟩
    obtain ⟨e, he, hconcerns⟩ := hmem
    obtain ⟨before, after, hsplit⟩ := List.append_of_mem he
    obtain ⟨label, hlabel⟩ := hbefore hsplit hconcerns
    exact ⟨label, hsplit ▸ List.mem_append_left _ hlabel⟩
  · intro c fault hfault
    have hsound : t.host.stage.Sound := by
      rw [hhost]
      exact Host.sound_run settings _ calls
    have hafter := Host.after_of_error hsound hfault
    have happly : (t.apply c).2 = ⟨t.host.after c,
      t.outcomes ++ [⟨t.outcomes.length, c.name, t.host.answer c⟩]⟩ := rfl
    rw [happly, hafter, hfault]

/-- A registration before there is a button fails; a later one replaces an earlier one. -/
theorem last_registration_counts :
    let calls : List Call := [.registerOnClick 1 7, .createButton "go", .registerOnClick 1 8,
      .registerOnTick 3, .registerOnClick 1 9, .pressButton 1, .registerOnTick 3, .pressButton 2]
    ∃ s, start {} = .ok s ∧ (s.run calls).events = [.buttonPress 1] ∧
      (s.run calls).host.handlers.ticks = [3, 3] ∧
      (s.run calls).host.handlers.click? 1 = some 9 := by
  intro calls
  refine ⟨⟨.start {} {}, []⟩, rfl, ?_⟩
  obtain ⟨-, hevents, hticks, hclick, -⟩ :=
    @session_keeps_books ⟨.start {} {}, []⟩ {} rfl calls
  exact ⟨hevents.trans (by decide +kernel), hticks.trans (by decide), (hclick 1).trans
    (by decide +kernel)⟩

end Session

end SpriteStage
