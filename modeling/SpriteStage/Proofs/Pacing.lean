/-
One tick at a time.

The thread that paces the ticks, the owner that takes them, those who hold a request and may give it
up at any moment, and the end of the ticker are all acts of one system, and they may come in any
order. What keeps them apart is a credit. Only while the thread awaits a signal may there be a
request that is out or an acknowledgement that is in the queue, and never both (`Orderly.credit`). A
thread that offers or pauses therefore knows that nothing is out, and an acknowledgement always
finds room beside the one stop that there can be.

`Orderly` is what every act keeps (`Orderly.step`), so it holds after every run. The statements
about the order of the ticks are read off from it, at the moments that they speak of.
-/
import Mathlib.Algebra.Group.Nat.Defs
import Mathlib.Data.List.Induction
import SpriteStage.Ticker

set_option autoImplicit false

namespace SpriteStage

/-- How much may be on its way to a thread: a request that is out, or an acknowledgement in the
queue. -/
def Pacer.credit : Pacer → Nat
  | .offering _ => 0
  | .awaiting _ => 1
  | .pausing _ => 0
  | .ended => 1

/-- Threads whose own count agrees with the number of requests that were handed over, as far as a
word can tell it. One that has ended counts no more. -/
def Pacer.Counts (n : Nat) : Pacer → Prop
  | .offering seq => seq = UInt64.ofNat (n + 1)
  | .awaiting seq => seq = UInt64.ofNat n
  | .pausing seq => seq = UInt64.ofNat n
  | .ended => True

theorem Pacer.credit_le (p : Pacer) : p.credit ≤ 1 := by
  cases p <;> simp [Pacer.credit]

/-- How many stops an owner has posted at most. -/
def Owner.stops : Owner → Nat
  | .listening => 0
  | .closing => 0
  | .gone => 1

theorem Owner.stops_le (o : Owner) : o.stops ≤ 1 := by
  cases o <;> simp [Owner.stops]

namespace Ticker

variable {t t' : Ticker} {acts : List Act} {a : Act}

/-- The numbers of the requests that are completed or dropped in a list of acts. -/
def acknowledged (acts : List Act) : List UInt64 :=
  acts.filterMap fun
    | .acknowledge seq => some seq
    | _ => none

/-- The signal that an act posts. A request that was refused is dropped by the thread itself, which
posts an acknowledgement like any other drop. -/
def Act.posts? : Act → Option Signal
  | .acknowledge _ => some .acknowledgement
  | .refuse => some .acknowledgement
  | .stop => some .stop
  | _ => none

/-! ## What an act does -/

/-- What can happen to a ticker, and to what it leads: one case for each act, and three for a signal
that is heard. -/
inductive Step (t : Ticker) : Act → Ticker → Prop where
  | handOver {seq : UInt64} (pacer : t.pacer = .offering seq) (owner : t.owner = .listening) :
    Step t (.handOver seq) { t with pacer := .awaiting seq, held := t.held ++ [seq] }
  | refuse {seq : UInt64} (pacer : t.pacer = .offering seq) (owner : t.owner ≠ .listening) :
    Step t .refuse { t.post .acknowledgement with pacer := .ended }
  | acknowledge {seq : UInt64} (held : seq ∈ t.held) :
    Step t (.acknowledge seq) ({ t with held := t.held.erase seq }.post .acknowledgement)
  | hearStop {rest : List Signal} (pacer : t.hears = true) (signals : t.signals = .stop :: rest) :
    Step t .hear { t with pacer := .ended, signals := rest }
  | hearAwaiting {seq : UInt64} {rest : List Signal} (pacer : t.pacer = .awaiting seq)
      (signals : t.signals = .acknowledgement :: rest) :
    Step t .hear { t with pacer := .pausing seq, signals := rest }
  | hearPausing {seq : UInt64} {rest : List Signal} (pacer : t.pacer = .pausing seq)
      (signals : t.signals = .acknowledgement :: rest) :
    Step t .hear { t with pacer := .offering (seq + 1), signals := rest }
  | wake {seq : UInt64} (pacer : t.pacer = .pausing seq) :
    Step t .wake { t with pacer := .offering (seq + 1) }
  | close (owner : t.owner = .listening) : Step t .close { t with owner := .closing }
  | stop (owner : t.owner = .closing) : Step t .stop { t.post .stop with owner := .gone }

theorem step_of_hear (h : t.step? .hear = some t') : t.Step .hear t' := by
  simp only [step?] at h
  split at h
  · cases h
  · next s rest hsignals =>
    obtain ⟨hhears, h⟩ := Option.ite_none_right_eq_some.mp h
    cases h
    cases s with
    | stop => exact .hearStop hhears hsignals
    | acknowledgement =>
      cases hpacer : t.pacer with
      | awaiting seq =>
        rw [afterSignal, hpacer]
        exact .hearAwaiting hpacer hsignals
      | pausing seq =>
        rw [afterSignal, hpacer]
        exact .hearPausing hpacer hsignals
      | offering seq => simp [hears, hpacer] at hhears
      | ended => simp [hears, hpacer] at hhears

/-- An act that can happen is one of these steps. -/
theorem step_cases (h : t.step? a = some t') : t.Step a t' := by
  cases a with
  | handOver seq =>
    obtain ⟨⟨hpacer, howner⟩, h⟩ := Option.ite_none_right_eq_some.mp h
    cases h
    exact .handOver hpacer howner
  | refuse =>
    simp only [step?] at h
    split at h
    · next seq hpacer =>
      obtain ⟨howner, h⟩ := Option.ite_none_left_eq_some.mp h
      cases h
      exact .refuse hpacer howner
    · cases h
  | acknowledge seq =>
    obtain ⟨hheld, h⟩ := Option.ite_none_right_eq_some.mp h
    cases h
    exact .acknowledge hheld
  | hear => exact step_of_hear h
  | wake =>
    simp only [step?] at h
    split at h
    · next seq hpacer =>
      cases h
      exact .wake hpacer
    · cases h
  | close =>
    obtain ⟨howner, h⟩ := Option.ite_none_right_eq_some.mp h
    cases h
    exact .close howner
  | stop =>
    obtain ⟨howner, h⟩ := Option.ite_none_right_eq_some.mp h
    cases h
    exact .stop howner

/-! ## Runs that go on -/

theorem handedOver_append (acts more : List Act) :
    handedOver (acts ++ more) = handedOver acts ++ handedOver more :=
  List.filterMap_append

theorem acknowledged_append (acts more : List Act) :
    acknowledged (acts ++ more) = acknowledged acts ++ acknowledged more :=
  List.filterMap_append

/-- A run with one act in the middle: the ticker that the act found, and the one that it left. -/
theorem exists_of_run?_split {before after : List Act}
    (h : t.run? (before ++ a :: after) = some t') :
    ∃ t₁ t₂, t.run? before = some t₁ ∧ t₁.step? a = some t₂ ∧ t₂.run? after = some t' := by
  rw [run?_append] at h
  obtain ⟨t₁, hbefore, h⟩ := Option.bind_eq_some_iff.mp h
  obtain ⟨t₂, hstep, hafter⟩ := Option.bind_eq_some_iff.mp h
  exact ⟨t₁, t₂, hbefore, hstep, hafter⟩

/-! ## Posting -/

@[simp] theorem pacer_post (t : Ticker) (s : Signal) : (t.post s).pacer = t.pacer := by
  unfold post
  split <;> rfl

@[simp] theorem held_post (t : Ticker) (s : Signal) : (t.post s).held = t.held := by
  unfold post
  split <;> rfl

@[simp] theorem owner_post (t : Ticker) (s : Signal) : (t.post s).owner = t.owner := by
  unfold post
  split <;> rfl

/-- A signal that is posted comes once into the queue, or not at all. -/
theorem count_post_self_le (t : Ticker) (s : Signal) :
    (t.post s).signals.count s ≤ t.signals.count s + 1 := by
  unfold post
  split
  · exact Nat.le_succ _
  · simp [List.count_append]

theorem count_post_of_ne (t : Ticker) {s s' : Signal} (h : s ≠ s') :
    (t.post s).signals.count s' = t.signals.count s' := by
  unfold post
  split
  · rfl
  · simp [List.count_append, h]

/-- There are no other signals than acknowledgements and stops. -/
theorem length_eq_counts (signals : List Signal) :
    signals.length = signals.count .acknowledgement + signals.count .stop := by
  induction signals with
  | nil => rfl
  | cons s rest ih =>
    cases s <;> simp only [List.length_cons, List.count_cons, ih] <;> simp <;> omega

/-! ## What every act keeps -/

/-- A ticker as it is after a list of acts. -/
structure Orderly (acts : List Act) (t : Ticker) : Prop where
  /-- The numbers of the requests go up from one without a gap. -/
  numbered : handedOver acts = (List.range' 1 (handedOver acts).length).map UInt64.ofNat
  /-- The thread knows how many there were. -/
  counted : t.pacer.Counts (handedOver acts).length
  /-- Requests are given up in the order in which they were handed over. -/
  outstanding : handedOver acts = acknowledged acts ++ t.held
  /-- What is on its way to the thread is within its credit. -/
  credit : t.held.length + t.signals.count .acknowledgement ≤ t.pacer.credit
  /-- Only an owner that is gone has posted a stop. -/
  stops : t.signals.count .stop ≤ t.owner.stops
  /-- An owner that listens has not closed the channel. -/
  listening : t.owner = .listening → .close ∉ acts

namespace Orderly

theorem start : Orderly [] {} := by
  constructor <;> simp [handedOver, acknowledged, Pacer.Counts, Owner.stops]

theorem held_eq_nil (h : Orderly acts t) (hzero : t.pacer.credit = 0) : t.held = [] := by
  have hcredit := h.credit
  rw [hzero] at hcredit
  exact List.eq_nil_of_length_eq_zero (by omega)

/-- Whoever gives a request up held the only one, and no acknowledgement was in the queue. -/
theorem held_eq_singleton (h : Orderly acts t) {seq : UInt64} (hmem : seq ∈ t.held) :
    t.held = [seq] ∧ t.signals.count .acknowledgement = 0 := by
  have hcredit := h.credit
  have hle := t.pacer.credit_le
  have hpos := List.length_pos_of_mem hmem
  obtain ⟨k, hk⟩ := List.length_eq_one_iff.mp (show t.held.length = 1 by omega)
  rw [hk, List.mem_singleton] at hmem
  exact ⟨by rw [hk, hmem], by omega⟩

/-! One lemma for each act. -/

theorem handOver {seq : UInt64} (h : Orderly acts t) (hpacer : t.pacer = .offering seq) :
    Orderly (acts ++ [.handOver seq])
      { t with pacer := .awaiting seq, held := t.held ++ [seq] } := by
  have hcount := h.counted
  have hcredit := h.credit
  have hheld := h.held_eq_nil (by rw [hpacer]; rfl)
  rw [hpacer] at hcount hcredit
  simp only [Pacer.Counts] at hcount
  have hhanded : handedOver (acts ++ [.handOver seq]) = handedOver acts ++ [seq] :=
    handedOver_append acts _
  have hacknowledged : acknowledged (acts ++ [.handOver seq]) = acknowledged acts := by
    rw [acknowledged_append]
    exact List.append_nil _
  constructor
  · rw [hhanded, List.length_append, List.length_singleton, List.range'_1_concat, List.map_append,
      ← h.numbered, List.map_singleton, hcount, Nat.add_comm 1]
  · rw [hhanded, List.length_append, List.length_singleton]
    exact hcount
  · rw [hhanded, hacknowledged, h.outstanding, List.append_assoc]
  · simp only [hheld, Pacer.credit, List.length_nil, List.nil_append, List.length_singleton]
      at hcredit ⊢
    omega
  · exact h.stops
  · simpa using h.listening

/-- An act that hands nothing over and gives nothing up leaves the lists of numbers as they are. -/
theorem of_silent (h : Orderly acts t) (hhanded : handedOver [a] = [])
    (hacknowledged : acknowledged [a] = []) (hheld : t'.held = t.held)
    (hcounted : t'.pacer.Counts (handedOver acts).length)
    (hcredit : t.held.length + t'.signals.count .acknowledgement ≤ t'.pacer.credit)
    (hstops : t'.signals.count .stop ≤ t'.owner.stops)
    (hlistening : t'.owner = .listening → t.owner = .listening ∧ a ≠ .close) :
    Orderly (acts ++ [a]) t' := by
  have hsame : handedOver (acts ++ [a]) = handedOver acts := by
    rw [handedOver_append, hhanded, List.append_nil]
  constructor
  · rw [hsame]
    exact h.numbered
  · rw [hsame]
    exact hcounted
  · rw [hsame, acknowledged_append, hacknowledged, List.append_nil, hheld]
    exact h.outstanding
  · rw [hheld]
    exact hcredit
  · exact hstops
  · intro howner hmem
    obtain ⟨howner, hne⟩ := hlistening howner
    rcases List.mem_append.mp hmem with hmem | hmem
    · exact h.listening howner hmem
    · exact hne (List.mem_singleton.mp hmem).symm

theorem refuse {seq : UInt64} (h : Orderly acts t) (hpacer : t.pacer = .offering seq) :
    Orderly (acts ++ [.refuse]) { t.post .acknowledgement with pacer := .ended } := by
  have hcredit := h.credit
  have hpost := t.count_post_self_le .acknowledgement
  rw [hpacer, Pacer.credit] at hcredit
  refine h.of_silent rfl rfl (t.held_post _) trivial ?_ ?_ (by simp)
  · simp only [Pacer.credit]
    omega
  · rw [owner_post, count_post_of_ne t (by decide)]
    exact h.stops

theorem acknowledge {seq : UInt64} (h : Orderly acts t) (hmem : seq ∈ t.held) :
    Orderly (acts ++ [.acknowledge seq])
      ({ t with held := t.held.erase seq }.post .acknowledgement) := by
  obtain ⟨hheld, hnone⟩ := h.held_eq_singleton hmem
  have hcredit := h.credit
  have hpost := count_post_self_le { t with held := t.held.erase seq } .acknowledgement
  have hsame : handedOver (acts ++ [.acknowledge seq]) = handedOver acts := by
    rw [handedOver_append]
    exact List.append_nil _
  constructor
  · rw [hsame]
    exact h.numbered
  · rw [hsame, pacer_post]
    exact h.counted
  · rw [hsame, acknowledged_append, h.outstanding, hheld, held_post]
    simp [acknowledged]
  · rw [held_post, pacer_post]
    simp only [hheld, List.erase_cons_head, List.length_nil, List.length_singleton] at hcredit ⊢
    rw [hheld, List.erase_cons_head] at hpost
    simp only at hpost
    omega
  · rw [owner_post, count_post_of_ne _ (by decide)]
    exact h.stops
  · rw [owner_post]
    simpa using h.listening

/-- A stop that is heard ends the thread. -/
theorem hearStop {rest : List Signal} (h : Orderly acts t) (hsignals : t.signals = .stop :: rest) :
    Orderly (acts ++ [.hear]) { t with pacer := .ended, signals := rest } := by
  have hcredit := h.credit
  have hle := t.pacer.credit_le
  have hstops := h.stops
  rw [hsignals, List.count_cons] at hcredit hstops
  refine h.of_silent rfl rfl rfl trivial ?_ (by simp only; omega) (by simp)
  simp only [Pacer.credit]
  omega

/-- The acknowledgement that a thread hears is all that was on its way. -/
theorem hearAcknowledgement {rest : List Signal} {p : Pacer} (h : Orderly acts t)
    (hsignals : t.signals = .acknowledgement :: rest) (hp : p.Counts (handedOver acts).length) :
    Orderly (acts ++ [.hear]) { t with pacer := p, signals := rest } := by
  have hcredit := h.credit
  have hle := t.pacer.credit_le
  have hstops := h.stops
  rw [hsignals, List.count_cons] at hcredit hstops
  rw [if_pos (by rfl)] at hcredit
  refine h.of_silent rfl rfl rfl hp ?_ (by simp only; omega) (by simp)
  simp only
  omega

theorem wake {seq : UInt64} (h : Orderly acts t) (hpacer : t.pacer = .pausing seq) :
    Orderly (acts ++ [.wake]) { t with pacer := .offering (seq + 1) } := by
  have hcounted := h.counted
  have hcredit := h.credit
  rw [hpacer] at hcounted hcredit
  have hnext : seq + 1 = UInt64.ofNat ((handedOver acts).length + 1) := by
    rw [UInt64.ofNat_add, ← hcounted]
    rfl
  exact h.of_silent rfl rfl rfl hnext hcredit h.stops (by simp)

theorem close (h : Orderly acts t) (howner : t.owner = .listening) :
    Orderly (acts ++ [.close]) { t with owner := .closing } := by
  have hstops := h.stops
  rw [howner] at hstops
  exact h.of_silent rfl rfl rfl h.counted h.credit hstops nofun

theorem stop (h : Orderly acts t) (howner : t.owner = .closing) :
    Orderly (acts ++ [.stop]) { t.post .stop with owner := .gone } := by
  have hstops := h.stops
  have hpost := t.count_post_self_le .stop
  rw [howner, Owner.stops] at hstops
  refine h.of_silent rfl rfl (t.held_post _) ?_ ?_ ?_ nofun
  · rw [pacer_post]
    exact h.counted
  · rw [pacer_post, count_post_of_ne t (by decide)]
    exact h.credit
  · simp only [Owner.stops]
    omega

/-- **Every act keeps it.** -/
theorem step (h : Orderly acts t) (hstep : t.Step a t') : Orderly (acts ++ [a]) t' := by
  cases hstep with
  | handOver pacer owner => exact h.handOver pacer
  | refuse pacer owner => exact h.refuse pacer
  | acknowledge held => exact h.acknowledge held
  | hearStop pacer signals => exact h.hearStop signals
  | hearAwaiting pacer signals =>
    have hcounted := h.counted
    rw [pacer] at hcounted
    exact h.hearAcknowledgement signals hcounted
  | hearPausing pacer signals =>
    -- no acknowledgement is on its way while the thread pauses
    have hcredit := h.credit
    rw [pacer, signals] at hcredit
    simp [Pacer.credit] at hcredit
  | wake pacer => exact h.wake pacer
  | close owner => exact h.close owner
  | stop owner => exact h.stop owner

/-- **Every run leads to it.** -/
theorem of_run (hrun : ({} : Ticker).run? acts = some t) : Orderly acts t := by
  induction acts using List.reverseRecOn generalizing t with
  | nil =>
    cases hrun
    exact start
  | append_singleton acts a ih =>
    obtain ⟨t₁, t₂, hbefore, hstep, hafter⟩ := exists_of_run?_split hrun
    cases hafter
    exact (ih hbefore).step (step_cases hstep)

/-- Whenever a signal is posted there is room for it. -/
theorem room_to_post (h : Orderly acts t) {s : Signal} (hposts : a.posts? = some s)
    (hstep : t.Step a t') : t.signals.length < capacity := by
  have hcredit := h.credit
  have hone := t.pacer.credit_le
  have hstops := h.stops
  have hle := t.owner.stops_le
  rw [length_eq_counts, capacity]
  cases hstep with
  | refuse pacer owner =>
    rw [pacer, Pacer.credit] at hcredit
    omega
  | acknowledge held =>
    have hnone := (h.held_eq_singleton held).2
    omega
  | stop owner =>
    rw [owner, Owner.stops] at hstops
    omega
  | _ => cases hposts

/-- A request is handed over when all that were handed over before it have been given up. -/
theorem acknowledged_of_handOver (h : Orderly acts t) {seq : UInt64}
    (hstep : t.Step (.handOver seq) t') :
    seq = UInt64.ofNat ((handedOver acts).length + 1) ∧ acknowledged acts = handedOver acts := by
  cases hstep with
  | handOver pacer owner =>
    have hcounted := h.counted
    rw [pacer] at hcounted
    refine ⟨hcounted, ?_⟩
    rw [h.outstanding, h.held_eq_nil (by rw [pacer]; rfl), List.append_nil]

end Orderly

/-! ## The order of the ticks -/

/-- Below the bound of a word, the words of numbers are the numbers. -/
theorem map_toNat_range' {n : Nat} (h : n < 2 ^ 64) :
    ((List.range' 1 n).map UInt64.ofNat).map UInt64.toNat = List.range' 1 n := by
  rw [List.map_map]
  refine (List.map_congr_left fun i hi => ?_).trans (List.map_id _)
  rw [List.mem_range'_1] at hi
  exact UInt64.toNat_ofNat_of_lt' (by rw [UInt64.size]; omega)

/-- **One tick at a time.** Take any acts that can happen one after the other to a new ticker, among
them fewer than `2 ^ 64` hand-overs, as many as a word can number, and the ticker that they lead to.
The requests that were handed over have the numbers from one, in their order and without a gap. No
two of them are without an acknowledgement. A request other than the first is handed over only after
the one before it, and after that one was completed or dropped. At most one acknowledgement and at
most one stop are in the queue, so that a signal that is posted never finds it full. There is no
acknowledgement in the queue during a pause. And nothing is handed over any more once the owner has
closed the channel, whatever happens then. -/
theorem one_tick_at_a_time (hrun : ({} : Ticker).run? acts = some t)
    (hfew : (handedOver acts).length < 2 ^ 64) :
    (handedOver acts).map UInt64.toNat = List.range' 1 (handedOver acts).length ∧
    (∀ j ∈ handedOver acts, ∀ k ∈ handedOver acts,
      j ∉ acknowledged acts → k ∉ acknowledged acts → j = k) ∧
    (∀ before k after, acts = before ++ .handOver (k + 1) :: after → 1 ≤ k →
      k ∈ handedOver before ∧ k ∈ acknowledged before) ∧
    (t.signals.count .acknowledgement ≤ 1 ∧ t.signals.count .stop ≤ 1 ∧
      ∀ a s, a.posts? = some s → (t.step? a).isSome → t.signals.length < capacity) ∧
    (∀ seq, t.pacer = .pausing seq → .acknowledgement ∉ t.signals) ∧
    ∀ before after, acts = before ++ .close :: after → handedOver after = [] := by
  have h := Orderly.of_run hrun
  have hcredit := h.credit
  have hone := t.pacer.credit_le
  refine ⟨?_, ?_, ?_, ⟨by omega, Nat.le_trans h.stops t.owner.stops_le, ?_⟩, ?_, ?_⟩
  · rw [← map_toNat_range' hfew, ← h.numbered]
  · intro j hj k hk hjack hkack
    -- what is not acknowledged is held, and at most one request is
    have hheld : ∀ i ∈ handedOver acts, i ∉ acknowledged acts → i ∈ t.held := fun i hi hiack => by
      rw [h.outstanding] at hi
      exact (List.mem_append.mp hi).resolve_left hiack
    rw [(h.held_eq_singleton (hheld k hk hkack)).1] at hheld
    exact List.mem_singleton.mp (hheld j hj hjack)
  · rintro before k after rfl hk
    obtain ⟨t₁, t₂, hbefore, hstep, -⟩ := exists_of_run?_split hrun
    have h₁ := Orderly.of_run hbefore
    obtain ⟨hcount, hall⟩ := h₁.acknowledged_of_handOver (step_cases hstep)
    have hk' : k = UInt64.ofNat (handedOver before).length := by
      rw [UInt64.ofNat_add] at hcount
      exact (UInt64.add_left_inj 1).mp hcount
    have hpos : (handedOver before).length ≠ 0 := fun hzero => by
      rw [hk', hzero] at hk
      exact absurd hk (by decide)
    have hmem : k ∈ handedOver before := by
      rw [h₁.numbered]
      refine List.mem_map.mpr ⟨_, List.mem_range'_1.mpr ?_, hk'.symm⟩
      omega
    exact ⟨hmem, hall ▸ hmem⟩
  · intro a s hposts hsome
    obtain ⟨t', hstep⟩ := Option.isSome_iff_exists.mp hsome
    exact h.room_to_post hposts (step_cases hstep)
  · intro seq hpacer hmem
    rw [hpacer, Pacer.credit] at hcredit
    have hpos := List.count_pos_iff.mpr hmem
    omega
  · rintro before after rfl
    refine List.eq_nil_iff_forall_not_mem.mpr fun seq hmem => ?_
    -- a request that is handed over later finds an owner that listens
    obtain ⟨act, hact, hseq⟩ := List.mem_filterMap.mp hmem
    obtain ⟨middle, rest, rfl⟩ := List.append_of_mem hact
    split at hseq
    · cases hseq
      rw [← List.cons_append, ← List.append_assoc] at hrun
      obtain ⟨t₁, t₂, hbefore, hstep, -⟩ := exists_of_run?_split hrun
      cases step_cases hstep with
      | handOver pacer owner => exact (Orderly.of_run hbefore).listening owner (by simp)
    · cases hseq

/-- The ticker is given up while its second request is out: the stop comes into the queue before the
acknowledgement, and the third request is never handed over. -/
theorem given_up_while_held :
    let acts : List Act := [.handOver 1, .acknowledge 1, .hear, .wake, .handOver 2, .close, .stop,
      .acknowledge 2, .hear]
    ∃ t, ({} : Ticker).run? acts = some t ∧ t.pacer = .ended ∧ t.signals = [.acknowledgement] ∧
      handedOver acts = [1, 2] ∧ ∀ before after, acts = before ++ .close :: after →
        handedOver after = [] := by
  intro acts
  have hrun : ({} : Ticker).run? acts = some ⟨.ended, [.acknowledgement], [], .gone⟩ := by decide
  exact ⟨_, hrun, rfl, rfl, rfl, (one_tick_at_a_time hrun (by decide)).2.2.2.2.2⟩

end Ticker

end SpriteStage
