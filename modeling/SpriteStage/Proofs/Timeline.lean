/-
Tickers on a clock are tickers.

An owner with a clock receives requests, serves them, gives them up and drops the ticker. Each of these
operations is a run of acts, which hands over exactly the request that the operation answers with
(`Timeline.leads_perform`), and so is any list of them (`Timeline.leads_performAll`). Whatever holds
of every run of acts therefore holds on a clock as well. In particular the requests that come to the
owner have the numbers from one (`Timeline.received_numbered`).
-/
import SpriteStage.Proofs.Pacing
import SpriteStage.Ticker.Timeline

set_option autoImplicit false

namespace SpriteStage.Ticker

/-- Some acts lead from one ticker to another and hand requests over. -/
def Leads (t : Ticker) (seqs : List UInt64) (t' : Ticker) : Prop :=
  ∃ acts, t.run? acts = some t' ∧ handedOver acts = seqs

namespace Leads

variable {t t₁ t₂ : Ticker} {seqs more : List UInt64} {a : Act}

theorem refl (t : Ticker) : t.Leads [] t := ⟨[], rfl, rfl⟩

theorem trans (h : t.Leads seqs t₁) (h' : t₁.Leads more t₂) : t.Leads (seqs ++ more) t₂ := by
  obtain ⟨acts, hrun, hhanded⟩ := h
  obtain ⟨acts', hrun', hhanded'⟩ := h'
  refine ⟨acts ++ acts', ?_, ?_⟩
  · rw [run?_append, hrun, Option.bind_some, hrun']
  · rw [handedOver_append, hhanded, hhanded']

theorem of_step (h : t.step? a = some t₁) : t.Leads (handedOver [a]) t₁ :=
  ⟨[a], by rw [run?, h, Option.bind_some, run?_nil], rfl⟩

end Leads

namespace Timeline

variable {t : Timeline} {a : Act} {seq : UInt64}

/-- What an owner with a clock can do. -/
inductive Operation where
  /-- To wait for a request, for so long at most. -/
  | receive (timeout : Duration)
  /-- To complete or drop a request. -/
  | acknowledge (seq : UInt64)
  /-- To wait for a request and acknowledge it. -/
  | serve
  /-- To give the ticker up. -/
  | drop

/-- Carries out an operation. The answer is the request that it brings. -/
def perform (t : Timeline) : Operation → Option UInt64 × Timeline
  | .receive timeout => t.receive timeout
  | .acknowledge seq => (none, t.acknowledge seq)
  | .serve => t.serve
  | .drop => (none, t.drop)

/-- Carries out operations one after the other. The answers are the requests that they bring. -/
def performAll (t : Timeline) : List Operation → List UInt64 × Timeline
  | [] => ([], t)
  | op :: rest =>
    let (request, t) := t.perform op
    let (requests, t) := t.performAll rest
    (request.toList ++ requests, t)

/-! ## Acts on a clock -/

/-- An act that can happen on a clock is one on the ticker. -/
theorem ticker_act {t' : Ticker} (h : t.ticker.step? a = some t') : (t.act a).ticker = t' := by
  rw [act, h, Option.getD_some]

/-- An act that hands nothing over may be possible or not. -/
theorem leads_act (t : Timeline) (ha : handedOver [a] = []) :
    t.ticker.Leads [] (t.act a).ticker := by
  cases h : t.ticker.step? a with
  | none =>
    rw [act, h, Option.getD_none]
    exact Leads.refl _
  | some t' =>
    rw [ticker_act h, ← ha]
    exact Leads.of_step h

/-- A request that is offered to an owner who listens is handed over. -/
theorem leads_handOver (howner : t.ticker.owner = .listening)
    (hpacer : t.ticker.pacer = .offering seq) :
    t.ticker.Leads [seq] (t.act (.handOver seq)).ticker := by
  have hstep : t.ticker.step? (.handOver seq) =
      some { t.ticker with pacer := .awaiting seq, held := t.ticker.held ++ [seq] } :=
    if_pos ⟨hpacer, howner⟩
  rw [ticker_act hstep]
  exact Leads.of_step hstep

/-! ## Operations -/

theorem leads_receive (t : Timeline) (timeout : Duration) :
    t.ticker.Leads (t.receive timeout).1.toList (t.receive timeout).2.ticker := by
  unfold receive
  split
  · next seq howner hpacer => exact leads_handOver howner hpacer
  · next seq howner hpacer =>
    split
    · -- the pause ends first, and what it leads to is offered
      have hwake : t.ticker.step? .wake = some { t.ticker with pacer := .offering (seq + 1) } := by
        rw [step?, hpacer]
      have hawake : ({ t with now := t.due, offered := t.due }.act .wake).ticker = _ :=
        ticker_act hwake
      refine (Leads.of_step hwake).trans ?_
      rw [← hawake]
      exact leads_handOver (by rw [hawake]; exact howner) (by rw [hawake])
    · exact Leads.refl _
  · exact Leads.refl _
  · exact Leads.refl _

theorem leads_acknowledge (t : Timeline) (seq : UInt64) :
    t.ticker.Leads [] (t.acknowledge seq).ticker :=
  (leads_act t rfl).trans (leads_act _ rfl)

theorem leads_serve (t : Timeline) : t.ticker.Leads t.serve.1.toList t.serve.2.ticker := by
  have hreceive := leads_receive t t.due
  unfold serve
  split
  · next seq t' heq =>
    rw [heq] at hreceive
    exact hreceive.trans (leads_acknowledge t' seq)
  · next t' heq =>
    rw [heq] at hreceive
    exact hreceive

theorem leads_drop (t : Timeline) : t.ticker.Leads [] t.drop.ticker :=
  (((leads_act t rfl).trans (leads_act _ rfl)).trans (leads_act _ rfl)).trans (leads_act _ rfl)

/-- **An operation is a run of acts**, which hands over what the operation answers with. -/
theorem leads_perform (t : Timeline) (op : Operation) :
    t.ticker.Leads (t.perform op).1.toList (t.perform op).2.ticker := by
  cases op with
  | receive timeout => exact leads_receive t timeout
  | acknowledge seq => exact leads_acknowledge t seq
  | serve => exact leads_serve t
  | drop => exact leads_drop t

/-- **So are operations one after the other.** -/
theorem leads_performAll (t : Timeline) (ops : List Operation) :
    t.ticker.Leads (t.performAll ops).1 (t.performAll ops).2.ticker := by
  induction ops generalizing t with
  | nil => exact Leads.refl _
  | cons op rest ih => exact (leads_perform t op).trans (ih _)

/-- The requests that come to the owner of a new ticker have the numbers from one, whatever operations
bring them, as long as a word can number them. -/
theorem received_numbered (cadence : Cadence) (ops : List Operation) :
    let received := (performAll ⟨cadence, {}, .zero, .zero⟩ ops).1
    received.length < 2 ^ 64 → received.map UInt64.toNat = List.range' 1 received.length := by
  intro received hfew
  obtain ⟨acts, hrun, hhanded⟩ := leads_performAll ⟨cadence, {}, .zero, .zero⟩ ops
  have hnumbered := (Orderly.of_run hrun).numbered
  rw [hhanded] at hnumbered
  rw [← map_toNat_range' hfew]
  exact congrArg (List.map UInt64.toNat) hnumbered

end Timeline

end SpriteStage.Ticker
