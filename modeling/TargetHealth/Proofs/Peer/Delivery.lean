import TargetHealth.Peer.Conversation
import TargetHealth.Proofs.Time.Instant

namespace TargetHealth

namespace PeerStep

def deliver : List PeerStep → Bool
  | [] => true
  | .send _ :: rest => deliver rest
  | .sleep _ :: rest => deliver rest
  | .endSending :: rest => rest.isEmpty
  | .hangUp :: rest => rest.isEmpty
  | .receiveHead :: _ => false
  | .receiveFrame :: _ => false

def message : List PeerStep → Bytes
  | [] => []
  | .send bytes :: rest => bytes ++ message rest
  | _ :: rest => message rest

def endsConnection : List PeerStep → Bool
  | [] => false
  | .endSending :: _ => true
  | .hangUp :: _ => true
  | _ :: rest => endsConnection rest

def pause : List PeerStep → Nat
  | [] => 0
  | .sleep d :: rest => d.nanos + pause rest
  | _ :: rest => pause rest

end PeerStep

namespace Peer

open PeerStep

variable {now : Instant} {p q : Peer} {steps : List PeerStep}

theorem act_asleep (h : now < p.wakeAt) (step : PeerStep) :
    p.act now false (step :: steps) = { p with script := step :: steps } := by
  simp [act, h]

/-- What a peer does depends on the steps that it is given, and not on the script that it had. -/
theorem act_script (now : Instant) (p : Peer) (script steps : List PeerStep) :
    { p with script }.act now false steps = p.act now false steps := by
  induction steps generalizing p with
  | nil => rfl
  | cons step rest ih =>
    by_cases hsleeps : now < p.wakeAt
    · simp [act, hsleeps]
    cases step with
    | receiveHead =>
      simp only [act, hsleeps, decide_false, Bool.and_false, Bool.false_eq_true, if_false]
      split
      next head inbox _ => exact ih { p with head, inbox }
      next => rfl
    | receiveFrame =>
      simp only [act, hsleeps, decide_false, Bool.and_false, Bool.false_eq_true, if_false]
      split
      next frame inbox _ => exact ih { p with frames := p.frames ++ [frame], inbox }
      next => rfl
      next => rfl
    | send bytes =>
      simp only [act, hsleeps, decide_false, Bool.and_false, Bool.false_eq_true, if_false, Bool.or_false]
      split
      next => exact ih p
      next =>
        split
        next => rfl
        next => exact ih { p with outbox := p.outbox ++ bytes }
    | sleep d =>
      simp only [act, hsleeps, decide_false, Bool.and_false, Bool.false_eq_true, if_false]
      exact ih { p with wakeAt := now.after d }
    | endSending =>
      simp only [act, hsleeps, decide_false, Bool.and_false, Bool.false_eq_true, if_false]
      exact ih { p with ended := true }
    | hangUp => simp [act, hsleeps, stop]

theorem act_receiveHead (h : p.wakeAt ≤ now) {head inbox : Bytes} (hcut : cutHead? [] p.inbox = some (head, inbox)) :
    p.act now false (.receiveHead :: steps) = { p with head, inbox }.act now false steps := by
  simp [act, Instant.not_lt_iff.mpr h, hcut]

theorem act_receiveHead_waits (h : cutHead? [] p.inbox = none) :
    p.act now false (.receiveHead :: steps) = { p with script := .receiveHead :: steps } := by
  simp [act, h]

theorem act_send (h : p.wakeAt ≤ now) (hopen : p.ended = false) (bytes : Bytes) :
    p.act now false (.send bytes :: steps) = { p with outbox := p.outbox ++ bytes }.act now false steps := by
  cases bytes with
  | nil => simp [act, Instant.not_lt_iff.mpr h]
  | cons b bytes => simp [act, hopen, Instant.not_lt_iff.mpr h]

theorem act_sleep (h : p.wakeAt ≤ now) (d : Duration) :
    p.act now false (.sleep d :: steps) = { p with wakeAt := now.after d }.act now false steps := by
  simp [act, Instant.not_lt_iff.mpr h]

/-- What a peer that delivers has done at an instant: a part of its steps, up to a pause or to its end. -/
structure Delivered (now : Instant) (p : Peer) (steps : List PeerStep) (q : Peer) : Prop where
  delivers : deliver q.script
  sent : ∃ bytes, q.outbox = p.outbox ++ bytes ∧ bytes ++ message q.script = message steps
  ends : (q.ended || endsConnection q.script) = endsConnection steps
  silent : q.ended → q.script = []
  asleep : q.script ≠ [] → now < q.wakeAt
  inTime : max now.nanos q.wakeAt.nanos + pause q.script ≤ max now.nanos p.wakeAt.nanos + pause steps
  atMost : q.script.length ≤ steps.length
  shorter : p.wakeAt ≤ now → q.script.length ≤ steps.length - 1
  unmoved : now < p.wakeAt → q.outbox = p.outbox ∧ q.ended = false ∧ q.script = steps ∧ q.wakeAt = p.wakeAt

theorem Delivered.rest_of_asleep (hsteps : deliver steps) (hopen : p.ended = false) (h : now < p.wakeAt) :
    p.Delivered now steps { p with script := steps } where
  delivers := hsteps
  sent := ⟨[], (List.append_nil _).symm, rfl⟩
  ends := by rw [hopen, Bool.false_or]
  silent := fun hended => by rw [hopen] at hended; cases hended
  asleep := fun _ => h
  inTime := Nat.le_refl _
  atMost := Nat.le_refl _
  shorter := fun hwakes => absurd h (Instant.not_lt_iff.mpr hwakes)
  unmoved := fun _ => ⟨rfl, hopen, rfl, rfl⟩

theorem Delivered.last {step : PeerStep} {ending : Peer} (hwake : p.wakeAt ≤ now) (hends : endsConnection [step])
    (hmessage : message [step] = []) (hpause : pause [step] = 0) (hscript : ending.script = []) (hended : ending.ended)
    (hout : ending.outbox = p.outbox) (hwakes : ending.wakeAt = p.wakeAt) : p.Delivered now [step] ending where
  delivers := by rw [hscript]; rfl
  sent := ⟨[], by rw [hout, List.append_nil], by rw [hscript, hmessage]; rfl⟩
  ends := by rw [hended, hends, Bool.true_or]
  silent := fun _ => hscript
  asleep := fun h => absurd hscript h
  inTime := by rw [hwakes, hscript, hpause]; exact Nat.le_refl _
  atMost := by rw [hscript]; exact Nat.zero_le _
  shorter := fun _ => by rw [hscript]; exact Nat.zero_le _
  unmoved := fun h => absurd hwake (Nat.not_le_of_lt h)

theorem delivered_act (hsteps : deliver steps) (hopen : p.ended = false) :
    p.Delivered now steps (p.act now false steps) := by
  induction steps generalizing p with
  | nil =>
    exact ⟨rfl, ⟨[], (List.append_nil _).symm, rfl⟩, by simp [act, hopen, endsConnection], fun _ => rfl, nofun,
      Nat.le_refl _, Nat.le_refl _, fun _ => Nat.le_refl _, fun _ => ⟨rfl, hopen, rfl, rfl⟩⟩
  | cons step rest ih =>
    by_cases hsleeps : now < p.wakeAt
    · rw [act_asleep hsleeps]
      exact .rest_of_asleep hsteps hopen hsleeps
    have hwake : p.wakeAt ≤ now := Instant.not_lt_iff.mp hsleeps
    cases step with
    | receiveHead => cases hsteps
    | receiveFrame => cases hsteps
    | send bytes =>
      rw [act_send hwake hopen]
      have hrest := @ih { p with outbox := p.outbox ++ bytes } hsteps hopen
      obtain ⟨more, hout, hmore⟩ := hrest.sent
      exact { hrest with
        sent := ⟨bytes ++ more, by rw [hout, List.append_assoc], by rw [List.append_assoc, hmore, message]⟩
        atMost := Nat.le_succ_of_le hrest.atMost
        shorter := fun _ => hrest.atMost
        unmoved := fun h => absurd h hsleeps }
    | sleep d =>
      rw [act_sleep hwake]
      have hrest := @ih { p with wakeAt := now.after d } hsteps hopen
      have hpause : max now.nanos (now.after d).nanos + pause rest =
          max now.nanos p.wakeAt.nanos + pause (.sleep d :: rest) := by
        have hle : p.wakeAt.nanos ≤ now.nanos := hwake
        simp only [Instant.after, pause]
        omega
      exact { hrest with
        inTime := Nat.le_trans hrest.inTime (Nat.le_of_eq hpause)
        atMost := Nat.le_succ_of_le hrest.atMost
        shorter := fun _ => hrest.atMost
        unmoved := fun h => absurd h hsleeps }
    | endSending =>
      obtain rfl := List.isEmpty_iff.mp hsteps
      refine .last hwake rfl rfl rfl ?_ ?_ ?_ ?_ <;> simp [act, Instant.not_lt_iff.mpr hwake]
    | hangUp =>
      obtain rfl := List.isEmpty_iff.mp hsteps
      refine .last hwake rfl rfl rfl ?_ ?_ ?_ ?_ <;> simp [act, stop, Instant.not_lt_iff.mpr hwake]

@[simp] theorem receive_script (p : Peer) (bytes : Bytes) : (p.receive bytes).script = p.script := by
  unfold receive
  split <;> rfl

@[simp] theorem receive_wakeAt (p : Peer) (bytes : Bytes) : (p.receive bytes).wakeAt = p.wakeAt := by
  unfold receive
  split <;> rfl

@[simp] theorem receive_outbox (p : Peer) (bytes : Bytes) : (p.receive bytes).outbox = p.outbox := by
  unfold receive
  split <;> rfl

@[simp] theorem receive_ended (p : Peer) (bytes : Bytes) : (p.receive bytes).ended = p.ended := by
  unfold receive
  split <;> rfl

end Peer

namespace ProbeContext

variable {c : ProbeContext} {now e : Instant}

/-- Whether neither limit of a probe has come at an instant. -/
structure Reaches (c : ProbeContext) (e : Instant) : Prop where
  beforeDeadline : e < c.deadline
  uncancelled : ∀ t, c.cancelledAt = some t → e < t

theorem Reaches.of_le (h : c.Reaches e) (hle : now ≤ e) : c.Reaches now where
  beforeDeadline := Nat.lt_of_le_of_lt hle h.beforeDeadline
  uncancelled t ht := Nat.lt_of_le_of_lt hle (h.uncancelled t ht)

theorem Reaches.isCancelled_eq_false (h : c.Reaches now) : c.isCancelled now = false := by
  rw [isCancelled, Option.any_eq_false]
  intro t ht
  rw [decide_eq_false_iff_not, Instant.not_le_iff]
  exact h.uncancelled t ht

theorem Reaches.wasCancelled_eq_false (h : c.Reaches now) : c.wasCancelled now = false := by
  rw [wasCancelled, Option.any_eq_false]
  intro t ht
  rw [decide_eq_false_iff_not, Instant.not_lt_iff]
  exact Nat.le_of_lt (h.uncancelled t ht)

theorem Reaches.nextEvent_eq (h : c.Reaches e) {p : Peer} (hwakes : p.wake? now = some p.wakeAt) (hle : p.wakeAt ≤ e) :
    c.nextEvent p now = p.wakeAt := by
  have hdeadline : p.wakeAt ≤ c.deadline := Nat.le_trans hle (Nat.le_of_lt h.beforeDeadline)
  cases hcancelled : c.cancelledAt with
  | none => simp only [nextEvent, hwakes, hcancelled, Instant.min_eq_left hdeadline]
  | some t =>
    have ht : p.wakeAt ≤ t := Nat.le_trans hle (Nat.le_of_lt (h.uncancelled t hcancelled))
    simp only [nextEvent, hwakes, hcancelled, Instant.min_eq_left (Std.le_min_iff.mpr ⟨ht, hdeadline⟩)]

end ProbeContext

def Reaction.andThen {σ : Type} (reaction : Reaction σ) (next : σ → Reaction σ) : Reaction σ :=
  match reaction with
  | .await _ state => next state
  | .leave sent verdict => .leave sent verdict

namespace Client

variable {σ : Type} {client : Client σ} {context : ProbeContext}

theorem converse_verdict_congr {now : Instant} {p q : Peer} (h : p.run now = q.run now) (fuel : Nat) (state : σ) :
    (client.converse context (fuel + 1) now p state).verdict = (client.converse context (fuel + 1) now q state).verdict := by
  rw [converse, converse, h]
  split
  next => rfl
  next => split <;> rfl

/-- A conversation ends with a verdict of the client, or at one of its limits. -/
theorem forall_converse_verdict {P : Verdict → Prop}
    (hreact : ∀ {state bytes ended sent verdict}, client.react state bytes ended = .leave sent verdict → P verdict)
    (htimeout : ∀ phase, P (.error (.timeout phase))) (hcancelled : P (.error .cancelled)) (fuel : Nat) (now : Instant)
    (p : Peer) (state : σ) : P (client.converse context fuel now p state).verdict := by
  induction fuel generalizing now p state with
  | zero => exact htimeout _
  | succ fuel ih =>
    rw [converse]
    split
    next => exact htimeout _
    next =>
      split
      next => exact hcancelled
      next =>
        dsimp only
        split
        next =>
          cases hreacts : client.react state (p.run now).outbox (p.run now).ended with
          | await sent next => exact ih _ _ _
          | leave sent verdict => exact hreact hreacts
        next => exact ih _ _ _

/-- Whether a client goes on alike wherever a message is cut. The relation says what a state has to see at once. -/
structure Seamless (client : Client σ) (reads : σ → Bytes → Prop) : Prop where
  cut : ∀ {state lead as}, reads state lead → lead <+: as → ∀ bs ended,
    client.react state (as ++ bs) ended =
      (client.react state as false).andThen fun state => client.react state bs ended
  stays : ∀ {state lead as sent next}, reads state lead → lead <+: as →
    client.react state as false = .await sent next → reads next []

variable {reads : σ → Bytes → Prop} {e now : Instant} {p q : Peer} {state next : σ} {verdict : Verdict}

open PeerStep

/-- A client that waits for the rest of a message, while nothing has come of it that is not taken. The rest brings the
verdict if it comes at once, and comes by an instant. -/
structure Awaiting (client : Client σ) (reads : σ → Bytes → Prop) (e : Instant) (verdict : Verdict) (now : Instant)
    (p : Peer) (state : σ) : Prop where
  delivers : deliver p.script
  opened : p.ended = false
  seen : ∃ lead, reads state lead ∧ lead <+: p.outbox
  waits : p.outbox = [] → ∀ sent verdict, client.react state [] false ≠ .leave sent verdict
  asleep : now < p.wakeAt → p.outbox = []
  whole : ∃ sent, client.react state (p.outbox ++ message p.script) (endsConnection p.script) = .leave sent verdict
  inTime : max now.nanos p.wakeAt.nanos + pause p.script ≤ e.nanos

def turns (now : Instant) (p : Peer) : Nat := 2 * p.script.length + (if now < p.wakeAt then 2 else 1)

theorem turns_asleep (h : now < p.wakeAt) : turns now p = 2 * p.script.length + 2 := by rw [turns, if_pos h]

theorem turns_awake (h : p.wakeAt ≤ now) : turns now p = 2 * p.script.length + 1 := by
  rw [turns, if_neg (Instant.not_lt_iff.mpr h)]

namespace Awaiting

theorem now_le (h : client.Awaiting reads e verdict now p state) : now ≤ e := by
  have := h.inTime
  show now.nanos ≤ e.nanos
  omega

theorem whole_of_delivered (h : client.Awaiting reads e verdict now p state) (hq : p.Delivered now p.script q) :
    ∃ sent, client.react state (q.outbox ++ message q.script) (q.ended || endsConnection q.script) =
      .leave sent verdict := by
  obtain ⟨bytes, hout, hrest⟩ := hq.sent
  rw [hq.ends, hout, List.append_assoc, hrest]
  exact h.whole

theorem seen_of_delivered (h : client.Awaiting reads e verdict now p state) (hq : p.Delivered now p.script q) :
    ∃ lead, reads state lead ∧ lead <+: q.outbox := by
  obtain ⟨lead, hreads, hlead⟩ := h.seen
  obtain ⟨bytes, hout, -⟩ := hq.sent
  exact ⟨lead, hreads, hout ▸ hlead.trans (List.prefix_append ..)⟩

theorem leaves (h : client.Awaiting reads e verdict now p state) (hq : p.Delivered now p.script q) (hended : q.ended) :
    ∃ sent, client.react state q.outbox q.ended = .leave sent verdict := by
  obtain ⟨sent, hwhole⟩ := h.whole_of_delivered hq
  rw [hq.silent hended, message, List.append_nil, hended, Bool.true_or] at hwhole
  exact ⟨sent, hended ▸ hwhole⟩

theorem pause (h : client.Awaiting reads e verdict now p state) (hq : p.Delivered now p.script q)
    (hopen : q.ended = false) (hquiet : q.outbox = []) :
    (q.script ≠ [] ∧ now < q.wakeAt) ∧ client.Awaiting reads e verdict q.wakeAt q state ∧
      turns q.wakeAt q < turns now p := by
  obtain ⟨sent, hwhole⟩ := h.whole_of_delivered hq
  rw [hopen, Bool.false_or] at hwhole
  have hnone : p.outbox = [] := by
    obtain ⟨bytes, hout, -⟩ := hq.sent
    rw [hquiet] at hout
    exact (List.append_eq_nil_iff.mp hout.symm).1
  have hmore : q.script ≠ [] := fun hnil => by
    rw [hquiet, hnil] at hwhole
    exact h.waits hnone _ _ hwhole
  have hsleeps : now.nanos < q.wakeAt.nanos := hq.asleep hmore
  have htime := Nat.le_trans hq.inTime h.inTime
  refine ⟨⟨hmore, hsleeps⟩, ⟨hq.delivers, hopen, h.seen_of_delivered hq, fun _ => h.waits hnone, fun _ => hquiet,
    ⟨sent, hwhole⟩, ?_⟩, ?_⟩
  · rw [Nat.max_self]
    omega
  · have hatMost := hq.atMost
    have hpositive := List.length_pos_iff.mpr hmore
    rw [turns_awake (Nat.le_refl _)]
    by_cases hwake : p.wakeAt ≤ now
    · have := hq.shorter hwake
      rw [turns_awake hwake]
      omega
    · rw [turns_asleep (Instant.not_le_iff.mp hwake)]
      omega

theorem part (h : client.Awaiting reads e verdict now p state) (hseamless : client.Seamless reads)
    (hq : p.Delivered now p.script q) (hopen : q.ended = false) (hspeaks : q.outbox ≠ []) {sent : Bytes}
    (hreact : client.react state q.outbox false = .await sent next) :
    client.Awaiting reads e verdict now ({ q with outbox := [] }.receive sent) next ∧
      turns now ({ q with outbox := [] }.receive sent) < turns now p := by
  obtain ⟨lead, hreads, hlead⟩ := h.seen_of_delivered hq
  have hcut := hseamless.cut hreads hlead
  simp only [hreact, Reaction.andThen] at hcut
  have hwaits (sent : Bytes) (verdict : Verdict) : client.react next [] false ≠ .leave sent verdict := fun hleave => by
    have hnothing := hcut [] false
    rw [List.append_nil, hreact, hleave] at hnothing
    cases hnothing
  obtain ⟨sent', hwhole⟩ := h.whole_of_delivered hq
  rw [hopen, Bool.false_or, hcut] at hwhole
  have hmore : q.script ≠ [] := fun hnil => by
    rw [hnil] at hwhole
    exact hwaits _ _ hwhole
  have hwake : p.wakeAt ≤ now := Instant.not_lt_iff.mp fun hsleeps =>
    hspeaks ((hq.unmoved hsleeps).1.trans (h.asleep hsleeps))
  refine ⟨⟨?_, ?_, ⟨[], hseamless.stays hreads hlead hreact, List.nil_prefix⟩, fun _ => hwaits, ?_, ⟨sent', ?_⟩, ?_⟩, ?_⟩
  · simpa using hq.delivers
  · simpa using hopen
  · simp
  · simpa using hwhole
  · simpa using Nat.le_trans hq.inTime h.inTime
  · have hshorter := hq.shorter hwake
    have hpositive := List.length_pos_iff.mpr hmore
    rw [turns_awake hwake, turns_asleep (by simpa using hq.asleep hmore), Peer.receive_script]
    show 2 * q.script.length + 2 < _
    omega

end Awaiting

/-- A message that comes in pieces and pauses leads to the verdict on it as a whole. -/
theorem Seamless.converse_verdict (hseamless : client.Seamless reads) (hreaches : context.Reaches e) {fuel : Nat}
    (h : client.Awaiting reads e verdict now p state) (hfuel : turns now p ≤ fuel) :
    (client.converse context fuel now p state).verdict = verdict := by
  induction fuel generalizing now p state with
  | zero =>
    rw [turns] at hfuel
    split at hfuel <;> omega
  | succ fuel ih =>
    have hlimits := hreaches.of_le h.now_le
    rw [converse, if_neg (Instant.not_le_iff.mpr hlimits.beforeDeadline), hlimits.isCancelled_eq_false]
    have hq : p.Delivered now p.script (p.run now) := p.delivered_act h.delivers h.opened
    generalize p.run now = q at hq
    simp only [Bool.false_eq_true, if_false]
    by_cases hended : q.ended
    · obtain ⟨sent, hleave⟩ := h.leaves hq hended
      have hspoken : q.hasSpoken := by simp [Peer.hasSpoken, hended]
      simp only [hspoken, if_true, hleave]
      rfl
    rw [Bool.not_eq_true] at hended
    by_cases hquiet : q.outbox = []
    · obtain ⟨⟨hmore, hsleeps⟩, hnext, hturns⟩ := h.pause hq hended hquiet
      have hspoken : q.hasSpoken = false := by simp [Peer.hasSpoken, hended, hquiet]
      have hwakes : q.wake? now = some q.wakeAt := by simp [Peer.wake?, hmore, hsleeps]
      simp only [hspoken, Bool.false_eq_true, if_false, hreaches.nextEvent_eq hwakes hnext.now_le]
      exact ih hnext (by omega)
    · have hspoken : q.hasSpoken := by simp [Peer.hasSpoken, hquiet]
      simp only [hspoken, if_true]
      cases hreact : client.react state q.outbox q.ended with
      | leave sent verdict' =>
        obtain ⟨lead, hreads, hlead⟩ := h.seen_of_delivered hq
        obtain ⟨sent', hwhole⟩ := h.whole_of_delivered hq
        rw [hended] at hreact
        rw [hended, Bool.false_or, hseamless.cut hreads hlead, hreact] at hwhole
        cases hwhole
        rfl
      | await sent next =>
        rw [hended] at hreact
        obtain ⟨hnext, hturns⟩ := h.part hseamless hq hended hquiet hreact
        exact ih hnext (by omega)

end Client

end TargetHealth
