import EthClient.Proofs.Digits
import EthClient.Proofs.Serving

/-! # What subscriptions deliver

A node sends the notifications of a topic to all channels that it keeps for the topic, and finds out
only then which subscribers have left. The channels of one topic are in one list, so it has to be
shown that none of them is missed or served twice while others come and go.

* `ScriptedNode.Wired` says that the lists of a node are in order: no channel is in a list twice,
  and each is in the list of its own topic. Every operation keeps them so
  (**`ScriptedNode.Wired.perform`**).
* A `Feed` is what one subscription is by itself: what is waiting, and whether anything more may
  come. Whatever is done at a wired node does to each of its subscriptions what it does to the feed
  (**`ScriptedNode.Carries.perform`**), so a subscriber receives what comes out of the feed
  (**`ScriptedNode.Carries.trace_answers`**).
* A feed delivers its **window** (`ScriptedNode.window`): what is sent to the topic until the
  subscriber leaves or the connection ends (**`Feed.outs_append_waiting`**). One who goes on
  receives all of it and is told then that nothing more comes
  (**`Feed.outs_replicate_receive`**). -/

namespace EthClient

/-- The notification that was received. -/
def Received.item? : Received → Option Json
  | .item value => some value
  | .pending => none
  | .ended => none

/-- What is received when these notifications are waiting. -/
def Received.next (isOver : Bool) : List Json → Received
  | value :: _ => .item value
  | [] => if isOver then .ended else .pending

namespace ScriptedNode

/-! ## Windows -/

/-- Whether an operation ends a subscription. -/
def Op.ends (s : Subscription) : Op → Bool
  | .unsubscribe s' => s'.channel == s.channel
  | .close => true
  | _ => false

/-- The notification that an operation sends to a topic. -/
def Op.sent (topic : String) : Op → Option Json
  | .notify t value => if t = topic then some value else none
  | _ => none

/-- What operations send to a topic before one of them ends the subscription. -/
def window (topic : String) (s : Subscription) (ops : List Op) : List Json :=
  (ops.takeWhile fun op => !op.ends s).filterMap (Op.sent topic)

/-- What a subscriber is told when it looks for the next notification. -/
def answers (s : Subscription) (n : ScriptedNode) : Op → List Received
  | .receive s' => if s'.channel = s.channel then [(n.receive s').1] else []
  | _ => []

/-- The subscription that an operation opens. -/
def opened (n : ScriptedNode) : Op → List Subscription
  | .subscribe topic params => [(n.subscribe topic params).1]
  | _ => []

end ScriptedNode

/-! ## Feeds -/

/-- A subscription by itself. -/
structure Feed where
  /-- What was sent and has not been received. -/
  waiting : List Json := []
  /-- Whether the subscriber takes further notifications. -/
  taking : Bool := true
  /-- Whether the node sends any. -/
  sending : Bool := true

namespace Feed

open ScriptedNode

variable (topic : String) (s : Subscription) (f : Feed)

/-- Whether anything more may come. -/
def live : Bool := f.taking && f.sending

/-- The feed after an operation. -/
def step : Op → Feed
  | .notify t value =>
    if t = topic then
      { f with waiting := f.waiting ++ if f.live then [value] else [], sending := f.live }
    else f
  | .unsubscribe s' => if s'.channel = s.channel then { f with taking := false } else f
  | .close => { f with sending := false }
  | .receive s' => if s'.channel = s.channel then { f with waiting := f.waiting.tail } else f
  | _ => f

/-- What comes out of the feed in an operation. -/
def out : Op → List Received
  | .receive s' => if s'.channel = s.channel then [.next (!f.live) f.waiting] else []
  | _ => []

/-- What comes out of a feed in some operations. -/
def outs (topic : String) (s : Subscription) : Feed → List Op → List Received
  | _, [] => []
  | f, op :: rest => f.out s op ++ outs topic s (f.step topic s op) rest

section Self

variable {s} {s' : Subscription}

/-- The subscriber leaves. -/
theorem step_unsubscribe_self (h : s'.channel = s.channel) :
    f.step topic s (.unsubscribe s') = { f with taking := false } := if_pos h

/-- Another subscriber leaves. -/
theorem step_unsubscribe_of_ne (h : s'.channel ≠ s.channel) :
    f.step topic s (.unsubscribe s') = f := if_neg h

/-- The subscriber looks for the next notification. -/
theorem step_receive_self (h : s'.channel = s.channel) :
    f.step topic s (.receive s') = { f with waiting := f.waiting.tail } := if_pos h

/-- Another subscriber does. -/
theorem step_receive_of_ne (h : s'.channel ≠ s.channel) :
    f.step topic s (.receive s') = f := if_neg h

end Self

/-- The feed is live until an operation ends it. -/
theorem live_step (op : Op) : (f.step topic s op).live = (f.live && !op.ends s) := by
  cases op with
  | notify t value =>
    by_cases ht : t = topic
    · cases hk : f.taking <;> simp [step, live, Op.ends, ht, hk]
    · simp [step, Op.ends, ht]
  | unsubscribe s' | receive s' =>
    by_cases h : s'.channel = s.channel <;> simp [step, live, Op.ends, h]
  | push | call | batch | subscribe | close => simp [step, live, Op.ends]

/-- **In one operation** nothing is lost: what comes out and what is waiting afterwards is what was
waiting before, and behind it what is sent while the feed is live. -/
theorem out_append_waiting_step (op : Op) :
    (f.out s op).filterMap Received.item? ++ (f.step topic s op).waiting
      = f.waiting ++ if f.live then (op.sent topic).toList else [] := by
  cases op with
  | notify t value =>
    by_cases ht : t = topic <;> cases hl : f.live <;> simp [out, step, Op.sent, ht, hl]
  | receive s' =>
    by_cases h : s'.channel = s.channel
    · cases hw : f.waiting <;> cases hl : f.live <;>
        simp [out, step, Op.sent, h, hw, hl, Received.next, Received.item?]
    · simp [out, step, Op.sent, h]
  | unsubscribe s' =>
    by_cases h : s'.channel = s.channel <;> simp [out, step, Op.sent, h]
  | push | call | batch | subscribe | close => simp [out, step, Op.sent]

/-- The window begins with what the first operation sends, and ends with it if it ends the
subscription. -/
theorem window_cons (op : Op) (rest : List Op) :
    window topic s (op :: rest)
      = (op.sent topic).toList ++ if op.ends s then [] else window topic s rest := by
  cases h : op.ends s with
  | true =>
    -- what ends a subscription sends nothing
    have hnone : op.sent topic = none := by cases op <;> simp_all [Op.ends, Op.sent]
    simp [window, h, hnone]
  | false =>
    cases hsent : op.sent topic <;> simp [window, h, hsent]

/-- **A feed yields its window**: what comes out in some operations and what is waiting afterwards
is what was waiting before and, if the feed was live, what is sent until it is ended. -/
theorem outs_append_waiting (ops : List Op) :
    (f.outs topic s ops).filterMap Received.item? ++ (ops.foldl (step topic s) f).waiting
      = f.waiting ++ if f.live then window topic s ops else [] := by
  induction ops generalizing f with
  | nil => cases f.live <;> simp [outs, window]
  | cons op rest ih =>
    have hfirst := f.out_append_waiting_step topic s op
    have hrest := ih (f.step topic s op)
    rw [live_step] at hrest
    rw [outs, List.foldl_cons, List.filterMap_append, List.append_assoc, hrest, ← List.append_assoc,
      hfirst, window_cons, List.append_assoc]
    cases f.live <;> cases op.ends s <;> simp

/-- The feed is live afterwards if no operation ends it. -/
theorem live_foldl_step (ops : List Op) :
    (ops.foldl (step topic s) f).live = (f.live && !ops.any (·.ends s)) := by
  induction ops generalizing f with
  | nil => simp
  | cons op rest ih =>
    rw [List.foldl_cons, ih, live_step]
    simp [Bool.and_assoc]

/-- Some operations come out like one part of them after the other. -/
theorem outs_append (ops more : List Op) :
    f.outs topic s (ops ++ more)
      = f.outs topic s ops ++ (ops.foldl (step topic s) f).outs topic s more := by
  induction ops generalizing f with
  | nil => rfl
  | cons op rest ih => simp [outs, ih]

/-- **Going on to receive** brings out what is waiting, and then always the same. -/
theorem outs_replicate_receive (k : Nat) :
    f.outs topic s (List.replicate k (.receive s))
      = (f.waiting.map Received.item ++ List.replicate k (Received.next (!f.live) [])).take k := by
  induction k generalizing f with
  | zero => rfl
  | succ k ih =>
    have hout : f.out s (.receive s) = [.next (!f.live) f.waiting] := if_pos rfl
    have hlive : live { f with waiting := f.waiting.tail } = f.live := rfl
    rw [List.replicate_succ, outs, step_receive_self topic f rfl, hout, ih, hlive]
    cases f.waiting with
    | nil => simp [List.replicate_succ]
    | cons value rest =>
      -- one repetition less is needed for the shorter list
      simp [Received.next, List.replicate_succ', ← List.append_assoc]

/-- Another subscriber's leaving does nothing to the feed. -/
theorem outs_unsubscribe_of_ne {s' : Subscription} (h : s'.channel ≠ s.channel)
    (ops rest : List Op) :
    f.outs topic s (ops ++ .unsubscribe s' :: rest) = f.outs topic s (ops ++ rest) := by
  rw [outs_append, outs_append, outs, step_unsubscribe_of_ne topic _ h]
  rfl

end Feed

namespace ScriptedNode

variable {n : ScriptedNode} {s : Subscription} {topic : String} {f : Feed}

/-! ## The channels of a node -/

/-- **Sending to a list of channels** sends once to each of them and to no other one. -/
theorem getElem?_foldl_send {places : List Nat} (h : places.Nodup) (value : Json)
    (cs : List Channel) (i : Nat) :
    (places.foldl (fun cs place => cs.modify place (·.send value)) cs)[i]?
      = cs[i]?.map fun c => if i ∈ places then c.send value else c := by
  induction places generalizing cs with
  | nil => simp
  | cons place rest ih =>
    obtain ⟨hplace, hrest⟩ := List.nodup_cons.mp h
    rw [List.foldl_cons, ih hrest, List.getElem?_modify]
    by_cases hi : place = i
    · subst hi
      cases cs[place]? <;> simp [hplace]
    · cases cs[i]? <;> simp [hi, Ne.symm hi]

/-- Serving calls does not touch the channels. -/
theorem wiring_serveEach (n : ScriptedNode) (cs : List Call) :
    (n.serveEach cs).2.channels = n.channels ∧ (n.serveEach cs).2.senders = n.senders := by
  induction cs generalizing n with
  | nil => exact ⟨rfl, rfl⟩
  | cons c rest ih =>
    by_cases h : isUnanswered (n.respond c).1 = true
    · rw [serveEach_of_unanswered rest h]
      exact ⟨rfl, rfl⟩
    · rw [serveEach_of_answered rest ((Bool.not_eq_true _).mp h)]
      exact ih _

/-- Neither does serving a batch. -/
theorem wiring_respondBatch (n : ScriptedNode) (elems : List BatchElem) :
    (n.respondBatch elems).2.channels = n.channels ∧
      (n.respondBatch elems).2.senders = n.senders := by
  rw [respondBatch]
  split
  · exact ⟨rfl, rfl⟩
  · rw [(n.gathers_respondEach elems).1]
    exact n.wiring_serveEach _

/-- The lists of channels are in order: none is twice in a list, and each is in that of its own
topic. -/
structure Wired (n : ScriptedNode) : Prop where
  nodup : ∀ topic, (n.senders topic).Nodup
  topic_eq : ∀ topic, ∀ place ∈ n.senders topic,
    ∃ c, n.channels[place]? = some c ∧ c.topic = topic

/-- The node has the feed in the channel of the subscription. -/
structure Carries (n : ScriptedNode) (topic : String) (s : Subscription) (f : Feed) : Prop where
  channel : n.channels[s.channel]? = some ⟨topic, f.waiting, f.taking⟩
  sending : f.sending = true ↔ s.channel ∈ n.senders topic

/-- Every channel has a feed. -/
theorem carries_of_channel {c : Channel} (h : n.channels[s.channel]? = some c) :
    n.Carries c.topic s ⟨c.waiting, c.taking, decide (s.channel ∈ n.senders c.topic)⟩ :=
  ⟨h, by simp⟩

namespace Carries

/-- What is received is what is next in the feed. -/
theorem receive_eq (h : n.Carries topic s f) {s' : Subscription} (hs : s'.channel = s.channel) :
    (n.receive s').1 = .next (!f.live) f.waiting ∧
      (n.receive s').2.channels[s.channel]? = some ⟨topic, f.waiting.tail, f.taking⟩ ∧
      (n.receive s').2.senders = n.senders := by
  obtain ⟨hchannel, hsending⟩ := h
  have hlt : s.channel < n.channels.length := (List.getElem?_eq_some_iff.mp hchannel).1
  rw [receive, hs, hchannel]
  cases hw : f.waiting with
  | nil =>
    have hmem : decide (s.channel ∈ n.senders topic) = f.sending := by
      rw [Bool.eq_iff_iff, decide_eq_true_iff, hsending]
    refine ⟨?_, by rw [hchannel, hw]; rfl, rfl⟩
    by_cases hl : (f.taking && f.sending) = true <;>
      simp only [Received.next, Feed.live, hmem, hl] <;> simp
  | cons value rest => exact ⟨rfl, by simp [hlt], rfl⟩

/-- A notification is sent to the feed if it is one of the topic and the feed is live. -/
theorem notify (hn : n.Wired) (h : n.Carries topic s f) (t : String) (value : Json) :
    (n.notify t value).Carries topic s (f.step topic s (.notify t value)) := by
  obtain ⟨hchannel, hsending⟩ := h
  have htakes : n.takes s.channel = f.taking := by simp [takes, hchannel]
  have hsent := getElem?_foldl_send (hn.nodup t) value n.channels s.channel
  rw [hchannel, Option.map_some] at hsent
  by_cases ht : t = topic
  · subst ht
    simp only [← hsending] at hsent
    refine ⟨hsent.trans ?_, ?_⟩
    · cases hk : f.taking <;> cases hs : f.sending <;>
        simp [Feed.step, Feed.live, Channel.send, hk, hs]
    · -- the subscriber stays in the list if it has taken the notification
      simp [Feed.step, Feed.live, ScriptedNode.notify, htakes, hsending, and_comm]
  · -- the channel is in the list of its own topic and in no other one
    have hother : s.channel ∉ n.senders t := fun hm => by
      obtain ⟨c, hc, rfl⟩ := hn.topic_eq t _ hm
      rw [hchannel] at hc
      exact ht (congrArg Channel.topic (Option.some.inj hc)).symm
    rw [if_neg hother] at hsent
    have hstep : f.step topic s (.notify t value) = f := if_neg ht
    rw [hstep]
    exact ⟨hsent, by simpa [ScriptedNode.notify, Ne.symm ht] using hsending⟩

/-- **Whatever is done at the node** is done to the feed. -/
theorem perform (hn : n.Wired) (h : n.Carries topic s f) (op : Op) :
    (n.perform op).Carries topic s (f.step topic s op) := by
  obtain ⟨hchannel, hsending⟩ := h
  have hlt : s.channel < n.channels.length := (List.getElem?_eq_some_iff.mp hchannel).1
  cases op with
  | push | call => exact ⟨hchannel, hsending⟩
  | batch elems =>
    obtain ⟨hchannels, hsenders⟩ := n.wiring_respondBatch elems
    exact ⟨by rw [ScriptedNode.perform, hchannels]; exact hchannel,
      by rw [ScriptedNode.perform, hsenders]; exact hsending⟩
  | notify t value => exact Carries.notify hn ⟨hchannel, hsending⟩ t value
  | subscribe t params =>
    -- the new channel is behind all others
    refine ⟨(List.getElem?_append_left hlt).trans hchannel, hsending.trans ?_⟩
    by_cases ht : topic = t <;>
      simp [ScriptedNode.perform, subscribe, ht, Nat.ne_of_lt hlt]
  | unsubscribe s' =>
    by_cases hs : s'.channel = s.channel
    · rw [f.step_unsubscribe_self topic hs]
      exact ⟨by simp [ScriptedNode.perform, ScriptedNode.unsubscribe, hs, hchannel], hsending⟩
    · rw [f.step_unsubscribe_of_ne topic hs]
      exact ⟨by simp [ScriptedNode.perform, ScriptedNode.unsubscribe, hs, hchannel], hsending⟩
  | close => exact ⟨hchannel, by simp [ScriptedNode.perform, ScriptedNode.close, Feed.step]⟩
  | receive s' =>
    by_cases hs : s'.channel = s.channel
    · obtain ⟨-, hleft, hsenders⟩ := receive_eq ⟨hchannel, hsending⟩ hs
      rw [f.step_receive_self topic hs]
      exact ⟨hleft, by rw [ScriptedNode.perform, hsenders]; exact hsending⟩
    · obtain ⟨channels, hleft, -, hothers⟩ := n.exists_channels_receive s'
      rw [f.step_receive_of_ne topic hs, ScriptedNode.perform, hleft]
      exact ⟨(hothers s.channel (Ne.symm hs)).trans hchannel, hsending⟩

end Carries

/-- **Every operation keeps the lists in order.** -/
theorem Wired.perform (hn : n.Wired) (op : Op) : (n.perform op).Wired := by
  -- channels that were there before are still there, with their topics
  have hkeeps : ∀ topic, ∀ place ∈ n.senders topic,
      ∃ c, (n.perform op).channels[place]? = some c ∧ c.topic = topic := by
    intro topic place hplace
    obtain ⟨c, hc, rfl⟩ := hn.topic_eq topic place hplace
    have hcarries : n.Carries c.topic ⟨"", place⟩ _ := carries_of_channel hc
    exact ⟨_, (hcarries.perform hn op).channel, rfl⟩
  have hsame (h : (n.perform op).senders = n.senders) : (n.perform op).Wired :=
    ⟨h ▸ hn.nodup, h ▸ hkeeps⟩
  cases op with
  | push | call | unsubscribe => exact hsame rfl
  | batch elems => exact hsame (n.wiring_respondBatch elems).2
  | receive s' =>
    obtain ⟨channels, hleft, -⟩ := n.exists_channels_receive s'
    exact hsame (by rw [ScriptedNode.perform, hleft])
  | close => exact ⟨fun _ => List.nodup_nil, fun _ _ hplace => absurd hplace List.not_mem_nil⟩
  | notify t value =>
    refine ⟨fun topic => ?_, fun topic place hplace => hkeeps topic place ?_⟩
    · by_cases ht : topic = t
      · simpa [ScriptedNode.perform, notify, ht] using (hn.nodup t).filter _
      · simpa [ScriptedNode.perform, notify, ht] using hn.nodup topic
    · by_cases ht : topic = t
      · simp only [ScriptedNode.perform, notify, ht, beq_self_eq_true, if_true] at hplace
        exact ht ▸ List.mem_of_mem_filter hplace
      · simpa [ScriptedNode.perform, notify, ht] using hplace
  | subscribe t params =>
    have hnew (topic : String) : n.channels.length ∉ n.senders topic := fun hm => by
      obtain ⟨c, hc, -⟩ := hn.topic_eq topic _ hm
      exact absurd (List.getElem?_eq_some_iff.mp hc).1 (Nat.lt_irrefl _)
    refine ⟨fun topic => ?_, fun topic place hplace => ?_⟩
    · by_cases ht : topic = t
      · have happend : (n.senders t ++ [n.channels.length]).Nodup :=
          (hn.nodup t).append (List.nodup_singleton _)
            (List.disjoint_singleton.mpr (hnew t))
        simpa [ScriptedNode.perform, subscribe, ht] using happend
      · simpa [ScriptedNode.perform, subscribe, ht] using hn.nodup topic
    · by_cases ht : topic = t
      · subst ht
        have hor : place ∈ n.senders topic ∨ place = n.channels.length := by
          simpa [ScriptedNode.perform, subscribe] using hplace
        obtain hold | rfl := hor
        · exact hkeeps topic place hold
        · exact ⟨⟨topic, [], true⟩, by simp [ScriptedNode.perform, subscribe], rfl⟩
      · exact hkeeps topic place (by simpa [ScriptedNode.perform, subscribe, ht] using hplace)

/-! ## Runs -/

/-- **So does every run.** -/
theorem Wired.performAll (hn : n.Wired) (ops : List Op) : (n.performAll ops).Wired := by
  induction ops generalizing n with
  | nil => exact hn
  | cons op rest ih => exact ih (hn.perform op)

/-- A node without subscriptions is in order. -/
theorem wired_new : Wired {} :=
  ⟨fun _ => List.nodup_nil, fun _ _ hplace => absurd hplace List.not_mem_nil⟩

/-- A run of operations is one part after the other. -/
theorem trace_append {α : Type} (seen : ScriptedNode → Op → List α) (n : ScriptedNode)
    (ops more : List Op) :
    n.trace seen (ops ++ more) = n.trace seen ops ++ (n.performAll ops).trace seen more := by
  induction ops generalizing n with
  | nil => rfl
  | cons op rest ih => simp [trace, performAll, ih]

namespace Carries

/-- The feed after a run is in the channel. -/
theorem performAll (hn : n.Wired) (h : n.Carries topic s f) (ops : List Op) :
    (n.performAll ops).Carries topic s (ops.foldl (Feed.step topic s) f) := by
  induction ops generalizing n f with
  | nil => exact h
  | cons op rest ih => exact ih (hn.perform op) (h.perform hn op)

/-- **What a subscriber is told** in a run is what comes out of the feed. -/
theorem trace_answers (hn : n.Wired) (h : n.Carries topic s f) (ops : List Op) :
    n.trace (answers s) ops = f.outs topic s ops := by
  induction ops generalizing n f with
  | nil => rfl
  | cons op rest ih =>
    have hfirst : n.answers s op = f.out s op := by
      cases op with
      | receive s' =>
        by_cases hs : s'.channel = s.channel
        · simp [answers, Feed.out, hs, (h.receive_eq hs).1]
        · simp [answers, Feed.out, hs]
      | _ => rfl
    rw [trace, Feed.outs, hfirst, ih (hn.perform op) (h.perform hn op)]

end Carries

/-- A new subscription is at the end of its list, and nothing has been sent to it. -/
theorem carries_subscribe (n : ScriptedNode) (topic : String) (params : List Param) :
    (n.subscribe topic params).2.Carries topic (n.subscribe topic params).1 {} :=
  ⟨by simp [subscribe], by simp [subscribe]⟩

/-! ## The subscriptions of a run -/

/-- Sending to channels makes no new ones. -/
theorem length_foldl_send (places : List Nat) (value : Json) (cs : List Channel) :
    (places.foldl (fun cs place => cs.modify place (·.send value)) cs).length = cs.length := by
  induction places generalizing cs with
  | nil => rfl
  | cons place rest ih => simp [ih]

/-- **There is one channel more for each subscription that is opened.** -/
theorem length_channels_perform (n : ScriptedNode) (op : Op) :
    (n.perform op).channels.length = n.channels.length + (n.opened op).length := by
  cases op with
  | push | call | close => rfl
  | batch elems => exact congrArg List.length (n.wiring_respondBatch elems).1
  | subscribe topic params => simp [perform, subscribe, opened]
  | notify topic value => exact length_foldl_send _ value n.channels
  | unsubscribe s => simp [perform, unsubscribe, opened]
  | receive s =>
    obtain ⟨channels, hleft, hlength, -⟩ := n.exists_channels_receive s
    rw [perform, hleft]
    exact hlength

/-- **Subscriptions are numbered in the order in which they are opened**: the numbers are the places
of their channels, and the ids are written from them. -/
theorem trace_opened (n : ScriptedNode) (ops : List Op) :
    n.trace opened ops
      = (List.range' n.channels.length (n.trace opened ops).length).map fun place =>
          ⟨(Quantity.ofNat (place + 1) : Number64).toText, place⟩ := by
  induction ops generalizing n with
  | nil => rfl
  | cons op rest ih =>
    have hrest := ih (n.perform op)
    rw [length_channels_perform] at hrest
    rw [trace, hrest]
    cases op with
    | subscribe topic params => simp [opened, subscribe, List.range'_succ]
    | push | call | batch | notify | unsubscribe | close | receive => simp [opened]

/-- Ids are the same if the numbers agree in what the counter holds of them. -/
theorem toText_ofNat_inj {a b : Nat} :
    (Quantity.ofNat a : Number64).toText = (Quantity.ofNat b : Number64).toText
      ↔ a % 2 ^ 64 = b % 2 ^ 64 := by
  constructor
  · intro h
    have hread := congrArg (Quantity.ofText? : String → Option Number64) h
    rw [Quantity.ofText?_toText _ rfl (by decide), Quantity.ofText?_toText _ rfl (by decide)]
      at hread
    exact congrArg BitVec.toNat (Option.some.inj hread)
  · intro h
    exact congrArg Quantity.toText (BitVec.eq_of_toNat_eq h)

/-- Of the subscriptions of a run, those have the same id that the counter cannot tell apart. -/
theorem id_eq_iff {n : ScriptedNode} {ops : List Op} {a b : Subscription}
    (ha : a ∈ n.trace opened ops) (hb : b ∈ n.trace opened ops) :
    a.id = b.id ↔ a.channel % 2 ^ 64 = b.channel % 2 ^ 64 := by
  rw [trace_opened] at ha hb
  obtain ⟨place, -, rfl⟩ := List.mem_map.mp ha
  obtain ⟨place', -, rfl⟩ := List.mem_map.mp hb
  rw [toText_ofNat_inj]
  dsimp only
  omega

/-- **The subscriptions of a run are different ones**, and have different ids as long as the counter
has not come round. -/
theorem nodup_trace_opened (n : ScriptedNode) (ops : List Op) :
    ((n.trace opened ops).map (·.channel)).Nodup ∧
      ((n.trace opened ops).length ≤ 2 ^ 64 → ((n.trace opened ops).map (·.id)).Nodup) := by
  have hchannels : (n.trace opened ops).map (·.channel)
      = List.range' n.channels.length (n.trace opened ops).length := by
    conv => lhs; rw [trace_opened]
    simp [Function.comp_def]
  have hnodup : ((n.trace opened ops).map (·.channel)).Nodup := by
    rw [hchannels]
    exact List.nodup_range'
  refine ⟨hnodup, fun hlength => List.Nodup.map_on (fun a ha b hb h => ?_) hnodup.of_map⟩
  -- the channels of fewer subscriptions than the counter has numbers are told apart by it
  have hplace (s : Subscription) (hs : s ∈ n.trace opened ops) :
      n.channels.length ≤ s.channel ∧
        s.channel < n.channels.length + (n.trace opened ops).length := by
    have hmem := List.mem_map_of_mem (f := (·.channel)) hs
    rw [hchannels] at hmem
    exact List.mem_range'_1.mp hmem
  have hrange := hplace a ha
  have hrange' := hplace b hb
  have hmod := (id_eq_iff ha hb).mp h
  have hsame : a.channel = b.channel := by omega
  exact List.inj_on_of_nodup_map hnodup ha hb hsame

/-! ## Main result -/

/-- **A subscription delivers its window.** Whatever was done at a node before and is done after it
was opened:

* What was received are the first notifications of the window, in their order, and one who goes on
  receives the others. Behind them nothing comes yet, or nothing any more if the subscriber has left
  or the connection has ended.
* It makes no difference whether another subscriber leaves.
* No two subscriptions are the same, nor are their ids, unless the counter of 64 bits has come
  round between them. -/
theorem subscription_delivers_window (pre post : List Op) (topic : String) (params : List Param) :
    let s := ((performAll {} pre).subscribe topic params).1
    let node := ((performAll {} pre).subscribe topic params).2
    let subscriptions := trace opened {} (pre ++ .subscribe topic params :: post)
    (∃ queued : List Json,
      (node.trace (answers s) post).filterMap Received.item? ++ queued = window topic s post ∧
      ∀ k, (node.performAll post).trace (answers s) (List.replicate k (.receive s))
        = (queued.map Received.item ++ List.replicate k
            (if post.any (·.ends s) then Received.ended else .pending)).take k) ∧
    (∀ (s' : Subscription) (rest : List Op), s'.channel ≠ s.channel →
      node.trace (answers s) (post ++ .unsubscribe s' :: rest)
        = node.trace (answers s) (post ++ rest)) ∧
    s ∈ subscriptions ∧ (subscriptions.map (·.channel)).Nodup ∧
      (∀ a ∈ subscriptions, ∀ b ∈ subscriptions,
        a.id = b.id ↔ a.channel % 2 ^ 64 = b.channel % 2 ^ 64) ∧
      (subscriptions.length ≤ 2 ^ 64 → (subscriptions.map (·.id)).Nodup) := by
  intro s node subscriptions
  have hwired : node.Wired := (wired_new.performAll pre).perform (.subscribe topic params)
  have hcarries : node.Carries topic s {} := carries_subscribe _ topic params
  refine ⟨⟨(post.foldl (Feed.step topic s) {}).waiting, ?_, fun k => ?_⟩,
    fun s' rest hs => ?_, ?_, (nodup_trace_opened _ _).1, fun _ ha _ hb => id_eq_iff ha hb,
    (nodup_trace_opened _ _).2⟩
  · rw [hcarries.trace_answers hwired]
    exact Feed.outs_append_waiting topic s {} post
  · have hafter := hcarries.performAll hwired post
    have hlive : (post.foldl (Feed.step topic s) {}).live = !post.any (·.ends s) :=
      Feed.live_foldl_step topic s {} post
    rw [hafter.trace_answers (hwired.performAll post), Feed.outs_replicate_receive, hlive,
      Bool.not_not]
    rfl
  · rw [hcarries.trace_answers hwired, hcarries.trace_answers hwired]
    exact Feed.outs_unsubscribe_of_ne topic s {} hs post rest
  · show s ∈ trace opened {} (pre ++ .subscribe topic params :: post)
    rw [trace_append, trace]
    exact List.mem_append_right _ (List.mem_append_left _ (List.mem_singleton_self s))

/-- Two subscribers of one topic and one of another, the first of whom leaves: the second receives
what was sent before the connection ended, some of it afterwards, and nothing of the other topic. -/
theorem subscription_delivers_window_shared :
    let first : Subscription := ⟨"0x1", 0⟩
    let second : Subscription := ⟨"0x2", 1⟩
    let opening : List Op := [.subscribe "eth" [], .subscribe "eth" []]
    let early : List Op := [.subscribe "net" [], .notify "eth" (.string "a"), .notify "net" .null]
    let late : List Op := [.notify "eth" (.string "b"), .receive second, .close,
      .notify "eth" (.string "c"), .receive second, .receive second]
    let node := performAll {} opening
    let subscriptions := trace opened {} (opening ++ (early ++ .unsubscribe first :: late))
    (first.channel ≠ second.channel ∧
      node.trace (answers second) (early ++ .unsubscribe first :: late)
        = node.trace (answers second) (early ++ late)) ∧
    (subscriptions.length ≤ 2 ^ 64 ∧ (subscriptions.map (·.id)).Nodup) ∧
    window "eth" second (early ++ .unsubscribe first :: late) = [.string "a", .string "b"] ∧
    node.trace (answers second) (early ++ .unsubscribe first :: late)
      = [.item (.string "a"), .item (.string "b"), .ended] := by
  intro first second opening early late node subscriptions
  have hother : first.channel ≠ second.channel := by decide
  have hfew : subscriptions.length ≤ 2 ^ 64 := by decide
  obtain ⟨-, hleaving, -⟩ :=
    subscription_delivers_window [.subscribe "eth" []] early "eth" []
  obtain ⟨-, -, -, -, -, hids⟩ := subscription_delivers_window [.subscribe "eth" []]
    (early ++ .unsubscribe first :: late) "eth" []
  exact ⟨⟨hother, hleaving first late hother⟩, ⟨hfew, hids hfew⟩, rfl, rfl⟩

end ScriptedNode

end EthClient
