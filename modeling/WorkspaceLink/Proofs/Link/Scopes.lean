import WorkspaceLink.Proofs.Link.Hearing
import WorkspaceLink.Proofs.Link.Listing
import WorkspaceLink.Proofs.Link.Overtaking

/-!
# Events of the own scope

All subscribers of a channel hear the same notifications, whatever their scopes. A subscriber takes
what decodes as an event of its channel and does not name another scope, except that a subscriber to
the memberships of a user takes the events of all users. Main statement: while a subscriber is
registered, what is noted for it are these events, each once and in the order of their arrival,
whatever else happens to the link.
-/
namespace WorkspaceLink

/-! ### Scopes of events -/

/-- The scope that an event names: a workspace, an organization or a user. -/
def ChannelEvent.scope? : ChannelEvent → Option String
  | .raw _ => none
  | .workspaceStatus event => some event.workspaceId.text
  | .machineStatus event => event.workspace?.map (·.text)
  | .output _ event => event.workspace?.map (·.text)
  | .organization event => (event.organization.map (·.id)).map (·.text)
  | .membership event => event.member.map (·.text)

/-- The machine that a line of output comes from. -/
def ChannelEvent.machine? : ChannelEvent → Option String
  | .output _ event => event.machineName
  | _ => none

/-- The event in the parameters of a notification on a channel, if it decodes. -/
def Channel.decode? : Channel → Json → Option ChannelEvent
  | .runtimeLog, params => (LogEvent.decode params).toOption.map (.output "runtime")
  | .machineStatus, params => (MachineStatusEvent.decode params).toOption.map .machineStatus
  | .installerLog, params => (LogEvent.decode params).toOption.map (.output "installer")
  | .workspaceStatus, params => (WorkspaceStatusEvent.decode params).toOption.map .workspaceStatus
  | .organizationStatus, params => (OrganizationEvent.decode params).toOption.map .organization
  | .organizationMembership, params => (MembershipEvent.decode params).toOption.map .membership

namespace Selection

/-- The machine that the selection is narrowed to. -/
def machine? : Selection → Option String
  | .output _ machine => machine
  | _ => none

/-- The event names no other scope, and comes from the machine if there is one. -/
def concerns (selection : Selection) (topic : Topic) (event : ChannelEvent) : Bool :=
  (event.scope?.all fun scope => scope = topic.scope) &&
    selection.machine?.all fun machine => event.machine? = some machine

/-- The selection looks at what events name; one of memberships does not. -/
def isParticular : Selection → Bool
  | .everything | .membership _ => false
  | _ => true

theorem agrees_eq {kind : IdKind} (named : Option (Id kind)) (own : Id kind) :
    agrees named own = (named.map (·.text)).all fun scope => scope = own.text := by
  cases named with
  | none => rfl
  | some other =>
    obtain ⟨other⟩ := other
    obtain ⟨own⟩ := own
    simp [agrees]

/-- A subscriber takes what decodes on its channel and concerns it. -/
theorem accept?_eq {selection : Selection} {topic : Topic} (h : selection.topic? = some topic)
    (params : Json) :
    selection.accept? params = (topic.channel.decode? params).filter fun event =>
      !selection.isParticular || selection.concerns topic event := by
  cases selection with
  | everything => simp [topic?] at h
  | output workspace machine =>
    obtain rfl := Option.some.inj h
    simp only [accept?, Channel.decode?, isParticular, concerns, machine?, ChannelEvent.scope?,
      ChannelEvent.machine?, agrees_eq]
    cases LogEvent.decode params with
    | error error => rfl
    | ok event =>
      cases machine with
      | none => simp [Except.toOption, Option.filter]
      | some name =>
        by_cases hname : event.machineName = some name <;>
          simp [Except.toOption, Option.filter, hname]
  | machineStatus workspace =>
    obtain rfl := Option.some.inj h
    simp only [accept?, Channel.decode?, isParticular, concerns, machine?, ChannelEvent.scope?,
      agrees_eq]
    cases MachineStatusEvent.decode params <;> simp [Except.toOption, Option.filter]
  | installerOutput workspace =>
    obtain rfl := Option.some.inj h
    simp only [accept?, Channel.decode?, isParticular, concerns, machine?, ChannelEvent.scope?,
      agrees_eq]
    cases LogEvent.decode params <;> simp [Except.toOption, Option.filter]
  | workspaceStatus workspace =>
    obtain rfl := Option.some.inj h
    simp only [accept?, Channel.decode?, isParticular, concerns, machine?, ChannelEvent.scope?]
    cases WorkspaceStatusEvent.decode params with
    | error error => rfl
    | ok event =>
      have hsame : (event.workspaceId = workspace) = (event.workspaceId.text = workspace.text) := by
        cases event.workspaceId
        cases workspace
        simp
      simp [Except.toOption, Option.filter, hsame]
  | organization own =>
    obtain rfl := Option.some.inj h
    simp only [accept?, Channel.decode?, isParticular, concerns, machine?, ChannelEvent.scope?,
      agrees_eq]
    cases OrganizationEvent.decode params <;>
      simp [Except.toOption, Option.filter, - Option.map_map]
  | membership user =>
    obtain rfl := Option.some.inj h
    simp only [accept?, Channel.decode?, isParticular]
    cases MembershipEvent.decode params <;> simp [Except.toOption, Option.filter]

end Selection

namespace Link

variable {link : Link}

/-! ### One subscriber among others -/

/-- The event of a note under a label. -/
def payload? (label : String) : Note → Option Json
  | .event other payload => if other = label then some payload else none
  | _ => none

def eventsOf (label : String) (link : Link) : List Json := link.notes.filterMap (payload? label)

/-- The callback that notes under a label is registered once, for a selection on a channel. -/
def Tuned (label : String) (channel : Channel) (selection : Selection) (link : Link) : Prop :=
  ∀ method, (link.client.handlers.handlers method).filter (fun s => s.sink = .record label) =
    if method = channel.method then [⟨selection, .record label⟩] else []

/-- The parameters of the notifications on a channel that a beat brings. -/
def arriving (channel : Channel) (link : Link) (b : Beat) : List Json :=
  ((TransportEvent.allNotices link.client.pending (link.arrivals b)).filter
    fun notice => notice.method = channel.method).map (·.params)

/-- The parameters of the notifications on a channel that arrive in the course of beats. -/
def arrived (channel : Channel) (link : Link) : List Beat → List Json
  | [] => []
  | b :: rest => link.arriving channel b ++ (link.beat b).arrived channel rest

/-- What a subscriber is to hear of notifications on its channel. -/
def meant (selection : Selection) (topic : Topic) (arrived : List Json) : List ChannelEvent :=
  (arrived.filterMap topic.channel.decode?).filter fun event =>
    !selection.isParticular || selection.concerns topic event

theorem meant_append (selection : Selection) (topic : Topic) (first second : List Json) :
    meant selection topic (first ++ second) =
      meant selection topic first ++ meant selection topic second := by
  simp [meant]

theorem meant_eq_filterMap {selection : Selection} {topic : Topic}
    (h : selection.topic? = some topic) (arrived : List Json) :
    meant selection topic arrived = arrived.filterMap selection.accept? := by
  induction arrived with
  | nil => rfl
  | cons params rest ih =>
    have hrest : ((rest.filterMap topic.channel.decode?).filter fun event =>
        !selection.isParticular || selection.concerns topic event) =
          rest.filterMap selection.accept? := ih
    rw [meant, List.filterMap_cons, List.filterMap_cons, Selection.accept?_eq h]
    cases topic.channel.decode? params with
    | none => exact hrest
    | some event =>
      rw [List.filter_cons, hrest]
      simp only [Option.filter]
      split
      · rfl
      · rfl

theorem payload?_note? (label : String) (subscriber : Subscriber) (params : Json) :
    (subscriber.note? params).bind (payload? label) =
      if subscriber.sink = .record label then
        (subscriber.selection.accept? params).map (·.toJson)
      else none := by
  obtain ⟨selection, sink⟩ := subscriber
  unfold Subscriber.note?
  cases selection.accept? params with
  | none => simp
  | some event => cases sink <;> simp [payload?]

/-- Of what subscribers note of a notification, the events under the label of one of them. -/
theorem Tuned.payloads {label : String} {channel : Channel} {selection : Selection}
    (h : link.Tuned label channel selection) (notice : Notice) :
    (gotten Subscriber.note? link.client.handlers notice).filterMap (payload? label) =
      if notice.method = channel.method then
        ((selection.accept? notice.params).map (·.toJson)).toList
      else [] := by
  have hown : (gotten Subscriber.note? link.client.handlers notice).filterMap (payload? label) =
      ((link.client.handlers.handlers notice.method).filter
        (fun s => s.sink = .record label)).filterMap fun s =>
          (s.selection.accept? notice.params).map (·.toJson) := by
    rw [gotten, List.filterMap_filterMap, List.filterMap_filter]
    simp only [payload?_note?, decide_eq_true_eq]
  rw [hown, h]
  split
  · cases haccept : selection.accept? notice.params <;> simp [haccept]
  · rfl

theorem Tuned.beat {label : String} {selection : Selection} {topic : Topic}
    (hwired : link.Wired) (htopic : selection.topic? = some topic)
    (h : link.Tuned label topic.channel selection) (b : Beat) :
    (link.beat b).eventsOf label = link.eventsOf label ++
      (meant selection topic (link.arriving topic.channel b)).map (·.toJson) := by
  have hnoted : (link.noted (link.arrivals b)).filterMap (payload? label) =
      (meant selection topic (link.arriving topic.channel b)).map (·.toJson) := by
    rw [meant_eq_filterMap htopic, noted, yield, arriving]
    generalize TransportEvent.allNotices link.client.pending (link.arrivals b) = notices
    induction notices with
    | nil => rfl
    | cons notice rest ih =>
      rw [List.flatMap_cons, List.filterMap_append, h.payloads, ih, List.filter_cons]
      by_cases hmethod : notice.method = topic.channel.method
      · cases haccept : selection.accept? notice.params <;> simp [hmethod, haccept]
      · simp [hmethod]
  rw [eventsOf, hwired.beat_notes, List.filterMap_append, hnoted]
  rfl

/-- While a subscriber is registered, it hears of the notifications on its channel those that decode
and do not name another scope than its own, or another machine than the one it asked for, each once
and in the order of their arrival. A subscriber to memberships hears all that decode. -/
theorem subscribers_hear_own_scope (carrier : Carrier) (config : SessionConfig)
    (before during : List Beat) {label : String} {selection : Selection} {topic : Topic}
    (htopic : selection.topic? = some topic)
    (htuned : ∀ done rest, during = done ++ rest →
      (((withSession carrier config).play before).play done).Tuned label topic.channel selection) :
    let link := (withSession carrier config).play before
    (link.play during).eventsOf label = link.eventsOf label ++
      (((link.arrived topic.channel during).filterMap topic.channel.decode?).filter fun event =>
        !selection.isParticular || selection.concerns topic event).map (·.toJson) := by
  intro link
  have hwired : link.Wired := (wired_withSession carrier config).play before
  have hrun : ∀ (rest : List Beat) (link : Link), link.Wired →
      (∀ done more, rest = done ++ more → (link.play done).Tuned label topic.channel selection) →
      (link.play rest).eventsOf label = link.eventsOf label ++
        (meant selection topic (link.arrived topic.channel rest)).map (·.toJson) := by
    intro rest
    induction rest with
    | nil =>
      intro link _ _
      exact (List.append_nil _).symm
    | cons b rest ih =>
      intro link hwired htuned
      have hfirst := (htuned [] (b :: rest) rfl).beat hwired htopic b
      have hrest := ih (link.beat b) (hwired.beat b)
        fun done more heq => htuned (b :: done) more (by rw [heq]; rfl)
      rw [arrived, meant_append, List.map_append, ← List.append_assoc, ← hfirst]
      exact hrest
  exact hrun during link hwired htuned

/-! ### Two scopes -/

/-- A user subscribes, with events noted under a label. -/
def subscribes (label : String) (topic : Topic) (selection : Selection) : Beat :=
  .call (.subscribe topic ⟨selection, .record label⟩)

def notifies (notices : List Notice) : Beat :=
  .script fun t => (t, notices.map fun notice =>
    .received (.object [("method", .str notice.method), ("params", notice.params)]))

theorem Tuned.notified {label : String} {channel : Channel} {selection : Selection}
    (h : link.Tuned label channel selection) (notices : List Notice) :
    (link.play [notifies notices]).Tuned label channel selection := by
  intro method
  have hkept : (link.play [notifies notices]).client.handlers = link.client.handlers := by
    simp only [play, List.foldl_cons, List.foldl_nil, notifies]
    exact (leaves_script _ link).handlers
  rw [hkept]
  exact h method

/-- Two users subscribe to the machines of two workspaces. -/
def neighbours : List Beat :=
  [subscribes "a" ⟨.machineStatus, "w1"⟩ (.machineStatus ⟨"w1"⟩), .task 0,
    subscribes "b" ⟨.machineStatus, "w2"⟩ (.machineStatus ⟨"w2"⟩), .task 1]

/-- Machines of both workspaces start, and one of a workspace that is not named. -/
def machinesStart : Beat :=
  notifies
    [⟨"machine/statusChanged", .object [("machineName", .str "m"), ("workspaceId", .str "w2")]⟩,
      ⟨"machine/statusChanged", .object [("machineName", .str "m"), ("workspaceId", .str "w1")]⟩,
      ⟨"machine/statusChanged", .object [("machineName", .str "n")]⟩]

/-- The handlers of the two users. -/
theorem handlers_neighbours : (rehearsed.play neighbours).client.handlers.lists =
    [("machine/statusChanged",
      [(⟨1⟩, ⟨.machineStatus ⟨"w1"⟩, .record "a"⟩),
        (⟨2⟩, ⟨.machineStatus ⟨"w2"⟩, .record "b"⟩)])] := by
  decide +kernel

theorem tuned_neighbours :
    (rehearsed.play neighbours).Tuned "a" .machineStatus (.machineStatus ⟨"w1"⟩) := by
  intro method
  simp only [Registry.handlers, Registry.entries, handlers_neighbours]
  by_cases h : method = "machine/statusChanged"
  · subst h
    rfl
  · have hother : (method == "machine/statusChanged") = false := by simpa using h
    simp [List.lookup_cons, hother, Channel.method, h]

theorem neighbours_hear_own_scope :
    ((rehearsed.play neighbours).play [machinesStart]).eventsOf "a" =
      [.object [("machineName", .str "m"), ("workspaceId", .str "w1")],
        .object [("machineName", .str "n")]] := by
  have htuned : ∀ done rest, [machinesStart] = done ++ rest →
      ((rehearsed.play neighbours).play done).Tuned "a" .machineStatus
        (.machineStatus ⟨"w1"⟩) := by
    intro done rest heq
    rcases List.append_eq_singleton_iff.mp heq.symm with ⟨rfl, _⟩ | ⟨rfl, _⟩
    · exact tuned_neighbours
    · exact tuned_neighbours.notified _
  have htopic : Selection.topic? (.machineStatus ⟨"w1"⟩) = some ⟨.machineStatus, "w1"⟩ := rfl
  have h := subscribers_hear_own_scope (.scripted {}) { entrypoint := "wss://example/api" }
    neighbours [machinesStart] htopic htuned
  exact h.trans (by decide +kernel)

/-- A user subscribes to the own memberships, and the server confirms that. -/
def memberships : List Beat :=
  [subscribes "g" ⟨.organizationMembership, "u1"⟩ (.membership ⟨"u1"⟩), .task 5, confirms 2,
    .task 5]

/-- The membership of another user changes, and the subscriber hears of it. -/
theorem other_member_heard :
    let joined := .object [("member", .str "u2")]
    let link := (rehearsed.play connecting).play memberships
    let later := link.play [notifies [⟨"organization/membershipChanged", joined⟩]]
    link.session.phase = .connected ∧
      (Channel.organizationMembership.decode? joined).bind (·.scope?) = some "u2" ∧
      link.eventsOf "g" = [] ∧ later.eventsOf "g" = [joined] := by
  decide +kernel

end Link

end WorkspaceLink
