import WorkspaceLink.Proofs.Link.RegisteringCalls

/-!
# Subscribing without a trace

A call that subscribes may fail, since its request is answered with an error, cannot be sent or is
lost with the connection, and it may be dropped wherever it waits. Main statement: whatever others
do in between, such a call leaves no handler, no request that waits and no entry in the table, and
every other handler, request and entry is what the others alone would have left if the request had
been sent by nobody. When a call that makes a bid succeeds, its handler was registered before the
request was sent and is registered from then on until it is taken out, so whatever arrives meanwhile
reaches its subscriber.

The run is compared with that of the others alone, turn by turn: `Prospect`. What happens to the
handler is followed in `Holding`.
-/
namespace WorkspaceLink.Link

variable {margin : Margin} {link image : Link} {id number : Nat} {method : String}
  {handler : HandlerId} {call : Call} {bid : Bid} {subscriber : Subscriber} {b : Beat}

/-! ### Links in order -/

/-- Tasks, outcomes, handlers and what the waiter remembers are in order, as in every run. -/
structure InOrder (link : Link) : Prop where
  enrolled : link.Enrolled
  concluded : link.Concluded
  filed : Filed link link
  recalled : link.Recalled
  wired : link.Wired

theorem InOrder.beat (h : link.InOrder) (b : Beat) : (link.beat b).InOrder where
  enrolled := (keeps_beat link b).enrolled h.enrolled
  concluded := (h.concluded.beat h.enrolled b).concluded
  filed := (h.filed.beat b).refl
  recalled := h.recalled.beat h.wired h.filed b
  wired := h.wired.beat b

theorem InOrder.play (h : link.InOrder) (beats : List Beat) : (link.play beats).InOrder := by
  induction beats generalizing link with
  | nil => exact h
  | cons b rest ih => exact ih (h.beat b)

theorem inOrder_play (carrier : Carrier) (config : SessionConfig) (beats : List Beat) :
    ((withSession carrier config).play beats).InOrder where
  enrolled := enrolled_play carrier config beats
  concluded := concluded_play carrier config beats
  filed := ((filed_withSession carrier config).play beats).refl
  recalled := recalled_play carrier config beats
  wired := (wired_withSession carrier config).play beats

theorem Succeeds.beat (h : link.Succeeds id) (hlink : link.InOrder) (b : Beat) :
    (link.beat b).Succeeds id := by
  obtain ⟨outcome, hmem, hsuccess⟩ := h
  have hprefix := (hlink.concluded.beat hlink.enrolled b).finished
  exact ⟨outcome, hprefix.subset hmem, hsuccess⟩

theorem Succeeds.play (h : link.Succeeds id) (hlink : link.InOrder) (beats : List Beat) :
    (link.play beats).Succeeds id := by
  induction beats generalizing link with
  | nil => exact h
  | cons b rest ih => exact ih (h.beat hlink b) (hlink.beat b)

theorem nextTask_le_play (link : Link) (beats : List Beat) :
    link.nextTask ≤ (link.play beats).nextTask := by
  induction beats generalizing link with
  | nil => exact Nat.le_refl _
  | cons b rest ih => exact Nat.le_trans (keeps_beat link b).nextTask_le (ih _)

/-! ### Calls with their bids -/

/-- A call that waits with its bid is ready for its turn. -/
theorem Waits.poised (h : link.Waits id number method handler) (hlink : link.InOrder) :
    ∃ stage, link.task? id = some (.call stage) ∧ Poised link id number method handler stage := by
  obtain ⟨stage, htask, hbids⟩ := h.stands
  have hcarries : link.Carries id handler := ⟨stage, mem_of_task? htask, carried?_of_bids hbids⟩
  have hhand := hlink.filed.inHand hcarries
  refine ⟨stage, htask, hbids, ⟨_, htask⟩, hlink.concluded, hlink.filed.table, hlink.filed.registry,
    h.only, hhand.unlisted, hhand.uncarried, ?_⟩
  rintro own subscription tracking rfl
  exact hlink.recalled.replaces (mem_of_task? htask)

/-- A call that has just made its bid looks for the answer at once. -/
theorem InOrder.poised_bidding (h : link.InOrder)
    (htask : link.task? id = some (.call (.fresh call))) (hbid : call.bid? = some bid)
    (hmust : link.Bids call) :
    ∃ stage, Poised (link.bidding bid) id link.client.nextId bid.method
        ⟨link.client.handlers.next⟩ stage ∧
      link.beat (.task id) = (link.bidding bid).runCall id stage := by
  obtain ⟨stage, hbids, hbeat, hreplaces⟩ := beat_bid htask hbid hmust
  let registered := link.register bid
  have hleaves : Leaves registered (link.bidding bid) := leaves_request _ _ _
  have hhand : InHand link (registered.endTask id) id ⟨link.client.handlers.next⟩ :=
    (h.filed.inHand_addHandler id bid.method bid.subscriber).leaves (leaves_endTask id _)
  have hlt : id < registered.nextTask := h.enrolled _ (mem_of_task? htask)
  have hsame : (link.bidding bid).task? id = link.task? id :=
    (spares_request none bid.request bid.params registered).tasks id hlt nofun
  have hconcludes : Concludes none registered registered :=
    ⟨List.prefix_refl _, h.concluded, nofun⟩
  have hattached : registered.Attached := h.wired.attached.congr rfl
  refine ⟨stage, ⟨hbids, ⟨_, hsame.trans htask⟩, ?_, ?_, ?_, ?_, ?_, ?_, ?_⟩, hbeat⟩
  · exact ((keptByTransport_concludes none none registered).request _ _ hconcludes).concluded
  · exact hleaves.table ▸ h.filed.table
  · exact hleaves.handlers ▸ h.filed.registry.add bid.method bid.subscriber
  · intro other hcontains
    rw [hleaves.handlers] at hcontains
    rcases (Registry.contains_add link.client.handlers bid.method bid.subscriber).mp hcontains
      with hold | hnew
    · exact absurd (h.filed.registered_lt other _ hold) (Nat.lt_irrefl _)
    · exact hnew.1
  · exact hleaves.table ▸ hhand.unlisted
  · exact fun other hc => hhand.uncarried other ((hleaves.endTask id).carries hc)
  · intro own subscription tracking heq workspace extra htracking hextra
    have hretains := (hattached.retains_request bid.request bid.params).1
    exact hreplaces own subscription tracking heq workspace extra htracking
      (hretains.remembers hextra)

/-- In a beat of others the call waits on. -/
theorem Waits.beat (h : link.Waits id number method handler) (hlink : link.InOrder)
    (hb : concerns? b ≠ some id) : (link.beat b).Waits id number method handler := by
  obtain ⟨stage, htask, hbids⟩ := h.stands
  have hmem := mem_of_task? htask
  have hcarries : link.Carries id handler := ⟨stage, hmem, carried?_of_bids hbids⟩
  refine ⟨⟨stage, ?_, hbids⟩, fun other hcontains => ?_⟩
  · rw [(keeps_beat link b).tasks id (hlink.enrolled _ hmem) hb, htask]
  · rcases (hlink.filed.beat b).registered_from other handler hcontains with hold | hnew
    · exact h.only other hold
    · exact absurd (hlink.filed.carried_lt id handler hcarries) (Nat.not_lt_of_le hnew)

/-- A call that is over stays so, and its handler does not come back. -/
theorem Gone.beat (h : link.Gone id handler) (hlink : link.InOrder) (hid : id < link.nextTask)
    (hlt : handler.number < link.client.handlers.next) (b : Beat) :
    (link.beat b).Gone id handler := by
  by_cases hb : concerns? b = some id
  · rw [beat_of_absent h.absent hb]
    exact h
  · have hkeeps := keeps_beat link b
    have hfiled := hlink.filed.beat b
    refine ⟨?_, ?_, fun topic hlists => ?_, fun other hcarries => ?_⟩
    · rw [hkeeps.tasks id hid hb]
      exact h.absent
    · rintro ⟨outcome, hmem, hsuccess⟩
      exact h.failed ⟨outcome, (hkeeps.finished _ hmem).resolve_right hb, hsuccess⟩
    · rcases hfiled.listed_from topic handler hlists with hold | ⟨other, hold⟩ | hnew
      · exact h.unlisted topic hold
      · exact h.uncarried other hold
      · exact absurd hlt (Nat.not_lt_of_le hnew)
    · rcases hfiled.carried_from other handler hcarries with hold | hnew
      · exact h.uncarried other hold
      · exact absurd hlt (Nat.not_lt_of_le hnew)

theorem Gone.play (h : link.Gone id handler) (hlink : link.InOrder) (hid : id < link.nextTask)
    (hlt : handler.number < link.client.handlers.next) (beats : List Beat) :
    (link.play beats).Gone id handler := by
  induction beats generalizing link with
  | nil => exact h
  | cons b rest ih =>
    exact ih (h.beat hlink hid hlt b) (hlink.beat b)
      (Nat.lt_of_lt_of_le hid (keeps_beat link b).nextTask_le)
      (Nat.lt_of_lt_of_le hlt (hlink.filed.beat b).next_le)

/-! ### The others alone -/

/-- The numbers of a request and of a handler are used up. -/
def skip (link : Link) : Link :=
  { link with client := { link.client with
      nextId := link.client.nextId + 1
      handlers := { link.client.handlers with next := link.client.handlers.next + 1 } } }

/-- The request of a bid is sent, but no call waits for its answer and no handler is registered. -/
def unattended (id : Nat) (bid : Bid) (link : Link) : Link :=
  (link.skip.send
    (Message.request (Client.idText link.client.nextId) bid.request bid.params)).endTask id

/-- The beats that do not concern a task. -/
def others (id : Nat) (beats : List Beat) : List Beat := beats.filter fun b => concerns? b ≠ some id

theorem Beat.widen_eq (b : Beat) (nextTask : Nat) (margin : Margin) :
    b.widen nextTask margin = { margin with tasks := (b.widen nextTask margin).tasks } := by
  cases b <;> rfl

theorem widen_of_concerned (hb : concerns? b = some id) (nextTask : Nat) (margin : Margin) :
    b.widen nextTask margin = margin := by
  cases b with
  | waitForStatus workspace status => cases hb
  | _ => rfl

theorem mem_widen (h : id ∈ margin.tasks) (b : Beat) (nextTask : Nat) :
    id ∈ (b.widen nextTask margin).tasks := by
  cases b with
  | waitForStatus workspace status => exact List.mem_cons_of_mem _ h
  | _ => exact h

/-- A link and what the others alone have made of it, apart from the call, its request and its
handler. -/
structure Abreast (margin : Margin) (id : Nat) (link image : Link) : Prop where
  own : id ∈ margin.tasks
  lt_next : id < link.nextTask
  mirrors : Mirrors margin link image
  idle : link.Idle margin (some id)
  image_idle : image.Idle margin (some id)
  image_enrolled : image.Enrolled

theorem Abreast.beat (h : Abreast margin id link image) (hlink : link.InOrder)
    (hb : concerns? b ≠ some id) :
    Abreast (b.widen link.nextTask margin) id (link.beat b) (image.beat b) where
  own := mem_widen h.own b _
  lt_next := Nat.lt_of_lt_of_le h.lt_next (keeps_beat link b).nextTask_le
  mirrors := h.mirrors.beat h.idle h.image_idle (by rintro _ ⟨⟩; exact hb)
  idle := h.idle.beat hlink.enrolled b
  image_idle := h.mirrors.nextTask ▸ h.image_idle.beat h.image_enrolled b
  image_enrolled := (keeps_beat image b).enrolled h.image_enrolled

/-- The call has its turn or is dropped, and the others do nothing. -/
theorem Abreast.turn (h : Abreast margin id link image) (hlink : link.InOrder)
    (hb : concerns? b = some id) (hmirrors : Mirrors margin (link.beat b) image) :
    Abreast margin id (link.beat b) image where
  own := h.own
  lt_next := Nat.lt_of_lt_of_le h.lt_next (keeps_beat link b).nextTask_le
  mirrors := hmirrors
  idle := by
    have hidle := h.idle.beat hlink.enrolled b
    rw [widen_of_concerned hb] at hidle
    exact hidle
  image_idle := h.image_idle
  image_enrolled := h.image_enrolled

/-- How a call that bids gets on beside the others: it waits, or it is over without success and
without a trace, or it has succeeded. -/
inductive Prospect (id number : Nat) (method : String) (handler : HandlerId) (link image : Link) :
    Prop where
  | waits {tasks : List Nat} (abreast : Abreast ⟨tasks, number, handler⟩ id link image)
    (waits : link.Waits id number method handler)
  | gone {tasks : List Nat} (abreast : Abreast ⟨tasks, number, handler⟩ id link image)
    (gone : link.Gone id handler) (traceless : Mirrors ⟨tasks, number, handler⟩ link link)
  | succeeded (succeeds : link.Succeeds id)

/-- The others do something. -/
theorem Prospect.other (h : Prospect id number method handler link image) (hlink : link.InOrder)
    (hb : concerns? b ≠ some id) :
    Prospect id number method handler (link.beat b) (image.beat b) := by
  cases h with
  | waits abreast waits =>
    have hbeat := abreast.beat hlink hb
    rw [Beat.widen_eq] at hbeat
    exact .waits hbeat (waits.beat hlink hb)
  | gone abreast gone traceless =>
    have hbeat := abreast.beat hlink hb
    have htraceless := traceless.beat abreast.idle abreast.idle (by rintro _ ⟨⟩; exact hb)
    have hlt : handler.number < link.client.handlers.next := traceless.client.handler_lt
    rw [Beat.widen_eq] at hbeat htraceless
    exact .gone hbeat (gone.beat hlink abreast.lt_next hlt b) htraceless
  | succeeded succeeds => exact .succeeded (succeeds.beat hlink b)

/-- The call has its turn or is dropped. -/
theorem Prospect.turn (h : Prospect id number method handler link image) (hlink : link.InOrder)
    (hb : concerns? b = some id) : Prospect id number method handler (link.beat b) image := by
  cases h with
  | waits abreast waits =>
    obtain ⟨stage, htask, hpoised⟩ := waits.poised hlink
    rcases beat_of_call htask hb with heq | heq | heq
    · have hturn := hpoised.turn abreast.mirrors abreast.own
      rw [← heq] at hturn
      rcases hturn with ⟨hmirrors, hwaits | ⟨hgone, htraceless⟩⟩ | hsucceeds
      · exact .waits (abreast.turn hlink hb hmirrors) hwaits
      · exact .gone (abreast.turn hlink hb hmirrors) hgone htraceless
      · exact .succeeded hsucceeds
    · have hdrop := hpoised.drop abreast.mirrors abreast.own
      rw [← heq] at hdrop
      obtain ⟨hmirrors, hgone, htraceless⟩ := hdrop
      exact .gone (abreast.turn hlink hb hmirrors) hgone htraceless
    · rw [heq]
      exact .waits abreast waits
  | gone abreast gone traceless =>
    rw [beat_of_absent gone.absent hb]
    exact .gone abreast gone traceless
  | succeeded succeeds => exact .succeeded (succeeds.beat hlink b)

theorem Prospect.play (h : Prospect id number method handler link image) (hlink : link.InOrder)
    (beats : List Beat) :
    Prospect id number method handler (link.play beats) (image.play (others id beats)) := by
  induction beats generalizing link image with
  | nil => exact h
  | cons b rest ih =>
    by_cases hb : concerns? b = some id
    · rw [others, List.filter_cons_of_neg (by simpa using hb)]
      exact ih (h.turn hlink hb) (hlink.beat b)
    · rw [others, List.filter_cons_of_pos (by simpa using hb)]
      exact ih (h.other hlink hb) (hlink.beat b)

/-! ### Where the runs part -/

/-- A link is its own image, apart from calls that wait for a status. -/
theorem mirrors_self_play (carrier : Carrier) (config : SessionConfig) (beats : List Beat) :
    let link := (withSession carrier config).play beats
    ∃ margin, Mirrors margin link link ∧ link.Idle margin none := by
  induction beats using List.reverseRecOn with
  | nil =>
    have hclient : Client.Mirrors ⟨[], 0, ⟨0⟩⟩ (withSession carrier config).client
        (withSession carrier config).client :=
      ⟨rfl, rfl, rfl, fun _ => rfl, Grouped.sound_nil, Grouped.sound_nil,
        fun _ hmem => absurd hmem List.not_mem_nil, Nat.zero_lt_one, Nat.zero_lt_one⟩
    refine ⟨⟨[], 0, ⟨0⟩⟩, ⟨rfl, hclient, fun _ hmem => ?_⟩, fun _ hk => ?_⟩
    · exact absurd hmem List.not_mem_nil
    · exact absurd hk List.not_mem_nil
  | append_singleton beats b ih =>
    intro link
    obtain ⟨margin, hmirrors, hidle⟩ := ih
    rw [show link = _ from play_snoc _ beats b]
    exact ⟨_, hmirrors.beat hidle hidle nofun, hidle.beat (enrolled_play carrier config beats) b⟩

/-- The call makes its bid; its number, request and handler are in the margin from now on. -/
theorem Mirrors.fork (h : Mirrors margin link link) (hlink : link.InOrder) (id : Nat) (bid : Bid) :
    Mirrors ⟨id :: margin.tasks, link.client.nextId, ⟨link.client.handlers.next⟩⟩
      (link.bidding bid) (link.unattended id bid) := by
  let wider : Margin := ⟨id :: margin.tasks, link.client.nextId, ⟨link.client.handlers.next⟩⟩
  have hclient : Client.Mirrors wider (link.register bid).client.issue.2 link.skip.client := by
    have hwaiting := h.client.waiting_lt
    refine ⟨rfl, ?_, rfl, fun method => ?_, h.client.sound.add bid.method bid.subscriber,
      h.client.sound, fun number hmem => Nat.lt_succ_of_lt (hwaiting number hmem),
      Nat.lt_succ_self _, Nat.lt_succ_self _⟩
    · have hkept : link.client.pending.filter (· ≠ link.client.nextId) = link.client.pending := by
        refine List.filter_eq_self.mpr fun number hmem => ?_
        simpa using Nat.ne_of_lt (hwaiting number hmem)
      change (link.client.pending ++ [link.client.nextId]).filter _ = link.client.pending
      rw [List.filter_append, hkept]
      simp [wider]
    · have hkept : (link.client.handlers.entries method).filter
          (fun entry => entry.1 ≠ ⟨link.client.handlers.next⟩) =
            link.client.handlers.entries method := by
        refine List.filter_eq_self.mpr fun entry hmem => ?_
        have hlt := hlink.filed.registered_lt method entry.1
          (Registry.contains_iff.mpr ⟨entry, hmem, rfl⟩)
        simpa using HandlerId.ne_of_lt hlt
      have hadded := Registry.entries_add link.client.handlers bid.method method bid.subscriber
      change ((link.client.handlers.add bid.method bid.subscriber).2.entries method).filter _ = _
      rw [hadded]
      split
      · have hnew : [((⟨link.client.handlers.next⟩ : HandlerId), bid.subscriber)].filter
            (fun entry => entry.1 ≠ ⟨link.client.handlers.next⟩) = [] := by simp
        rw [List.filter_append, hkept, hnew, List.append_nil]
        rfl
      · exact hkept
  have hparted : Mirrors wider
      { link.register bid with client := (link.register bid).client.issue.2 } link.skip := by
    refine ⟨rfl, hclient, fun entry hmem => ?_⟩
    have hold : entry ∈ (link.outline margin).tasks := by
      obtain ⟨hmem, hout⟩ := List.mem_filter.mp hmem
      refine List.mem_filter.mpr ⟨hmem, ?_⟩
      have hwider : entry.1 ∉ id :: margin.tasks := by simpa [wider] using hout
      simpa using fun hmem => hwider (List.mem_cons_of_mem _ hmem)
    obtain ⟨hstatus, hrequest⟩ := h.permits entry hold
    refine ⟨hstatus, fun number hasks => ?_⟩
    obtain ⟨_, hlt⟩ := hrequest number hasks
    exact ⟨Nat.ne_of_lt hlt, Nat.lt_succ_of_lt hlt⟩
  have hsent := hparted.send
    (Message.request (Client.idText link.client.nextId) bid.request bid.params)
  exact hsent.congr ⟨rfl, rfl⟩ ⟨endTask_outline_own (List.mem_cons_self) _, rfl⟩

/-- From its first turn on, a call that makes a bid is compared with the others alone. -/
theorem InOrder.prospect (h : link.InOrder) (hself : Mirrors margin link link)
    (hidle : link.Idle margin none) (htask : link.task? id = some (.call (.fresh call)))
    (hbid : call.bid? = some bid) (hmust : link.Bids call) :
    Prospect id link.client.nextId bid.method ⟨link.client.handlers.next⟩ (link.beat (.task id))
      (link.unattended id bid) := by
  obtain ⟨stage, hpoised, hbeat⟩ := h.poised_bidding htask hbid hmust
  let wider : Margin := ⟨id :: margin.tasks, link.client.nextId, ⟨link.client.handlers.next⟩⟩
  have hlt : id < link.nextTask := h.enrolled _ (mem_of_task? htask)
  have hidle' : link.Idle wider (some id) := by
    intro k hk hne
    have hold := (List.mem_cons.mp hk).resolve_left fun heq => hne (congrArg some heq.symm)
    exact hidle k hold nofun
  have hkeeps : Keeps (some id) link (link.unattended id bid) := by
    have hskipped : Spares (some id) link link.skip :=
      .of_same rfl ⟨_, rfl⟩ rfl (List.prefix_refl _) rfl rfl rfl
    have hsent := (keptByTransport_spares (some id) link).send
      (Message.request (Client.idText link.client.nextId) bid.request bid.params) hskipped
    exact hsent.toKeeps.trans (spares_endTask id _).toKeeps
  have himage : (link.unattended id bid).Idle wider (some id) := by
    intro k hk hne
    obtain ⟨hk, hwaits⟩ := hidle' k hk hne
    refine ⟨Nat.lt_of_lt_of_le hk hkeeps.nextTask_le, ?_⟩
    rw [hkeeps.tasks k hk hne]
    exact hwaits
  have hbegun : (link.beat (.task id)).Idle wider (some id) := hidle'.beat h.enrolled (.task id)
  have habreast : Mirrors wider (link.beat (.task id)) (link.unattended id bid) →
      Abreast wider id (link.beat (.task id)) (link.unattended id bid) := fun hmirrors =>
    ⟨List.mem_cons_self, Nat.lt_of_lt_of_le hlt (keeps_beat link (.task id)).nextTask_le, hmirrors,
      hbegun, himage, hkeeps.enrolled h.enrolled⟩
  have hturn := hpoised.turn (hself.fork h id bid) List.mem_cons_self
  rw [← hbeat] at hturn
  rcases hturn with ⟨hmirrors, hwaits | ⟨hgone, htraceless⟩⟩ | hsucceeds
  · exact .waits (habreast hmirrors) hwaits
  · exact .gone (habreast hmirrors) hgone htraceless
  · exact .succeeded hsucceeds

/-! ### Without a trace -/

/-- Nobody waits for the request, and the handler is neither registered nor listed. -/
structure NoTrace (link : Link) (number : Nat) (handler : HandlerId) : Prop where
  not_waiting : number ∉ link.client.pending
  unregistered : ∀ method, ¬ link.client.handlers.contains method handler
  unlisted : ∀ topic, ¬ link.Lists topic handler

/-- The same handlers are registered, the same requests wait, and the session is the same with its
table. -/
structure SameBooks (first second : Link) : Prop where
  entries : ∀ method, first.client.handlers.entries method = second.client.handlers.entries method
  pending : first.client.pending = second.client.pending
  session : first.session = second.session

theorem Gone.noTrace (h : link.Gone id margin.handler) (htraceless : Mirrors margin link link) :
    link.NoTrace margin.number margin.handler where
  not_waiting hmem := (htraceless.client.mem_pending.mp hmem).2 rfl
  unregistered method hcontains := by
    obtain ⟨entry, hmem, heq⟩ := Registry.contains_iff.mp hcontains
    have hkept := List.filter_eq_self.mp (htraceless.client.entries method) entry hmem
    simp [heq] at hkept
  unlisted := h.unlisted

/-- What mirrors itself has the books of its image. -/
theorem Mirrors.sameBooks (h : Mirrors margin link image) (htraceless : Mirrors margin link link) :
    SameBooks link image where
  entries method := (htraceless.client.entries method).symm.trans (h.client.entries method)
  pending := htraceless.client.pending.symm.trans h.client.pending
  session := h.session

/-! ### The handler of a bid -/

/-- In some beat of a run the handler is taken out. -/
def Ousted (start : Link) (beats : List Beat) (method : String) (handler : HandlerId) : Prop :=
  ∃ before b after, beats = before ++ b :: after ∧ (start.play before).TakesOut b method handler

/-- What becomes of the handler of a bid: it is registered while the call waits and after it has
succeeded, unless the call is over without success. -/
inductive Holding (id number : Nat) (method : String) (entry : HandlerId × Subscriber)
    (link : Link) : Prop where
  | waits (waits : link.Waits id number method entry.1) (endures : Endures method entry link)
  | succeeded (absent : link.task? id = none) (uncarried : ∀ other, ¬ link.Carries other entry.1)
    (endures : Endures method entry link)
  | gone (gone : link.Gone id entry.1) (lt_next : entry.1.number < link.client.handlers.next)

section

variable {entry : HandlerId × Subscriber}

/-- What the call held is undone, and no number is given out again. -/
theorem next_undo {stage : Stage} (h : stage.Bids number method handler) (link : Link) :
    (link.undo stage).client.handlers.next = link.client.handlers.next := by
  rw [undo_bids h]
  rfl

/-- A turn of the call. -/
theorem Poised.holding {stage : Stage} (h : Poised link id number method entry.1 stage)
    (he : Endures method entry link) :
    Holding id number method entry (link.runCall id stage) := by
  rcases h.endures he with ⟨hendures, hwaits | hfulfils⟩ | ⟨error, heq⟩
  · exact .waits hwaits hendures
  · exact .succeeded hfulfils.absent (fun other => hfulfils.uncarried (h.uncarried other)) hendures
  · rw [heq]
    exact .gone (h.gone_finish error) ((next_undo h.bids link).symm ▸ he.lt_next)

theorem Holding.beat (h : Holding id number method entry link) (hlink : link.InOrder)
    (hid : id < link.nextTask) (hkept : ¬ link.TakesOut b method entry.1) :
    Holding id number method entry (link.beat b) := by
  cases h with
  | waits waits endures =>
    obtain ⟨stage, htask, hpoised⟩ := waits.poised hlink
    by_cases hb : concerns? b = some id
    · rcases beat_of_call htask hb with heq | heq | heq
      · rw [heq]
        exact hpoised.holding endures
      · rw [heq]
        exact .gone hpoised.gone_endTask ((next_undo hpoised.bids link).symm ▸ endures.lt_next)
      · rw [heq]
        exact .waits waits endures
    · have hcarries : link.Carries id entry.1 :=
        ⟨stage, mem_of_task? htask, carried?_of_bids hpoised.bids⟩
      refine .waits (waits.beat hlink hb) (endures.beat hlink.wired.attached hkept ?_)
      intro other hother hc
      exact hb (hlink.filed.carried_once _ _ _ hc hcarries ▸ hother)
  | succeeded absent uncarried endures =>
    by_cases hb : concerns? b = some id
    · rw [beat_of_absent absent hb]
      exact .succeeded absent uncarried endures
    · refine .succeeded ?_ (fun other hc => ?_)
        (endures.beat hlink.wired.attached hkept fun other _ => uncarried other)
      · rw [(keeps_beat link b).tasks id hid hb]
        exact absent
      · rcases (hlink.filed.beat b).carried_from other entry.1 hc with hold | hnew
        · exact uncarried other hold
        · exact absurd endures.lt_next (Nat.not_lt_of_le hnew)
  | gone gone lt_next =>
    exact .gone (gone.beat hlink hid lt_next b)
      (Nat.lt_of_lt_of_le lt_next (hlink.filed.beat b).next_le)

theorem Holding.play (h : Holding id number method entry link) (hlink : link.InOrder)
    (hid : id < link.nextTask) (beats : List Beat) (hkept : ¬ link.Ousted beats method entry.1) :
    Holding id number method entry (link.play beats) := by
  induction beats generalizing link with
  | nil => exact h
  | cons b rest ih =>
    have hfirst : ¬ link.TakesOut b method entry.1 := fun htakes => hkept ⟨[], b, rest, rfl, htakes⟩
    refine ih (h.beat hlink hid hfirst) (hlink.beat b)
      (Nat.lt_of_lt_of_le hid (keeps_beat link b).nextTask_le) ?_
    rintro ⟨before, b', after, rfl, htakes⟩
    exact hkept ⟨b :: before, b', after, rfl, htakes⟩

/-- Of a call that comes to succeed the handler is registered. -/
theorem Holding.registered (h : Holding id number method entry link) (hlink : link.InOrder)
    (hid : id < link.nextTask) {more : List Beat} (hsucceeds : (link.play more).Succeeds id) :
    Endures method entry link := by
  cases h with
  | waits waits endures => exact endures
  | succeeded absent uncarried endures => exact endures
  | gone gone lt_next => exact absurd hsucceeds (gone.play hlink hid lt_next more).failed

end

/-- A bid is registered. -/
theorem Filed.endures_register (h : Filed link link) (bid : Bid) :
    Endures bid.method (⟨link.client.handlers.next⟩, bid.subscriber) (link.register bid) where
  registered := by
    have hadded := Registry.entries_add link.client.handlers bid.method bid.method bid.subscriber
    refine hadded ▸ ?_
    rw [if_pos rfl]
    exact List.mem_append_right _ (List.mem_singleton.mpr rfl)
  sound := h.registry.add bid.method bid.subscriber
  lt_next := Nat.lt_succ_self _

theorem InOrder.holding (h : link.InOrder) (htask : link.task? id = some (.call (.fresh call)))
    (hbid : call.bid? = some bid) (hmust : link.Bids call) :
    Holding id link.client.nextId bid.method (⟨link.client.handlers.next⟩, bid.subscriber)
      (link.beat (.task id)) := by
  obtain ⟨stage, hpoised, hbeat⟩ := h.poised_bidding htask hbid hmust
  have hmade := (h.filed.endures_register bid).request bid.request bid.params
  rw [hbeat]
  exact hpoised.holding hmade

/-- A subscriber gets each notification for the method that arrives in the beat: what it makes of it
is noted, or the waiter learns it. -/
def Delivers (link : Link) (b : Beat) (method : String) (subscriber : Subscriber) : Prop :=
  ∀ notice ∈ TransportEvent.allNotices link.client.pending (link.arrivals b),
    notice.method = method →
      (∃ notes, (link.beat b).notes = link.notes ++ notes ∧
        ∀ note, subscriber.note? notice.params = some note → note ∈ notes) ∧
      ∃ learned : List WorkspaceStatusEvent, ((link.beat b).waiter, (link.beat b).statuses) =
          learned.foldl StatusWaiter.learn (link.waiter, link.statuses) ∧
        ∀ event, subscriber.heeds? notice.params = some event → event ∈ learned

theorem Wired.delivers (h : link.Wired)
    (hregistered : (handler, subscriber) ∈ link.client.handlers.entries method) (b : Beat) :
    link.Delivers b method subscriber := by
  rintro notice hnotice rfl
  have hmem : subscriber ∈ link.client.handlers.handlers notice.method :=
    List.mem_map.mpr ⟨_, hregistered, rfl⟩
  have hsome : link.arrivals b ≠ [] := by
    intro hnone
    rw [hnone] at hnotice
    exact absurd hnotice List.not_mem_nil
  refine ⟨⟨_, h.beat_notes b, fun note hnote => ?_⟩, _, h.beat_waiter hsome, fun event hevent => ?_⟩
  · exact List.mem_flatMap.mpr ⟨notice, hnotice, List.mem_filterMap.mpr ⟨subscriber, hmem, hnote⟩⟩
  · exact List.mem_flatMap.mpr ⟨notice, hnotice, List.mem_filterMap.mpr ⟨subscriber, hmem, hevent⟩⟩

/-! ### Calls that subscribe -/

/-- Calls that subscribe. One that is dropped before its first turn changes nothing. From that turn
on, others may do whatever they do: if the call fails or is dropped, its request does not wait, its
handler is neither registered nor listed, and all other handlers and requests, and the session with
its table, are what the others alone have made of them, from where the request was sent by nobody.
If the call makes a bid, it registers the handler before the request is sent; and if it succeeds in
the end, the handler is registered all the time until it is taken out, so the subscriber gets what
arrives. -/
theorem subscribing_leaves_no_trace (carrier : Carrier) (config : SessionConfig)
    (before : List Beat) (id : Nat) (call : Call) (bid : Bid) :
    let link := (withSession carrier config).play before
    let number := link.client.nextId
    let handler : HandlerId := ⟨link.client.handlers.next⟩
    let begun := link.beat (.task id)
    link.task? id = some (.call (.fresh call)) → call.bid? = some bid →
      link.beat (.abandon id) = link.endTask id ∧
      (∀ beats, let after := begun.play beats
        after.task? id = none → ¬ after.Succeeds id →
          after.NoTrace number handler ∧
            SameBooks after ((link.unattended id bid).play (others id beats))) ∧
      (link.Bids call →
        let registered := link.register bid
        ((handler, bid.subscriber) ∈ registered.client.handlers.entries bid.method ∧
          registered.carrier = link.carrier ∧
          ∃ stage : Stage, stage.Bids number bid.method handler ∧
            begun = (registered.request bid.request bid.params).2.runCall id stage) ∧
        ∀ beats more, ((begun.play beats).play more).Succeeds id →
          ¬ begun.Ousted beats bid.method handler →
            (handler, bid.subscriber) ∈ (begun.play beats).client.handlers.entries bid.method ∧
              ∀ b, (begun.play beats).Delivers b bid.method bid.subscriber) := by
  intro link number handler begun htask hbid
  have hlink : link.InOrder := inOrder_play carrier config before
  have hbegun : begun.InOrder := hlink.beat (.task id)
  refine ⟨?_, ?_, ?_⟩
  · simp only [Link.beat, Link.abandon, htask, Link.undo]
  · intro beats after habsent hfailed
    by_cases hmust : link.Bids call
    · obtain ⟨margin, hself, hidle⟩ := mirrors_self_play carrier config before
      have hprospect := (hlink.prospect hself hidle htask hbid hmust).play hbegun beats
      cases hprospect with
      | waits abreast waits =>
        obtain ⟨stage, hstands, _⟩ := waits.stands
        rw [show (begun.play beats).task? id = none from habsent] at hstands
        cases hstands
      | gone abreast gone traceless =>
        exact ⟨gone.noTrace traceless, abreast.mirrors.sameBooks traceless⟩
      | succeeded succeeds => exact absurd succeeds hfailed
    · have hsucceeds := succeeds_of_not_bids hlink.filed.table htask hbid hmust
      exact absurd (hsucceeds.play hbegun beats) hfailed
  · intro hmust registered
    obtain ⟨stage, hpoised, hbeat⟩ := hlink.poised_bidding htask hbid hmust
    have hregistered := (hlink.filed.endures_register bid).registered
    refine ⟨⟨hregistered, rfl, stage, hpoised.bids, hbeat⟩, fun beats more hsucceeds hkept => ?_⟩
    have hid : id < begun.nextTask := Nat.lt_of_lt_of_le (hlink.enrolled _ (mem_of_task? htask))
      (keeps_beat link (.task id)).nextTask_le
    have hholding := (hlink.holding htask hbid hmust).play hbegun hid beats hkept
    have hafter : (begun.play beats).InOrder := hbegun.play beats
    have hstays := Nat.lt_of_lt_of_le hid (nextTask_le_play begun beats)
    have hendures := hholding.registered hafter hstays hsucceeds
    exact ⟨hendures.registered, hafter.wired.delivers hendures.registered⟩

/-- The server answers a request with an error. -/
def refuses (number : Nat) : Beat :=
  .script fun t => (t, [.received (Message.errorResponse (Client.idText number) 7 "no such topic")])

/-- Two calls follow a method. -/
def rivals : List Beat :=
  [.script Scripted.opens, .call (.follow "news" ⟨.everything, .record "a"⟩ "follow" none),
    .call (.follow "news" ⟨.everything, .record "b"⟩ "follow" none)]

/-- The first call makes its bid. If the second one makes its own and the first is refused, only the
handler of the second is left; if the first is confirmed, its handler is there before its next
turn. -/
theorem subscribing_refused_and_confirmed :
    let begun := (rehearsed.play rivals).beat (.task 0)
    let refused := begun.play [.task 1, refuses 1, .task 0]
    let confirmed := begun.play [confirms 1]
    refused.client.handlers.entries "news" = [(⟨2⟩, ⟨.everything, .record "b"⟩)] ∧
      refused.NoTrace 1 ⟨1⟩ ∧
      (⟨1⟩, ⟨.everything, .record "a"⟩) ∈ confirmed.client.handlers.entries "news" ∧
      ∀ b, confirmed.Delivers b "news" ⟨.everything, .record "a"⟩ := by
  intro begun refused confirmed
  obtain ⟨_, hfails, hsucceeds⟩ := subscribing_leaves_no_trace (.scripted {})
    { entrypoint := "wss://example/api" } rivals 0
    (.follow "news" ⟨.everything, .record "a"⟩ "follow" none) _ rfl rfl
  have hfinished : refused.finished.all (·.2.isFailure) := by decide +kernel
  have hrefused : ¬ refused.Succeeds 0 := by
    rintro ⟨outcome, hmem, hsuccess⟩
    have hfailure := List.all_eq_true.mp hfinished _ hmem
    rw [hsuccess] at hfailure
    cases hfailure
  obtain ⟨htraceless, hsame⟩ := hfails [.task 1, refuses 1, .task 0] (by decide +kernel) hrefused
  have hconfirmed : (0, .following ⟨1⟩) ∈ ((begun.play [confirms 1]).play [.task 0]).finished := by
    decide +kernel
  have hkept : ¬ begun.Ousted [confirms 1] "news" ⟨1⟩ := by
    rintro ⟨before, b, after, heq, htakes⟩
    cases before with
    | nil =>
      obtain ⟨rfl, _⟩ := List.cons.inj heq
      rcases htakes with hcloses | ⟨_, _, htask, _⟩
      · cases hcloses
      · cases htask
    | cons _ before => simp at heq
  obtain ⟨hregistered, hdelivers⟩ := (hsucceeds trivial).2 [confirms 1] [.task 0]
    ⟨_, hconfirmed, rfl⟩ hkept
  refine ⟨?_, htraceless, hregistered, hdelivers⟩
  exact (hsame.entries "news").trans (by decide +kernel)

end WorkspaceLink.Link
