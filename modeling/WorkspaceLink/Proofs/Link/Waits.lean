import WorkspaceLink.Link.Calls
import Mathlib.Data.List.Basic
import Mathlib.Data.List.Induction

/-!
# Waits for a status

A status waiter notes statuses and ends waits. What it knows of a workspace, which waits are open
and how each of the others ended depend on nothing but the operations so far, and all of it can be
read off their list: `recorded?` looks for the last status of a workspace, `fate?` for the first
operation that ends a wait.

Main statement: the waiter does what its history says. Each wait is settled when its fate is
decided and never again, an event settles all open waits for its workspace and status together, and
the waits that are pending are those without a fate.
-/
namespace WorkspaceLink

namespace StatusWaiter

variable {w : StatusWaiter} {wait : StatusWait}

/-! ### One operation -/

theorem lookup_filter_ne {κ β : Type} [DecidableEq κ] (key other : κ) (entries : List (κ × β)) :
    (entries.filter fun entry => entry.1 ≠ key).lookup other =
      if other = key then none else entries.lookup other := by
  induction entries with
  | nil => simp
  | cons entry rest ih =>
    obtain ⟨first, item⟩ := entry
    by_cases hfirst : first = key
    · rw [List.filter_cons_of_neg (by simpa using hfirst), ih, List.lookup_cons]
      by_cases hother : other = key
      · simp [hother]
      · have hne : (other == first) = false := by simpa [hfirst] using hother
        simp [hother, hne]
    · rw [List.filter_cons_of_pos (by simpa using hfirst), List.lookup_cons, List.lookup_cons, ih]
      by_cases hsame : other = first
      · simp [hsame, hfirst]
      · have hne : (other == first) = false := by simpa using hsame
        simp [hne]

theorem knownStatus?_setKnown (workspace other : WorkspaceId) (status : Status) :
    (w.setKnown workspace status).knownStatus? other =
      if workspace = other then some status else w.knownStatus? other := by
  simp only [setKnown, knownStatus?, List.lookup_cons]
  by_cases h : workspace = other
  · simp [h]
  · have hne : (other == workspace) = false := by simpa using Ne.symm h
    rw [if_neg h]
    simp only [hne]
    exact (lookup_filter_ne workspace other w.known).trans (if_neg (Ne.symm h))

theorem knownStatus?_handle (event : WorkspaceStatusEvent) (workspace : WorkspaceId) :
    (w.handle event).1.knownStatus? workspace =
      if event.workspaceId = workspace then event.effectiveStatus.or (w.knownStatus? workspace)
      else w.knownStatus? workspace := by
  unfold handle
  cases event.effectiveStatus with
  | none => simp
  | some status => exact knownStatus?_setKnown event.workspaceId workspace status

theorem knownStatus?_untrack (workspace other : WorkspaceId) :
    (w.untrack workspace).2.1.knownStatus? other =
      if workspace = other then none else w.knownStatus? other := by
  simp only [untrack, knownStatus?, eq_comm (a := workspace)]
  exact lookup_filter_ne workspace other w.known

theorem nextTicket_handle (event : WorkspaceStatusEvent) :
    (w.handle event).1.nextTicket = w.nextTicket := by
  unfold handle
  split <;> rfl

theorem ticket_waitFor (workspace : WorkspaceId) (status : Status) :
    (w.waitFor workspace status).1 = w.nextTicket := by
  unfold waitFor
  dsimp only
  split <;> rfl

theorem nextTicket_waitFor (workspace : WorkspaceId) (status : Status) :
    (w.waitFor workspace status).2.1.nextTicket = w.nextTicket + 1 := by
  unfold waitFor
  dsimp only
  split <;> rfl

theorem knownStatus?_waitFor (workspace other : WorkspaceId) (status : Status) :
    (w.waitFor workspace status).2.1.knownStatus? other = w.knownStatus? other := by
  unfold waitFor
  dsimp only
  split <;> rfl

/-- A wait for what is known already ends at once. -/
theorem waitFor_known {workspace : WorkspaceId} {status : Status}
    (h : w.knownStatus? workspace = some status) :
    w.waitFor workspace status =
      (w.nextTicket, { w with nextTicket := w.nextTicket + 1 }, [(w.nextTicket, .already)]) :=
  if_pos h

theorem waitFor_unknown {workspace : WorkspaceId} {status : Status}
    (h : w.knownStatus? workspace ≠ some status) :
    w.waitFor workspace status =
      (w.nextTicket,
        { w with
          nextTicket := w.nextTicket + 1
          waits := w.waits ++ [⟨w.nextTicket, workspace, status⟩] }, []) :=
  if_neg h

/-- The event brings the workspace of a wait to the status that it waits for. -/
def Ends (event : WorkspaceStatusEvent) (wait : StatusWait) : Prop :=
  event.workspaceId = wait.workspace ∧ event.effectiveStatus = some wait.status

instance (event : WorkspaceStatusEvent) (wait : StatusWait) : Decidable (Ends event wait) :=
  inferInstanceAs (Decidable (_ ∧ _))

theorem decide_ends {event : WorkspaceStatusEvent} {status : Status}
    (h : event.effectiveStatus = some status) (wait : StatusWait) :
    decide (Ends event wait) = (wait.workspace = event.workspaceId && wait.status = status) := by
  simp [Ends, h, Bool.decide_and, eq_comm]

/-- An event settles the open waits for its workspace and status. -/
theorem settled_handle (event : WorkspaceStatusEvent) :
    (w.handle event).2 =
      (w.waits.filter fun wait => Ends event wait).map fun wait =>
        (wait.ticket, .reached event) := by
  cases h : event.effectiveStatus with
  | none => simp [handle, Ends, h]
  | some status => simp only [handle, h, decide_ends h]

theorem waits_handle (event : WorkspaceStatusEvent) :
    (w.handle event).1.waits = w.waits.filter fun wait => !decide (Ends event wait) := by
  cases h : event.effectiveStatus with
  | none =>
    simp only [handle, h]
    exact (List.filter_eq_self.mpr (by simp [Ends, h])).symm
  | some status => simp only [handle, h, decide_ends h]

/-! ### Operations and what they decide -/

/-- What is done with a waiter. -/
inductive Operation where
  | waitFor (workspace : WorkspaceId) (status : Status)
  | handle (event : WorkspaceStatusEvent)
  | setKnown (workspace : WorkspaceId) (status : Status)
  | untrack (workspace : WorkspaceId)

namespace Operation

def wait? (ticket : Nat) : Operation → Option StatusWait
  | .waitFor workspace status => some ⟨ticket, workspace, status⟩
  | _ => none

/-- What becomes known of a workspace: a status, or that nothing is known any more. -/
def teaches? (workspace : WorkspaceId) : Operation → Option (Option Status)
  | .handle event => if event.workspaceId = workspace then event.effectiveStatus.map some else none
  | .setKnown other status => if other = workspace then some (some status) else none
  | .untrack other => if other = workspace then some none else none
  | .waitFor _ _ => none

/-- How an open wait ends. -/
def ends? (wait : StatusWait) : Operation → Option StatusResult
  | .handle event => if Ends event wait then some (.reached event) else none
  | .untrack workspace => if wait.workspace = workspace then some .abandoned else none
  | _ => none

end Operation

/-- The waiter after an operation, and the waits that the operation settles. -/
def perform (w : StatusWaiter) : Operation → StatusWaiter × Settled
  | .waitFor workspace status => (w.waitFor workspace status).2
  | .handle event => w.handle event
  | .setKnown workspace status => (w.setKnown workspace status, [])
  | .untrack workspace => (w.untrack workspace).2

/-- A new waiter after some operations, and the waits that they settled. -/
def after (history : List Operation) : StatusWaiter × Settled :=
  history.foldl (fun state operation =>
    ((state.1.perform operation).1, state.2 ++ (state.1.perform operation).2)) ({}, [])

def begun (history : List Operation) : Nat :=
  history.countP fun operation => (operation.wait? 0).isSome

/-- The last status recorded for a workspace since it was untracked the last time. -/
def recorded? (workspace : WorkspaceId) (history : List Operation) : Option Status :=
  (history.reverse.findSome? (·.teaches? workspace)).join

/-- How a wait ends that begins after the operations `earlier`, once the operations `later` are
done. -/
def fate? (earlier : List Operation) (wait : StatusWait) (later : List Operation) :
    Option StatusResult :=
  if recorded? wait.workspace earlier = some wait.status then some .already
  else later.findSome? (·.ends? wait)

/-- The wait that begins at a place of the history, if nothing has ended it since. -/
def openWait? (history : List Operation) (place : Nat) : Option StatusWait :=
  (history[place]?.bind (·.wait? (begun (history.take place)))).filter fun wait =>
    fate? (history.take place) wait (history.drop (place + 1)) = none

/-- The waits that nothing has ended. -/
def openWaits (history : List Operation) : List StatusWait :=
  (List.range history.length).filterMap (openWait? history)

def results (ticket : Nat) (settled : Settled) : List StatusResult :=
  (settled.filter fun entry => entry.1 = ticket).map Prod.snd

/-! ### What an operation does -/

theorem after_snoc (history : List Operation) (operation : Operation) :
    after (history ++ [operation]) =
      (((after history).1.perform operation).1,
        (after history).2 ++ ((after history).1.perform operation).2) := by
  rw [after, List.foldl_append]
  rfl

theorem knownStatus?_perform (operation : Operation) (workspace : WorkspaceId) :
    (w.perform operation).1.knownStatus? workspace =
      (operation.teaches? workspace).getD (w.knownStatus? workspace) := by
  cases operation with
  | waitFor other status => exact knownStatus?_waitFor other workspace status
  | handle event =>
    rw [perform, knownStatus?_handle, Operation.teaches?]
    cases event.effectiveStatus <;> split <;> rfl
  | setKnown other status =>
    rw [perform, knownStatus?_setKnown, Operation.teaches?]
    split <;> rfl
  | untrack other =>
    rw [perform, knownStatus?_untrack, Operation.teaches?]
    split <;> rfl

theorem nextTicket_perform (operation : Operation) :
    (w.perform operation).1.nextTicket =
      w.nextTicket + (operation.wait? w.nextTicket).toList.length := by
  cases operation with
  | waitFor workspace status => exact nextTicket_waitFor workspace status
  | handle event => exact nextTicket_handle event
  | setKnown workspace status => rfl
  | untrack workspace => rfl

theorem filterMap_ite (p : StatusWait → Prop) [DecidablePred p] (result : StatusResult)
    (waits : List StatusWait) :
    (waits.filterMap fun wait => (if p wait then some result else none).map fun result =>
        (wait.ticket, result)) =
      (waits.filter fun wait => p wait).map fun wait => (wait.ticket, result) := by
  induction waits with
  | nil => rfl
  | cons wait rest ih =>
    by_cases h : p wait
    · rw [List.filterMap_cons_some (by rw [if_pos h]; rfl), ih, List.filter_cons_of_pos (by simpa)]
      rfl
    · rw [List.filterMap_cons_none (by rw [if_neg h]; rfl), ih, List.filter_cons_of_neg (by simpa)]

/-- An operation settles the open waits that it ends, and the one that it begins if that is for what
is known already. -/
theorem settled_perform (operation : Operation) :
    (w.perform operation).2 =
      (w.waits.filterMap fun wait => (operation.ends? wait).map fun result =>
        (wait.ticket, result)) ++
      ((operation.wait? w.nextTicket).toList.filter fun wait =>
        w.knownStatus? wait.workspace = some wait.status).map fun wait =>
          (wait.ticket, .already) := by
  cases operation with
  | waitFor workspace status =>
    by_cases h : w.knownStatus? workspace = some status
    · simp [perform, waitFor_known h, Operation.ends?, Operation.wait?, h]
    · simp [perform, waitFor_unknown h, Operation.ends?, Operation.wait?, h]
  | handle event =>
    rw [perform, settled_handle]
    exact (filterMap_ite (Ends event) (.reached event) w.waits).symm.trans (List.append_nil _).symm
  | setKnown workspace status => simp [perform, Operation.ends?, Operation.wait?]
  | untrack workspace =>
    exact (filterMap_ite (·.workspace = workspace) .abandoned w.waits).symm.trans
      (List.append_nil _).symm

/-- An operation closes the waits that it ends, and leaves the one open that it begins unless that
is for what is known already. -/
theorem waits_perform (operation : Operation) :
    (w.perform operation).1.waits =
      (w.waits.filter fun wait => operation.ends? wait = none) ++
      (operation.wait? w.nextTicket).toList.filter fun wait =>
        w.knownStatus? wait.workspace ≠ some wait.status := by
  have hall : (w.waits.filter fun _ => true) = w.waits := List.filter_eq_self.mpr fun _ _ => rfl
  cases operation with
  | waitFor workspace status =>
    by_cases h : w.knownStatus? workspace = some status
    · simp [perform, waitFor_known h, Operation.ends?, Operation.wait?, h, hall]
    · simp [perform, waitFor_unknown h, Operation.ends?, Operation.wait?, h, hall]
  | handle event => simp [perform, waits_handle, Operation.ends?, Operation.wait?]
  | setKnown workspace status => simp [perform, setKnown, Operation.ends?, Operation.wait?, hall]
  | untrack workspace => simp [perform, untrack, Operation.ends?, Operation.wait?]

/-! ### What a history decides -/

variable {history earlier later : List Operation} {operation : Operation}

theorem begun_snoc (history : List Operation) (operation : Operation) (ticket : Nat) :
    begun (history ++ [operation]) =
      begun history + (operation.wait? ticket).toList.length := by
  rw [begun, List.countP_append]
  cases operation <;> rfl

theorem recorded?_snoc (workspace : WorkspaceId) (history : List Operation)
    (operation : Operation) :
    recorded? workspace (history ++ [operation]) =
      (operation.teaches? workspace).getD (recorded? workspace history) := by
  rw [recorded?, List.reverse_append, List.reverse_singleton, List.singleton_append,
    List.findSome?_cons]
  cases operation.teaches? workspace <;> rfl

theorem fate?_snoc (earlier : List Operation) (wait : StatusWait) (later : List Operation)
    (operation : Operation) :
    fate? earlier wait (later ++ [operation]) =
      (fate? earlier wait later).or (operation.ends? wait) := by
  unfold fate?
  split
  · rfl
  · rw [List.findSome?_append, List.findSome?_singleton]

theorem knownStatus?_after (history : List Operation) (workspace : WorkspaceId) :
    (after history).1.knownStatus? workspace = recorded? workspace history := by
  induction history using List.reverseRecOn with
  | nil => rfl
  | append_singleton history operation ih =>
    rw [after_snoc, knownStatus?_perform, ih, recorded?_snoc]

theorem nextTicket_after (history : List Operation) :
    (after history).1.nextTicket = begun history := by
  induction history using List.reverseRecOn with
  | nil => rfl
  | append_singleton history operation ih =>
    rw [after_snoc, nextTicket_perform, ih, ← begun_snoc]

theorem openWait?_snoc {place : Nat} (hplace : place < history.length) (operation : Operation) :
    openWait? (history ++ [operation]) place =
      (openWait? history place).filter fun wait => operation.ends? wait = none := by
  have htake : (history ++ [operation]).take place = history.take place :=
    List.take_append_of_le_length (Nat.le_of_lt hplace)
  have hdrop : (history ++ [operation]).drop (place + 1) =
      history.drop (place + 1) ++ [operation] := List.drop_append_of_le_length hplace
  rw [openWait?, openWait?, List.getElem?_append_left hplace, htake, hdrop, Option.filter_filter]
  simp only [fate?_snoc, Option.or_eq_none_iff, Bool.decide_and]

theorem openWaits_snoc (history : List Operation) (operation : Operation) :
    openWaits (history ++ [operation]) =
      ((openWaits history).filter fun wait => operation.ends? wait = none) ++
      (operation.wait? (begun history)).toList.filter fun wait =>
        recorded? wait.workspace history ≠ some wait.status := by
  have hlast : openWait? (history ++ [operation]) history.length =
      (operation.wait? (begun history)).filter fun wait =>
        recorded? wait.workspace history ≠ some wait.status := by
    simp [openWait?, fate?]
  have hbefore : (List.range history.length).filterMap (openWait? (history ++ [operation])) =
      (openWaits history).filter fun wait => operation.ends? wait = none := by
    rw [openWaits, List.filter_filterMap]
    apply List.filterMap_congr
    intro place hplace
    exact openWait?_snoc (List.mem_range.mp hplace) operation
  rw [openWaits, List.length_append, List.length_singleton, List.range_succ,
    List.filterMap_append, hbefore, List.filterMap_eq_flatMap_toList _ [_],
    List.flatMap_singleton, hlast, Option.toList_filter]

theorem waits_after (history : List Operation) : (after history).1.waits = openWaits history := by
  induction history using List.reverseRecOn with
  | nil => rfl
  | append_singleton history operation ih =>
    rw [after_snoc, waits_perform, ih, nextTicket_after, openWaits_snoc]
    simp only [knownStatus?_after]

/-! ### Tickets -/

theorem Operation.ticket_of_wait? {ticket : Nat} (h : operation.wait? ticket = some wait) :
    wait.ticket = ticket := by
  cases operation with
  | waitFor workspace status =>
    obtain rfl := Option.some.inj h
    rfl
  | _ => cases h

/-- The ticket of a wait is the number of those that began before. -/
theorem begun_of_wait? (h : operation.wait? (begun history) = some wait) :
    wait.ticket = begun history ∧ begun (history ++ [operation]) = begun history + 1 :=
  ⟨Operation.ticket_of_wait? h, by rw [begun_snoc _ _ (begun history), h]; rfl⟩

theorem begun_le_snoc (history : List Operation) (operation : Operation) :
    begun history ≤ begun (history ++ [operation]) := by
  rw [begun_snoc _ _ 0]
  exact Nat.le_add_right _ _

theorem ticket_lt_of_openWaits (h : wait ∈ openWaits history) : wait.ticket < begun history := by
  induction history using List.reverseRecOn with
  | nil => simp [openWaits] at h
  | append_singleton history operation ih =>
    rw [openWaits_snoc] at h
    rcases List.mem_append.mp h with hold | hnew
    · exact Nat.lt_of_lt_of_le (ih (List.mem_of_mem_filter hold)) (begun_le_snoc history operation)
    · have hwait := Option.mem_toList.mp (List.mem_of_mem_filter hnew)
      obtain ⟨hticket, hbegun⟩ := begun_of_wait? hwait
      rw [hticket, hbegun]
      exact Nat.lt_succ_self _

theorem ticket_lt_of_settled {entry : Nat × StatusResult} (h : entry ∈ (after history).2) :
    entry.1 < begun history := by
  induction history using List.reverseRecOn with
  | nil => cases h
  | append_singleton history operation ih =>
    rw [after_snoc, settled_perform, waits_after, nextTicket_after] at h
    rcases List.mem_append.mp h with hold | hnew
    · exact Nat.lt_of_lt_of_le (ih hold) (begun_le_snoc history operation)
    rcases List.mem_append.mp hnew with hended | hknown
    · obtain ⟨wait, hwait, hends⟩ := List.mem_filterMap.mp hended
      obtain ⟨result, _, rfl⟩ := Option.map_eq_some_iff.mp hends
      exact Nat.lt_of_lt_of_le (ticket_lt_of_openWaits hwait) (begun_le_snoc history operation)
    · obtain ⟨wait, hwait, rfl⟩ := List.mem_map.mp hknown
      obtain ⟨hticket, hbegun⟩ :=
        begun_of_wait? (Option.mem_toList.mp (List.mem_of_mem_filter hwait))
      dsimp only
      rw [hticket, hbegun]
      exact Nat.lt_succ_self _

/-! ### One wait -/

theorem results_append (ticket : Nat) (first second : Settled) :
    results ticket (first ++ second) = results ticket first ++ results ticket second := by
  simp [results]

theorem results_eq_nil {ticket : Nat} {settled : Settled}
    (h : ∀ entry ∈ settled, entry.1 ≠ ticket) :
    results ticket settled = [] := by
  simpa [results] using h

/-- What an operation makes of the waits with one ticket. -/
theorem results_ended (ticket : Nat) (operation : Operation) (waits : List StatusWait) :
    results ticket (waits.filterMap fun wait => (operation.ends? wait).map fun result =>
        (wait.ticket, result)) =
      (waits.filter fun wait => wait.ticket = ticket).filterMap operation.ends? := by
  rw [results, List.filter_filterMap, List.map_filterMap, List.filterMap_filter]
  apply List.filterMap_congr
  intro wait _
  by_cases h : wait.ticket = ticket
  · cases operation.ends? wait <;> simp [h]
  · cases operation.ends? wait <;> simp [h]

def openUnder (ticket : Nat) (history : List Operation) : List StatusWait :=
  (openWaits history).filter fun wait => wait.ticket = ticket

/-- A wait that has begun stays open until an operation ends it. -/
theorem openUnder_snoc {ticket : Nat} (h : ticket < begun history) (operation : Operation) :
    openUnder ticket (history ++ [operation]) =
      (openUnder ticket history).filter fun wait => operation.ends? wait = none := by
  have hnew : ((operation.wait? (begun history)).toList.filter fun wait =>
      recorded? wait.workspace history ≠ some wait.status).filter
        (fun wait => wait.ticket = ticket) = [] := by
    rw [List.filter_eq_nil_iff]
    intro wait hmem
    have hwait := begun_of_wait? (Option.mem_toList.mp (List.mem_of_mem_filter hmem))
    simpa [hwait.1] using Nat.ne_of_gt h
  rw [openUnder, openWaits_snoc, List.filter_append, hnew, List.append_nil]
  exact List.filter_comm _ _ _

/-- It is settled by that operation alone. -/
theorem results_snoc {ticket : Nat} (h : ticket < begun history) (operation : Operation) :
    results ticket (after (history ++ [operation])).2 =
      results ticket (after history).2 ++
        (openUnder ticket history).filterMap operation.ends? := by
  have hnew : results ticket (((operation.wait? (begun history)).toList.filter fun wait =>
      recorded? wait.workspace history = some wait.status).map fun wait =>
        (wait.ticket, .already)) = [] := by
    apply results_eq_nil
    intro entry hentry
    obtain ⟨wait, hmem, rfl⟩ := List.mem_map.mp hentry
    have hwait := begun_of_wait? (Option.mem_toList.mp (List.mem_of_mem_filter hmem))
    exact hwait.1 ▸ Nat.ne_of_gt h
  rw [after_snoc, settled_perform, waits_after, nextTicket_after, results_append, results_append]
  simp only [knownStatus?_after]
  rw [hnew, List.append_nil, results_ended, openUnder]

/-- A wait begins as the only one with its ticket, and ends at once if it is for the status that was
recorded last. -/
theorem openUnder_begun (history : List Operation) (workspace : WorkspaceId) (status : Status) :
    openUnder (begun history) (history ++ [.waitFor workspace status]) =
      if recorded? workspace history = some status then []
      else [⟨begun history, workspace, status⟩] := by
  have hold : ((openWaits history).filter fun wait =>
      Operation.ends? wait (.waitFor workspace status) = none).filter
        (fun wait => wait.ticket = begun history) = [] := by
    rw [List.filter_eq_nil_iff]
    intro wait hmem
    simpa using Nat.ne_of_lt (ticket_lt_of_openWaits (List.mem_of_mem_filter hmem))
  rw [openUnder, openWaits_snoc, List.filter_append, hold, List.nil_append]
  by_cases h : recorded? workspace history = some status <;> simp [Operation.wait?, h]

theorem settled_waitFor_after (history : List Operation) (workspace : WorkspaceId)
    (status : Status) :
    ((after history).1.waitFor workspace status).2.2 =
      if recorded? workspace history = some status then [(begun history, .already)] else [] := by
  have hknown := knownStatus?_after history workspace
  by_cases h : recorded? workspace history = some status
  · rw [waitFor_known (hknown.trans h), if_pos h, nextTicket_after]
  · rw [waitFor_unknown (hknown ▸ h), if_neg h]

theorem results_begun (history : List Operation) (workspace : WorkspaceId) (status : Status) :
    results (begun history) (after (history ++ [.waitFor workspace status])).2 =
      if recorded? workspace history = some status then [.already] else [] := by
  have hold : results (begun history) (after history).2 = [] :=
    results_eq_nil fun entry hmem => Nat.ne_of_lt (ticket_lt_of_settled hmem)
  rw [after_snoc, results_append, hold, perform, List.nil_append, settled_waitFor_after]
  split <;> simp [results]

/-- A wait is open until its fate is decided, and is settled accordingly, once. -/
theorem open_or_settled (earlier : List Operation) (workspace : WorkspaceId) (status : Status)
    (later : List Operation) :
    let wait : StatusWait := ⟨begun earlier, workspace, status⟩
    let history := earlier ++ .waitFor workspace status :: later
    wait.ticket < begun history ∧
      openUnder wait.ticket history = (if fate? earlier wait later = none then [wait] else []) ∧
      results wait.ticket (after history).2 = (fate? earlier wait later).toList := by
  intro wait history
  induction later using List.reverseRecOn with
  | nil =>
    have hbegun := begun_snoc earlier (.waitFor workspace status) 0
    refine ⟨hbegun ▸ Nat.lt_succ_self _, ?_, ?_⟩
    · rw [openUnder_begun]
      by_cases h : recorded? workspace earlier = some status <;> simp [fate?, wait, h]
    · rw [results_begun]
      by_cases h : recorded? workspace earlier = some status <;> simp [fate?, wait, h]
  | append_singleton later operation ih =>
    obtain ⟨hlt, hopen, hsettled⟩ := ih
    have hsplit : history = (earlier ++ .waitFor workspace status :: later) ++ [operation] := by
      simp [history]
    rw [hsplit, openUnder_snoc hlt, results_snoc hlt, hopen, hsettled, fate?_snoc]
    refine ⟨Nat.lt_of_lt_of_le hlt (begun_le_snoc _ _), ?_⟩
    cases hfate : fate? earlier wait later with
    | some result => simp
    | none => cases hends : operation.ends? wait <;> simp [hends]

/-! ### Giving up -/

theorem waiter_abandon (id : Nat) (link : Link) : (link.abandon id).waiter = link.waiter := by
  unfold Link.abandon
  split
  · rename_i stage _
    cases stage <;> rfl
  · rfl

/-- For every history of a waiter:
* the ticket of a wait is the number of waits before it; the wait is settled when it begins if its
  status was recorded last, and by the end of the history it has the one result that is its fate, or
  none if nothing has decided that; no other ticket has a result;
* an event, whose status is `error` if it carries one, settles exactly the open waits for its
  workspace and status, all at once;
* the waits that are pending are those without a fate, and giving up a call that waits leaves the
  waiter as it is. -/
theorem waits_settle_by_history (history : List Operation) :
    (∀ earlier workspace status later, history = earlier ++ .waitFor workspace status :: later →
      ((after earlier).1.waitFor workspace status).1 = begun earlier ∧
      ((after earlier).1.waitFor workspace status).2.2 =
        (if recorded? workspace earlier = some status then [(begun earlier, .already)] else []) ∧
      results (begun earlier) (after history).2 =
        (fate? earlier ⟨begun earlier, workspace, status⟩ later).toList) ∧
    (∀ entry ∈ (after history).2, entry.1 < begun history) ∧
    (∀ event, ((after history).1.handle event).2 =
      ((openWaits history).filter fun wait => event.workspaceId = wait.workspace ∧
        event.effectiveStatus = some wait.status).map fun wait =>
          (wait.ticket, .reached event)) ∧
    (∀ event : WorkspaceStatusEvent, event.effectiveStatus =
      if event.error.isSome then some .error else event.status) ∧
    (after history).1.pending = (openWaits history).length ∧
    ∀ (link : Link) id, (link.abandon id).waiter = link.waiter := by
  refine ⟨?_, fun entry => ticket_lt_of_settled, ?_, fun _ => rfl, ?_, fun link id =>
    waiter_abandon id link⟩
  · rintro earlier workspace status later rfl
    obtain ⟨_, _, hsettled⟩ := open_or_settled earlier workspace status later
    have hticket := (ticket_waitFor workspace status).trans (nextTicket_after earlier)
    exact ⟨hticket, settled_waitFor_after earlier workspace status, hsettled⟩
  · intro event
    rw [settled_handle, waits_after]
    rfl
  · rw [pending, waits_after]

end StatusWaiter

end WorkspaceLink
