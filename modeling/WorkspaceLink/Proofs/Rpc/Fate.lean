import WorkspaceLink.Proofs.Link.Frame
import WorkspaceLink.Proofs.Rpc.Reception

/-!
# The fate of a request

A client goes through events: requests are issued and given up, the transport is heard, and
notifications are sent. The fate of a request is what the first event after its issue that concerns
it decides. `requests_meet_their_fate` says that every request of every run is settled in
accordance with its fate and never otherwise, and which requests wait.

A send that fails inside the call that issues a request is an issue followed by the report of the
failure.
-/
namespace WorkspaceLink

namespace Client

/-- What happens to a client. -/
inductive Event where
  /-- A request is issued. -/
  | issue
  /-- Nobody waits for the answer of a request any more. -/
  | drop (number : Nat)
  /-- The transport tells of something. -/
  | heard (event : TransportEvent)
  | notify (method : String) (params : Option Json)
  deriving DecidableEq, Repr

/-- How a request ends. -/
inductive Fate where
  | settled (answer : Answer)
  | dropped

def Fate.answer? : Fate → Option Answer
  | .settled answer => some answer
  | .dropped => none

/-- What an event that comes after the issue of a request decides about it. -/
def Event.fate? (number : Nat) : Event → Option Fate
  | .heard event => (event.verdict? number).map .settled
  | .drop other => if other = number then some .dropped else none
  | .issue | .notify _ _ => none

/-- What the first event that concerns a request decides about it. -/
def fateIn? (number : Nat) (events : List Event) : Option Fate :=
  events.findSome? (Event.fate? number)

variable {η ε : Type}

def react (host : ClientHost η ε) (event : Event) (state : Client η × ε) : Client η × ε :=
  match event with
  | .issue => (state.1.issue.2, state.2)
  | .drop number => (state.1.forget number, state.2)
  | .heard event => hear host event state
  | .notify _ _ => state

def run (host : ClientHost η ε) (events : List Event) (state : Client η × ε) : Client η × ε :=
  events.foldl (fun state event => react host event state) state

/-- In a run of these events a request got this number, and `rest` came after its issue. -/
def Issues (host : ClientHost η ε) (start : Client η × ε) (events : List Event) (number : Nat)
    (rest : List Event) : Prop :=
  ∃ before, events = before ++ .issue :: rest ∧ (run host before start).1.issue.1 = number

/-! ### One event -/

variable {host : ClientHost η ε} {record : ε → List (Nat × Answer)} {state : Client η × ε}

theorem wellNumbered_react (hrec : host.Records record) (hwell : state.1.WellNumbered)
    (event : Event) : (react host event state).1.WellNumbered := by
  cases event with
  | issue => exact hwell.issue
  | drop number => exact hwell.forget number
  | heard event => exact (hear_settles hrec event state hwell.nodup).wellNumbered hwell
  | notify method params => exact hwell

theorem nextId_react (hrec : host.Records record) (hwell : state.1.WellNumbered) (event : Event) :
    (react host event state).1.nextId =
      if event = .issue then state.1.nextId + 1 else state.1.nextId := by
  cases event with
  | heard event =>
    rw [if_neg (by simp), react]
    exact (hear_settles hrec event state hwell.nodup).nextId
  | _ => simp [react, Client.issue]

theorem nextId_le_react (hrec : host.Records record) (hwell : state.1.WellNumbered)
    (event : Event) : state.1.nextId ≤ (react host event state).1.nextId := by
  rw [nextId_react hrec hwell]
  split <;> omega

/-- An event leaves those requests waiting that it does not concern; an issue adds one. -/
theorem mem_pending_react (hrec : host.Records record) (hwell : state.1.WellNumbered)
    (event : Event) (number : Nat) :
    number ∈ (react host event state).1.pending ↔
      (number ∈ state.1.pending ∧ event.fate? number = none) ∨
        (event = .issue ∧ number = state.1.nextId) := by
  cases event with
  | issue => simp [react, Client.issue, Event.fate?]
  | drop other =>
    by_cases h : other = number
    · simp [react, Event.fate?, h]
    · simp [react, Event.fate?, h, Ne.symm h]
  | heard event =>
    rw [react, (hear_settles hrec event state hwell.nodup).pending]
    simp [Event.fate?]
  | notify method params => simp [react, Event.fate?]

/-- An event adds to the record what it decides about the requests that wait. -/
theorem answersTo_react (hrec : host.Records record) (hwell : state.1.WellNumbered)
    (event : Event) (number : Nat) :
    answersTo number (record (react host event state).2) = answersTo number (record state.2) ++
      if number ∈ state.1.pending then ((event.fate? number).bind Fate.answer?).toList else [] := by
  cases event with
  | heard event =>
    rw [react, (hear_settles hrec event state hwell.nodup).answers]
    cases h : event.verdict? number <;> simp [Event.fate?, Fate.answer?, h]
  | drop other =>
    by_cases h : other = number <;> simp [react, Event.fate?, Fate.answer?, h]
  | _ => simp [react, Event.fate?]

/-! ### A run -/

@[simp] theorem run_nil (state : Client η × ε) : run host [] state = state := rfl

@[simp] theorem run_cons (event : Event) (events : List Event) (state : Client η × ε) :
    run host (event :: events) state = run host events (react host event state) := rfl

theorem fateIn?_cons (number : Nat) (event : Event) (events : List Event) :
    fateIn? number (event :: events) = (event.fate? number).or (fateIn? number events) := by
  rw [fateIn?, List.findSome?_cons]
  cases event.fate? number <;> rfl

theorem not_issues_nil {number : Nat} {rest : List Event} :
    ¬ Issues host state [] number rest := by
  rintro ⟨before, h, _⟩
  simp at h

/-- A request of a run is issued by its first event or in what follows that. -/
theorem issues_cons {event : Event} {events rest : List Event} {number : Nat} :
    Issues host state (event :: events) number rest ↔
      (event = .issue ∧ number = state.1.nextId ∧ rest = events) ∨
        Issues host (react host event state) events number rest := by
  constructor
  · rintro ⟨before, hsplit, hnumber⟩
    cases before with
    | nil =>
      obtain ⟨rfl, rfl⟩ := List.cons.inj hsplit
      exact .inl ⟨rfl, hnumber.symm, rfl⟩
    | cons first before =>
      obtain ⟨rfl, rfl⟩ := List.cons.inj hsplit
      exact .inr ⟨before, rfl, hnumber⟩
  · rintro (⟨rfl, rfl, rfl⟩ | ⟨before, rfl, hnumber⟩)
    · exact ⟨[], rfl, rfl⟩
    · exact ⟨event :: before, rfl, hnumber⟩

theorem wellNumbered_run (hrec : host.Records record) (events : List Event)
    (hwell : state.1.WellNumbered) : (run host events state).1.WellNumbered := by
  induction events generalizing state with
  | nil => exact hwell
  | cons event events ih => exact ih (wellNumbered_react hrec hwell event)

theorem nextId_le_of_issues (hrec : host.Records record) {events rest : List Event} {number : Nat}
    (hwell : state.1.WellNumbered) (h : Issues host state events number rest) :
    state.1.nextId ≤ number := by
  induction events generalizing state with
  | nil => exact absurd h not_issues_nil
  | cons event events ih =>
    rcases issues_cons.mp h with ⟨_, rfl, _⟩ | h
    · exact Nat.le_refl _
    · have hle := ih (wellNumbered_react hrec hwell event) h
      exact Nat.le_trans (nextId_le_react hrec hwell event) hle

/-- The number of a request tells when it was issued. -/
theorem issues_unique (hrec : host.Records record) {events rest rest' : List Event} {number : Nat}
    (hwell : state.1.WellNumbered) (h : Issues host state events number rest)
    (h' : Issues host state events number rest') : rest = rest' := by
  induction events generalizing state with
  | nil => exact absurd h not_issues_nil
  | cons event events ih =>
    have hwell' := wellNumbered_react hrec hwell event
    have hnext := nextId_react hrec hwell event
    -- Numbers only grow, so the one that an issue gives out is below all that later ones give.
    rcases issues_cons.mp h with ⟨hissue, rfl, rfl⟩ | h <;>
      rcases issues_cons.mp h' with ⟨hissue', hnumber, rfl⟩ | h'
    · rfl
    · have := nextId_le_of_issues hrec hwell' h'
      rw [hnext, if_pos hissue] at this
      omega
    · have := nextId_le_of_issues hrec hwell' h
      rw [hnext, if_pos hissue'] at this
      omega
    · exact ih hwell' h h'

/-- The requests that wait after a run: those that waited before or were issued, and that nothing
concerned since. -/
theorem mem_pending_run (hrec : host.Records record) (events : List Event) (number : Nat)
    (hwell : state.1.WellNumbered) :
    number ∈ (run host events state).1.pending ↔
      (number ∈ state.1.pending ∧ fateIn? number events = none) ∨
        ∃ rest, Issues host state events number rest ∧ fateIn? number rest = none := by
  induction events generalizing state with
  | nil => simp [fateIn?, not_issues_nil]
  | cons event events ih =>
    rw [run_cons, ih (wellNumbered_react hrec hwell event), mem_pending_react hrec hwell,
      fateIn?_cons, Option.or_eq_none_iff]
    constructor
    · rintro (⟨⟨hmem, hnow⟩ | ⟨rfl, rfl⟩, hlater⟩ | ⟨rest, hissues, hnone⟩)
      · exact .inl ⟨hmem, hnow, hlater⟩
      · exact .inr ⟨events, issues_cons.mpr (.inl ⟨rfl, rfl, rfl⟩), hlater⟩
      · exact .inr ⟨rest, issues_cons.mpr (.inr hissues), hnone⟩
    · rintro (⟨hmem, hnow, hlater⟩ | ⟨rest, hissues, hnone⟩)
      · exact .inl ⟨.inl ⟨hmem, hnow⟩, hlater⟩
      · rcases issues_cons.mp hissues with ⟨hissue, hnumber, rfl⟩ | hissues
        · exact .inl ⟨.inr ⟨hissue, hnumber⟩, hnone⟩
        · exact .inr ⟨rest, hissues, hnone⟩

/-- What a run adds to the record about a request that was issued before it. -/
theorem answersTo_run_of_lt (hrec : host.Records record) (events : List Event) {number : Nat}
    (hwell : state.1.WellNumbered) (hlt : number < state.1.nextId) :
    answersTo number (record (run host events state).2) = answersTo number (record state.2) ++
      if number ∈ state.1.pending then ((fateIn? number events).bind Fate.answer?).toList
      else [] := by
  induction events generalizing state with
  | nil => simp [fateIn?]
  | cons event events ih =>
    have hlt' := Nat.lt_of_lt_of_le hlt (nextId_le_react hrec hwell event)
    have hmem' : number ∈ (react host event state).1.pending ↔
        number ∈ state.1.pending ∧ event.fate? number = none := by
      rw [mem_pending_react hrec hwell]
      have hne : number ≠ state.1.nextId := Nat.ne_of_lt hlt
      simp [hne]
    rw [run_cons, ih (wellNumbered_react hrec hwell event) hlt', answersTo_react hrec hwell,
      fateIn?_cons, List.append_assoc]
    congr 1
    by_cases hmem : number ∈ state.1.pending
    · cases hfate : event.fate? number <;> simp [hmem', hmem, hfate]
    · simp [hmem', hmem]

/-- What a run adds to the record about a request that is issued in it. -/
theorem answersTo_run_of_issues (hrec : host.Records record) {events rest : List Event}
    {number : Nat} (hwell : state.1.WellNumbered) (h : Issues host state events number rest) :
    answersTo number (record (run host events state).2) = answersTo number (record state.2) ++
      ((fateIn? number rest).bind Fate.answer?).toList := by
  induction events generalizing state with
  | nil => exact absurd h not_issues_nil
  | cons event events ih =>
    have hwell' := wellNumbered_react hrec hwell event
    have hnot : number ∉ state.1.pending := fun hmem =>
      Nat.not_le_of_lt (hwell.lt_nextId number hmem) (nextId_le_of_issues hrec hwell h)
    have hkept : answersTo number (record (react host event state).2) =
        answersTo number (record state.2) := by
      rw [answersTo_react hrec hwell, if_neg hnot, List.append_nil]
    rcases issues_cons.mp h with ⟨rfl, rfl, rfl⟩ | h
    · have hlt : state.1.nextId < (react host .issue state).1.nextId := Nat.lt_succ_self _
      have hmem : state.1.nextId ∈ (react host .issue state).1.pending := by
        simp [react, Client.issue]
      rw [run_cons, answersTo_run_of_lt hrec rest hwell' hlt, if_pos hmem, hkept]
    · rw [run_cons, ih hwell' h, hkept]

/-- An answer on record was there before the run, or is that of a request that waited then or was
issued in the run. -/
theorem issues_of_mem_answersTo (hrec : host.Records record) (events : List Event)
    {number : Nat} {answer : Answer} (hwell : state.1.WellNumbered)
    (h : answer ∈ answersTo number (record (run host events state).2)) :
    answer ∈ answersTo number (record state.2) ∨ number ∈ state.1.pending ∨
      ∃ rest, Issues host state events number rest := by
  induction events generalizing state with
  | nil => exact .inl h
  | cons event events ih =>
    rcases ih (wellNumbered_react hrec hwell event) h with h | h | ⟨rest, h⟩
    · rw [answersTo_react hrec hwell, List.mem_append] at h
      rcases h with h | h
      · exact .inl h
      · split at h
        next hmem => exact .inr (.inl hmem)
        next => simp at h
    · rcases (mem_pending_react hrec hwell event number).mp h with ⟨hmem, _⟩ | ⟨hissue, hnumber⟩
      · exact .inr (.inl hmem)
      · exact .inr (.inr ⟨events, issues_cons.mpr (.inl ⟨hissue, hnumber, rfl⟩)⟩)
    · exact .inr (.inr ⟨rest, issues_cons.mpr (.inr h)⟩)

end Client

namespace Link

open Client

/-- Every request of every run of a link's client is settled at most once, as the first event after
its issue that concerns it decides: with the answer that a message holds for it, as not sent, as
cut off by the loss of the connection, or not at all if it was given up. The requests that wait are
those that were issued and that nothing has concerned since. No two requests share an
identifier. -/
theorem requests_meet_their_fate (link : Link) (handlers : Registry String Subscriber)
    (events : List Client.Event) :
    let start : Client Subscriber × Link := ({ handlers }, { link with answers := [] })
    let final := run host events start
    (∀ number rest, Issues host start events number rest →
      answersTo number final.2.answers = ((fateIn? number rest).bind Fate.answer?).toList) ∧
    (∀ entry ∈ final.2.answers, ∃ rest, Issues host start events entry.1 rest) ∧
    (∀ number, number ∈ final.1.pending ↔
      ∃ rest, Issues host start events number rest ∧ fateIn? number rest = none) ∧
    final.1.pending.Nodup ∧
    (∀ number rest number' rest', Issues host start events number rest →
      Issues host start events number' rest' → idText number = idText number' →
        rest = rest') := by
  intro start final
  have hwell : start.1.WellNumbered := ⟨List.nodup_nil, by simp [start]⟩
  refine ⟨?_, ?_, ?_, (wellNumbered_run host_records events hwell).nodup, ?_⟩
  · intro number rest h
    simpa [start, answersTo] using answersTo_run_of_issues host_records hwell h
  · rintro ⟨number, answer⟩ hmem
    have h := issues_of_mem_answersTo host_records events hwell (mem_answersTo.mpr hmem)
    simpa [start, answersTo] using h
  · intro number
    simpa [start] using mem_pending_run host_records events number hwell
  · intro number rest number' rest' h h' htext
    exact issues_unique host_records hwell h (idText_injective htext ▸ h')

end Link

end WorkspaceLink
