import WorkspaceLink.Proofs.Rpc.Registrations
import WorkspaceLink.Rpc.HandlerProgram

/-!
# Dispatches and what they see

Handlers change the registry that is calling them and start dispatches of their own, so several
dispatches are under way at once, each with the handlers of another moment. `observe` runs an
operation and writes down what happens; a dispatch is named by the moment at which it starts.

Main statement: however handlers nest, each dispatch calls those handlers that were live under its
key in the log of everything before its start, once each and in order, and gives their number. The
registry that is left is the one that the operations of the handlers make of the first registry in
the order in which they ran.
-/
namespace WorkspaceLink.HandlerProgram

open Registry (Follows Usage liveUnder issued)

/-! ### Histories -/

/-- What happens while operations run. -/
inductive Happening where
  /-- The registry was changed. -/
  | changed (record : Registry.Record String Handler Json)
  | started (key : String) (payload : Json)
  /-- The dispatch that started at this moment calls a handler. -/
  | called (dispatch : Nat) (entry : HandlerId × Handler) (payload : Json)
  /-- A handler finished one operation of its program. -/
  | returned (label : String) (reply : Reply)
  | ended (dispatch : Nat) (reply : Reply)
  /-- A dispatch was nested too deeply to start. -/
  | refused (key : String)

namespace Happening

/-- What handlers report of it. -/
def note? : Happening → Option Note
  | .called _ entry payload => some (.called entry.2.label payload)
  | .returned label reply => some (.returned label reply)
  | _ => none

/-- What it does to the registry. -/
def record? : Happening → Option (Registry.Record String Handler Json)
  | .changed record => some record
  | _ => none

/-- It is a call or the end of this dispatch. -/
def isOf (dispatch : Nat) : Happening → Bool
  | .called other _ _ | .ended other _ => other = dispatch
  | _ => false

end Happening

/-- The log of the registry in a history. -/
def records (history : List Happening) : List (Registry.Record String Handler Json) :=
  history.filterMap Happening.record?

/-- The operations on the registry in a history. -/
def operations (history : List Happening) : List (Registry.Operation String Handler Json) :=
  (records history).map Registry.Record.operation

/-- What a dispatch does itself: one call for each handler listed for it, then its end. -/
def service (dispatch : Nat) (listed : List (HandlerId × Handler)) (payload : Json) :
    List Happening :=
  listed.map (fun entry => .called dispatch entry payload) ++
    [.ended dispatch (.count listed.length)]

/-- A run under observation. -/
structure Course where
  state : State
  history : List Happening := []

/-- Write down what happens; handlers report some of it. -/
def Course.note (course : Course) (happening : Happening) : Course where
  state := (happening.note?).elim course.state course.state.note
  history := course.history ++ [happening]

/-- A dispatch calls a handler, which runs its program. -/
def Course.attend (perform : Action → Course → Reply × Course) (dispatch : Nat) (payload : Json)
    (course : Course) (entry : HandlerId × Handler) : Course :=
  entry.2.body.foldl (fun course action =>
    let (reply, course) := perform action course
    course.note (.returned entry.2.label reply)) (course.note (.called dispatch entry payload))

/-- What an operation other than a dispatch does to the registry. -/
def Action.record? (state : State) : Action → Option (Registry.Record String Handler Json)
  | .add key label body => some ⟨.add key ⟨label, body⟩, .added ⟨state.registry.next⟩⟩
  | .remove key label => (state.labels.lookup label).map fun id =>
    ⟨.remove key id, .removed (state.registry.contains key id)⟩
  | .clear => some ⟨.clear, .done⟩
  | _ => none

/-- Run an operation and write down what happens. -/
def observe : (depth : Nat) → Action → Course → Reply × Course
  | 0, .dispatch key _, course =>
    (.count (course.state.registry.count key), course.note (.refused key))
  | depth + 1, .dispatch key payload, course =>
    let moment := course.history.length
    let entries := course.state.registry.entries key
    let reply := .count entries.length
    let after := entries.foldl (Course.attend (observe depth) moment payload)
      (course.note (.started key payload))
    (reply, after.note (.ended moment reply))
  | depth, action, course =>
    let (reply, state) := run depth action course.state
    (reply,
      { state, history := course.history ++ (action.record? course.state).toList.map .changed })

/-! ### Programs -/

mutual

/-- What happens while an operation runs, with its reply. A dispatch that is nested too deeply does
not start. -/
inductive Performs : Action → Reply → List Happening → Prop
  | plain {action : Action} (hplain : ∀ key payload, action ≠ .dispatch key payload)
      (depth : Nat) (state : State) :
      Performs action (run depth action state).1 ((action.record? state).toList.map .changed)
  | refused (key : String) (payload : Json) (reply : Reply) :
      Performs (.dispatch key payload) reply [.refused key]
  | dispatch (key : String) {payload : Json} {moment : Nat} {listed : List (HandlerId × Handler)}
      {happened : List Happening} (hcalls : Calls moment payload listed happened) :
      Performs (.dispatch key payload) (.count listed.length)
        (.started key payload :: happened ++ [.ended moment (.count listed.length)])

/-- What happens while a dispatch calls handlers, one after the other. -/
inductive Calls : Nat → Json → List (HandlerId × Handler) → List Happening → Prop
  | nil (moment : Nat) (payload : Json) : Calls moment payload [] []
  | cons {moment : Nat} {payload : Json} {entry : HandlerId × Handler}
      {rest : List (HandlerId × Handler)} {own more : List Happening}
      (hbody : Runs entry.2.label entry.2.body own) (hrest : Calls moment payload rest more) :
      Calls moment payload (entry :: rest) (.called moment entry payload :: own ++ more)

/-- What happens while a handler runs its program. -/
inductive Runs : String → List Action → List Happening → Prop
  | nil (label : String) : Runs label [] []
  | cons {label : String} {action : Action} {reply : Reply} {body : List Action}
      {own more : List Happening} (haction : Performs action reply own)
      (hrest : Runs label body more) :
      Runs label (action :: body) (own ++ .returned label reply :: more)

end

/-! ### Observation changes nothing -/

theorem note_state (course : Course) (happening : Happening) :
    (course.note happening).state = (happening.note?).elim course.state course.state.note := rfl

theorem observe_eq_run (depth : Nat) (action : Action) (course : Course) :
    (observe depth action course).1 = (run depth action course.state).1 ∧
      (observe depth action course).2.state = (run depth action course.state).2 := by
  induction depth generalizing action course with
  | zero => cases action <;> exact ⟨rfl, rfl⟩
  | succ depth ih =>
    cases action with
    | dispatch key payload =>
      have hattend : ∀ (dispatch : Nat) (course : Course) (entry : HandlerId × Handler),
          (course.attend (observe depth) dispatch payload entry).state =
            entry.2.body.foldl (fun state action =>
              let (reply, state) := run depth action state
              state.note (.returned entry.2.label reply))
              (course.state.note (.called entry.2.label payload)) := by
        intro dispatch course entry
        refine (List.foldl_hom Course.state fun course action => ?_).symm
        obtain ⟨hreply, hstate⟩ := ih action course
        simp only [note_state, Happening.note?, Option.elim, hreply, hstate]
      refine ⟨?_, ?_⟩
      · simp [observe, run, Registry.dispatchCounted, Registry.handlers]
      · simp only [observe, run, Registry.dispatchCounted, Registry.dispatch, Registry.handlers,
          List.foldl_map]
        refine (List.foldl_hom Course.state fun course entry => ?_).symm
        exact (hattend _ course entry).symm
    | _ => exact ⟨rfl, rfl⟩

/-! ### Stretches of a run -/

/-- What happened in a stretch of a run, by the log of the registry at its beginning: what handlers
reported, the operations that made the registry what it is at the end, what each dispatch did that
started in the stretch, and which dispatches the calls are of. -/
structure Passes (log : List (Registry.Record String Handler Json)) (before after : Course)
    (happened : List Happening) : Prop where
  history : after.history = before.history ++ happened
  notes : after.state.notes = before.state.notes ++ happened.filterMap Happening.note?
  used : ∀ {σ : Type} (invoke : Handler → Json → σ → σ) (usage : Usage String Handler Json σ),
    usage.registry = before.state.registry →
      usage.run invoke (operations happened) =
        { usage with log := usage.log ++ records happened, registry := after.state.registry }
  served : ∀ earlier key payload later, happened = earlier ++ .started key payload :: later →
    let moment := before.history.length + earlier.length
    later.filter (Happening.isOf moment) =
      service moment (liveUnder key (log ++ records earlier)) payload
  named : ∀ earlier happening later, happened = earlier ++ happening :: later →
    ∀ dispatch, happening.isOf dispatch → dispatch < before.history.length ∨
      ∃ place key payload, dispatch = before.history.length + place ∧
        earlier[place]? = some (.started key payload)

/-- Nothing of the dispatches that started at such a moment happens. -/
def Silent (moments : Nat → Prop) (happened : List Happening) : Prop :=
  ∀ moment, moments moment → happened.filter (Happening.isOf moment) = []

variable {log : List (Registry.Record String Handler Json)} {before mid after course : Course}
  {happened more : List Happening}

@[simp] theorem records_append (first second : List Happening) :
    records (first ++ second) = records first ++ records second := List.filterMap_append

@[simp] theorem operations_append (first second : List Happening) :
    operations (first ++ second) = operations first ++ operations second := by
  simp [operations]

/-- A place in two lists on end is a place in one of them. -/
theorem split_append {α : Type} {first second earlier later : List α} {x : α}
    (h : first ++ second = earlier ++ x :: later) :
    (∃ own, first = earlier ++ x :: own ∧ later = own ++ second) ∨
      ∃ own, earlier = first ++ own ∧ second = own ++ x :: later := by
  rcases List.append_eq_append_iff.mp h with ⟨own, hearlier, hsecond⟩ | ⟨own, hfirst, hrest⟩
  · exact .inr ⟨own, hearlier, hsecond⟩
  · cases own with
    | nil => exact .inr ⟨[], by simpa using hfirst.symm, hrest.symm⟩
    | cons head own =>
      obtain ⟨rfl, rfl⟩ := List.cons_eq_cons.mp hrest
      exact .inl ⟨own, hfirst, rfl⟩

theorem Passes.follows (h : Passes log before after happened)
    (hlog : Follows log before.state.registry) :
    Follows (log ++ records happened) after.state.registry := by
  have hrun := Follows.run (fun _ _ _ => ()) (operations happened)
    { log, registry := before.state.registry, state := () } hlog
  rwa [h.used _ _ rfl] at hrun

theorem passes_idle (hhistory : after.history = before.history)
    (hnotes : after.state.notes = before.state.notes)
    (hregistry : after.state.registry = before.state.registry) :
    Passes log before after [] where
  history := by rw [hhistory, List.append_nil]
  notes := by rw [hnotes, List.filterMap_nil, List.append_nil]
  used _ usage hstart := by
    rw [hregistry, ← hstart]
    exact congrArg (Usage.mk · _ _) (List.append_nil _).symm
  served _ _ _ _ hsplit := by simp at hsplit
  named _ _ _ hsplit := by simp at hsplit

/-- One happening that is no start. -/
theorem passes_single {happening : Happening}
    (hhistory : after.history = before.history ++ [happening])
    (hnotes : after.state.notes = before.state.notes ++ happening.note?.toList)
    (hused : ∀ {σ : Type} (invoke : Handler → Json → σ → σ) (usage : Usage String Handler Json σ),
      usage.registry = before.state.registry →
        usage.run invoke (operations [happening]) =
          { usage with
            log := usage.log ++ records [happening], registry := after.state.registry })
    (hstart : ∀ key payload, happening ≠ .started key payload)
    (hnamed : ∀ dispatch, happening.isOf dispatch → dispatch < before.history.length) :
    Passes log before after [happening] where
  history := hhistory
  notes := by cases h : happening.note? <;> simpa [h] using hnotes
  used := hused
  served earlier key payload later hsplit := by
    have hmem : Happening.started key payload ∈ [happening] := by simp [hsplit]
    exact absurd (List.mem_singleton.mp hmem).symm (hstart key payload)
  named earlier other later hsplit dispatch hof := by
    have hmem : other ∈ [happening] := by simp [hsplit]
    rw [List.mem_singleton.mp hmem] at hof
    exact .inl (hnamed dispatch hof)

/-- What happens to the history only. -/
theorem passes_note (happening : Happening) (hrecord : happening.record? = none)
    (hstart : ∀ key payload, happening ≠ .started key payload)
    (hnamed : ∀ dispatch, happening.isOf dispatch → dispatch < course.history.length) :
    Passes log course (course.note happening) [happening] := by
  have hrecords : records [happening] = [] := by simp [records, hrecord]
  have hregistry : (course.note happening).state.registry = course.state.registry := by
    rw [note_state]
    cases happening.note? <;> rfl
  refine passes_single rfl ?_ (fun _ usage hbegin => ?_) hstart hnamed
  · rw [note_state]
    cases happening.note? with
    | none => exact (List.append_nil _).symm
    | some note => rfl
  · rw [operations, hrecords, hregistry, ← hbegin]
    exact congrArg (Usage.mk · _ _) (List.append_nil _).symm

/-- Two stretches make one, if the second is silent about the dispatches that the first starts. -/
theorem Passes.trans (h : Passes log before mid happened)
    (hmore : Passes (log ++ records happened) mid after more)
    (hsilent : Silent (fun moment => before.history.length ≤ moment ∧ moment < mid.history.length)
      more) : Passes log before after (happened ++ more) where
  history := by rw [hmore.history, h.history, List.append_assoc]
  notes := by rw [hmore.notes, h.notes, List.append_assoc, List.filterMap_append]
  used invoke usage hstart := by
    rw [operations_append, Usage.run, List.foldl_append]
    have hfirst := h.used invoke usage hstart
    have hsecond := hmore.used invoke (usage.run invoke (operations happened)) (by rw [hfirst])
    rw [Usage.run, Usage.run] at hsecond
    rw [hsecond, ← Usage.run, hfirst, records_append, ← List.append_assoc]
  served earlier key payload later hsplit := by
    intro moment
    have hlength : mid.history.length = before.history.length + happened.length := by
      rw [h.history, List.length_append]
    rcases split_append hsplit with ⟨own, hfirst, rfl⟩ | ⟨own, rfl, hsecond⟩
    · have hquiet : more.filter (Happening.isOf moment) = [] := by
        refine hsilent moment ⟨Nat.le_add_right _ _, ?_⟩
        rw [hlength, hfirst, List.length_append, List.length_cons]
        omega
      rw [List.filter_append, hquiet, List.append_nil]
      exact h.served earlier key payload own hfirst
    · have hserved := hmore.served own key payload later hsecond
      rwa [hlength, Nat.add_assoc, ← List.length_append, List.append_assoc, ← records_append]
        at hserved
  named earlier happening later hsplit dispatch hof := by
    have hlength : mid.history.length = before.history.length + happened.length := by
      rw [h.history, List.length_append]
    rcases split_append hsplit with ⟨own, hfirst, rfl⟩ | ⟨own, rfl, hsecond⟩
    · exact h.named earlier happening own hfirst dispatch hof
    · rcases hmore.named own happening later hsecond dispatch hof with
        hlt | ⟨place, key, payload, rfl, hstart⟩
      · refine .inl (Nat.lt_of_not_le fun hle => ?_)
        have hmem : happening ∈ more.filter (Happening.isOf dispatch) := by
          rw [List.mem_filter, hsecond]
          exact ⟨by simp, hof⟩
        rw [hsilent dispatch ⟨hle, hlt⟩] at hmem
        exact List.not_mem_nil hmem
      · refine .inr ⟨happened.length + place, key, payload, by rw [hlength, Nat.add_assoc], ?_⟩
        rw [List.getElem?_append_right (Nat.le_add_right _ _), Nat.add_sub_cancel_left]
        exact hstart

/-! ### Operations and programs in a run -/

/-- What an operation does in a stretch of a run: of the dispatches that started before it nothing
happens. -/
structure Acts (log : List (Registry.Record String Handler Json)) (before : Course)
    (action : Action) (reply : Reply) (after : Course) (happened : List Happening) : Prop
    extends Passes log before after happened where
  silent : Silent (· < before.history.length) happened
  performs : Performs action reply happened

/-- What the program of a handler does in a stretch of a run. -/
structure Works (log : List (Registry.Record String Handler Json)) (before : Course)
    (label : String) (body : List Action) (after : Course) (happened : List Happening) : Prop
    extends Passes log before after happened where
  silent : Silent (· < before.history.length) happened
  runs : Runs label body happened

/-- The handler that ran an operation goes on. -/
theorem Acts.returns {action : Action} {reply : Reply}
    (h : Acts log before action reply after happened) (label : String) :
    Passes log before (after.note (.returned label reply))
      (happened ++ [.returned label reply]) := by
  refine h.toPasses.trans (passes_note _ rfl (fun _ _ => by simp) fun dispatch hof => ?_) ?_
  · simp [Happening.isOf] at hof
  · exact fun moment _ => rfl

/-- One operation of a program, and those after it. -/
theorem Acts.followed {action : Action} {reply : Reply} {label : String} {body : List Action}
    (h : Acts log before action reply mid happened)
    (hmore : Works (log ++ records (happened ++ [.returned label reply]))
      (mid.note (.returned label reply)) label body after more) :
    Works log before label (action :: body) after (happened ++ .returned label reply :: more) where
  toPasses := by
    have hall := (h.returns label).trans hmore.toPasses fun moment hmoment =>
      hmore.silent moment hmoment.2
    rwa [List.append_assoc] at hall
  silent moment hlt := by
    have hle : before.history.length ≤ (mid.note (.returned label reply)).history.length := by
      simp [(h.returns label).history]
    rw [List.filter_append, h.silent moment hlt]
    exact hmore.silent moment (Nat.lt_of_lt_of_le hlt hle)
  runs := .cons h.performs hmore.runs

/-! ### One dispatch -/

section

variable {perform : Action → Course → Reply × Course}
  (hperform : ∀ action course log, Follows log course.state.registry →
    ∃ happened,
      Acts log course action (perform action course).1 (perform action course).2 happened)

include hperform

/-- The program of a handler. -/
theorem works_body (label : String) (body : List Action) (course : Course)
    (log : List (Registry.Record String Handler Json)) (hlog : Follows log course.state.registry) :
    ∃ happened, Works log course label body
      (body.foldl (fun course action =>
        let (reply, course) := perform action course
        course.note (.returned label reply)) course) happened := by
  induction body generalizing course log with
  | nil => exact ⟨[], passes_idle rfl rfl rfl, fun _ _ => rfl, .nil label⟩
  | cons action rest ih =>
    obtain ⟨happened, hacts⟩ := hperform action course log hlog
    obtain ⟨more, hmore⟩ := ih _ _ ((hacts.returns label).follows hlog)
    exact ⟨_, hacts.followed hmore⟩

/-- A dispatch calls one handler: of its own it does nothing else, and other dispatches that are
under way do nothing. -/
theorem passes_attend (payload : Json) (entry : HandlerId × Handler) {dispatch : Nat}
    (hdispatch : dispatch < course.history.length) (hlog : Follows log course.state.registry) :
    ∃ own, Passes log course (course.attend perform dispatch payload entry)
        (.called dispatch entry payload :: own) ∧
      own.filter (Happening.isOf dispatch) = [] ∧
      Silent (fun moment => moment < course.history.length ∧ moment ≠ dispatch)
        (.called dispatch entry payload :: own) ∧
      Runs entry.2.label entry.2.body own := by
  have hcall : Passes log course (course.note (.called dispatch entry payload))
      [.called dispatch entry payload] := by
    refine passes_note _ rfl (fun _ _ => by simp) fun other hof => ?_
    have hsame : dispatch = other := by simpa [Happening.isOf] using hof
    exact hsame ▸ hdispatch
  have hfollows := hcall.follows hlog
  obtain ⟨happened, hworks⟩ := works_body hperform entry.2.label entry.2.body _ _ hfollows
  have hquiet : ∀ moment < course.history.length,
      happened.filter (Happening.isOf moment) = [] := by
    intro moment hlt
    refine hworks.silent moment ?_
    rw [hcall.history, List.length_append]
    omega
  refine ⟨happened,
    hcall.trans hworks.toPasses fun moment hmoment => hworks.silent moment hmoment.2,
    hquiet dispatch hdispatch, ?_, hworks.runs⟩
  intro moment ⟨hlt, hne⟩
  simp [Happening.isOf, Ne.symm hne, hquiet moment hlt]

/-- The calls of a dispatch. -/
theorem passes_calls (payload : Json) (entries : List (HandlerId × Handler)) {dispatch : Nat}
    (hdispatch : dispatch < course.history.length) (hlog : Follows log course.state.registry) :
    ∃ happened,
      Passes log course (entries.foldl (Course.attend perform dispatch payload) course) happened ∧
      happened.filter (Happening.isOf dispatch) =
        entries.map (fun entry => .called dispatch entry payload) ∧
      Silent (fun moment => moment < course.history.length ∧ moment ≠ dispatch) happened ∧
      Calls dispatch payload entries happened := by
  induction entries generalizing course log with
  | nil =>
    exact ⟨[], passes_idle rfl rfl rfl, rfl, fun _ _ => rfl, .nil dispatch payload⟩
  | cons entry rest ih =>
    obtain ⟨own, hcall, hown, hsilent, hruns⟩ :=
      passes_attend hperform payload entry hdispatch hlog
    have hle : course.history.length ≤
        (course.attend perform dispatch payload entry).history.length := by simp [hcall.history]
    obtain ⟨more, hcalls, hmore, hquiet, hlater⟩ :=
      ih (Nat.lt_of_lt_of_le hdispatch hle) (hcall.follows hlog)
    refine ⟨.called dispatch entry payload :: own ++ more, hcall.trans hcalls ?_, ?_, ?_,
      .cons hruns hlater⟩
    · exact fun moment hmoment => hquiet moment ⟨hmoment.2, by omega⟩
    · rw [List.filter_append, hmore, List.filter_cons_of_pos (by simp [Happening.isOf]), hown]
      rfl
    · intro moment ⟨hlt, hne⟩
      rw [List.filter_append, hsilent moment ⟨hlt, hne⟩,
        hquiet moment ⟨Nat.lt_of_lt_of_le hlt hle, hne⟩]
      rfl

end

/-- A dispatch starts, and what follows is its service and whatever else happens meanwhile. -/
theorem Passes.start {key : String} {payload : Json}
    (h : Passes log (course.note (.started key payload)) after happened)
    (hown : happened.filter (Happening.isOf course.history.length) =
      service course.history.length (liveUnder key log) payload) :
    Passes log course after (.started key payload :: happened) where
  history := by rw [h.history]; exact List.append_assoc _ _ _
  notes := h.notes
  used := h.used
  served earlier other given later hsplit := by
    intro moment
    cases earlier with
    | nil =>
      obtain ⟨hstart, rfl⟩ := List.cons_eq_cons.mp hsplit
      cases hstart
      simpa [moment, records] using hown
    | cons head earlier =>
      obtain ⟨rfl, hrest⟩ := List.cons_eq_cons.mp hsplit
      have hserved := h.served earlier other given later hrest
      have hmoment : (course.note (.started key payload)).history.length + earlier.length =
          moment := by
        simp [moment, Course.note]
        omega
      rwa [hmoment] at hserved
  named earlier happening later hsplit dispatch hof := by
    cases earlier with
    | nil =>
      obtain ⟨rfl, rfl⟩ := List.cons_eq_cons.mp hsplit
      simp [Happening.isOf] at hof
    | cons head earlier =>
      obtain ⟨rfl, hrest⟩ := List.cons_eq_cons.mp hsplit
      have hlength : (course.note (.started key payload)).history.length =
          course.history.length + 1 := by simp [Course.note]
      rcases h.named earlier happening later hrest dispatch hof with
        hlt | ⟨place, inner, given, rfl, hstart⟩
      · rw [hlength] at hlt
        rcases Nat.lt_succ_iff_lt_or_eq.mp hlt with hlt | rfl
        · exact .inl hlt
        · exact .inr ⟨0, key, payload, rfl, rfl⟩
      · exact .inr ⟨place + 1, inner, given, by rw [hlength]; omega, hstart⟩

/-! ### Any operation -/

/-- One change of the registry. -/
theorem acts_changed {action : Action} {reply : Reply} {state : State}
    (record : Registry.Record String Handler Json)
    (hperforms : Performs action reply [.changed record])
    (hnotes : state.notes = course.state.notes)
    (hperform : ∀ {σ : Type} (invoke : Handler → Json → σ → σ)
      (usage : Usage String Handler Json σ), usage.registry = course.state.registry →
        usage.perform invoke record.operation =
          { usage with log := usage.log ++ [record], registry := state.registry }) :
    Acts log course action reply { state, history := course.history ++ [.changed record] }
      [.changed record] where
  toPasses := by
    refine passes_single rfl ?_ hperform (fun _ _ => by simp) fun dispatch hof => ?_
    · exact hnotes.trans (List.append_nil _).symm
    · simp [Happening.isOf] at hof
  silent _ _ := rfl
  performs := hperforms

/-- An operation that only looks. -/
theorem acts_idle {action : Action} {reply : Reply} (hperforms : Performs action reply [])
    (hhistory : after.history = course.history) (hstate : after.state = course.state) :
    Acts log course action reply after [] where
  toPasses := passes_idle hhistory (by rw [hstate]) (by rw [hstate])
  silent _ _ := rfl
  performs := hperforms

theorem observe_plain (depth : Nat) {action : Action}
    (hplain : ∀ key payload, action ≠ .dispatch key payload) :
    observe depth action course = ((run depth action course.state).1,
      { state := (run depth action course.state).2
        history := course.history ++ (action.record? course.state).toList.map .changed }) := by
  cases action with
  | dispatch key payload => exact absurd rfl (hplain key payload)
  | _ => cases depth <;> rfl

/-- Every operation but a dispatch. -/
theorem acts_plain (depth : Nat) {action : Action}
    (hplain : ∀ key payload, action ≠ .dispatch key payload) :
    ∃ happened, Acts log course action (observe depth action course).1
      (observe depth action course).2 happened := by
  rw [observe_plain depth hplain]
  have hperforms := Performs.plain hplain depth course.state
  cases action with
  | dispatch key payload => exact absurd rfl (hplain key payload)
  | add key label body =>
    refine ⟨_, acts_changed ⟨.add key ⟨label, body⟩, .added ⟨course.state.registry.next⟩⟩
      hperforms ?_ ?_⟩
    · rw [run]
      rfl
    · rintro σ invoke ⟨_, _, _⟩ rfl
      rw [run]
      rfl
  | remove key label =>
    rw [run, State.remove, Action.record?] at *
    cases hlookup : course.state.labels.lookup label with
    | none =>
      rw [hlookup] at hperforms
      exact ⟨[], acts_idle hperforms (List.append_nil _) rfl⟩
    | some id =>
      rw [hlookup] at hperforms
      refine ⟨_, acts_changed
        ⟨.remove key id, .removed (course.state.registry.contains key id)⟩ hperforms rfl ?_⟩
      rintro σ invoke ⟨_, _, _⟩ rfl
      rfl
  | clear =>
    refine ⟨_, acts_changed ⟨.clear, .done⟩ hperforms ?_ ?_⟩
    · rw [run]
    · rintro σ invoke ⟨_, _, _⟩ rfl
      rw [run]
      rfl
  | count _ | summary | increasing _ =>
    refine ⟨[], acts_idle hperforms (List.append_nil _) ?_⟩
    rw [run]

/-- A dispatch, when operations one level deeper act as they should. -/
theorem acts_dispatch (depth : Nat) (key : String) (payload : Json) (course : Course)
    (hperform : ∀ action course log, Follows log course.state.registry →
      ∃ happened, Acts log course action (observe depth action course).1
        (observe depth action course).2 happened)
    (hlog : Follows log course.state.registry) :
    ∃ inner, Acts log course (.dispatch key payload)
      (observe (depth + 1) (.dispatch key payload) course).1
      (observe (depth + 1) (.dispatch key payload) course).2
      (.started key payload :: inner ++
        [.ended course.history.length
          (observe (depth + 1) (.dispatch key payload) course).1]) := by
  let opened := course.note (.started key payload)
  let entries := course.state.registry.entries key
  have hlength : opened.history.length = course.history.length + 1 := by
    simp [opened, Course.note]
  have hdispatch : course.history.length < opened.history.length := hlength ▸ Nat.lt_succ_self _
  obtain ⟨inner, hcalls, hown, hsilent, hcalled⟩ :=
    passes_calls hperform payload entries hdispatch hlog
  let final : Happening := .ended course.history.length (.count entries.length)
  have hall : Passes log opened
      (observe (depth + 1) (.dispatch key payload) course).2 (inner ++ [final]) := by
    refine hcalls.trans (passes_note final rfl (fun _ _ => by simp [final]) ?_) ?_
    · intro dispatch hof
      have hsame : course.history.length = dispatch := by simpa [final, Happening.isOf] using hof
      rw [hcalls.history, List.length_append, ← hsame]
      omega
    · intro moment ⟨hle, _⟩
      have hne : course.history.length ≠ moment := by omega
      simp [final, Happening.isOf, hne]
  have hservice : (inner ++ [final]).filter (Happening.isOf course.history.length) =
      service course.history.length (liveUnder key log) payload := by
    rw [List.filter_append, hown, service, ← hlog.entries]
    simp [final, Happening.isOf, entries]
  refine ⟨inner, hall.start hservice, fun moment hlt => ?_, .dispatch key hcalled⟩
  have hquiet := hsilent moment ⟨by omega, by omega⟩
  have hne : course.history.length ≠ moment := by omega
  simp [Happening.isOf, hquiet, hne]

theorem observe_acts (depth : Nat) (action : Action) (course : Course)
    (log : List (Registry.Record String Handler Json))
    (hlog : Follows log course.state.registry) :
    ∃ happened, Acts log course action (observe depth action course).1
      (observe depth action course).2 happened := by
  induction depth generalizing action course log with
  | zero =>
    cases action with
    | dispatch key payload =>
      refine ⟨_, passes_note (.refused key) rfl (fun _ _ => by simp) fun dispatch hof => ?_,
        fun _ _ => rfl, .refused key payload _⟩
      simp [Happening.isOf] at hof
    | _ => exact acts_plain 0 fun _ _ => by simp
  | succ depth ih =>
    cases action with
    | dispatch key payload =>
      obtain ⟨inner, hacts⟩ := acts_dispatch depth key payload course ih hlog
      exact ⟨_, hacts⟩
    | _ => exact acts_plain _ fun _ _ => by simp

/-! ### The bound on nesting -/

/-- No dispatch was refused. -/
def Course.Complete (course : Course) : Prop := ∀ key, .refused key ∉ course.history

theorem Course.Complete.of_prefix (h : after.Complete)
    (hgrows : before.history <+: after.history) : before.Complete :=
  fun key hmem => h key (hgrows.subset hmem)

section

variable {α : Type} {f g : Course → α → Course}
  (hgrows : ∀ course a, course.history <+: (g course a).history)

include hgrows

theorem foldl_grows (as : List α) (course : Course) :
    course.history <+: (as.foldl g course).history := by
  induction as generalizing course with
  | nil => exact List.prefix_refl _
  | cons a rest ih => exact List.IsPrefix.trans (hgrows course a) (ih _)

theorem foldl_eq_of_complete (heq : ∀ course a, (g course a).Complete → f course a = g course a)
    (as : List α) (course : Course) (h : (as.foldl g course).Complete) :
    as.foldl f course = as.foldl g course := by
  induction as generalizing course with
  | nil => rfl
  | cons a rest ih =>
    have hfirst : f course a = g course a := heq course a (h.of_prefix (foldl_grows hgrows rest _))
    rw [List.foldl_cons, List.foldl_cons, hfirst]
    exact ih _ h

end

theorem note_grows (course : Course) (happening : Happening) :
    course.history <+: (course.note happening).history := List.prefix_append _ _

theorem attend_grows {perform : Action → Course → Reply × Course}
    (hperform : ∀ action course, course.history <+: (perform action course).2.history)
    (dispatch : Nat) (payload : Json) (course : Course) (entry : HandlerId × Handler) :
    course.history <+: (course.attend perform dispatch payload entry).history := by
  refine List.IsPrefix.trans (note_grows _ _) (foldl_grows (fun course action => ?_) _ _)
  exact List.IsPrefix.trans (hperform action course) (note_grows _ _)

theorem observe_grows (depth : Nat) (action : Action) (course : Course) :
    course.history <+: (observe depth action course).2.history := by
  induction depth generalizing action course with
  | zero =>
    cases action with
    | dispatch key payload => exact note_grows _ _
    | _ => exact List.prefix_append _ _
  | succ depth ih =>
    cases action with
    | dispatch key payload =>
      refine List.IsPrefix.trans (note_grows course (.started key payload))
        (List.IsPrefix.trans ?_ (note_grows _ _))
      exact foldl_grows (attend_grows ih _ payload) _ _
    | _ => exact List.prefix_append _ _

/-- With nothing refused, a deeper bound changes nothing. -/
theorem observe_succ (depth : Nat) (action : Action) (course : Course)
    (h : (observe depth action course).2.Complete) :
    observe (depth + 1) action course = observe depth action course := by
  induction depth generalizing action course with
  | zero =>
    cases action with
    | dispatch key payload => exact absurd (List.mem_append_right _ List.mem_cons_self) (h key)
    | _ => rfl
  | succ depth ih =>
    cases action with
    | dispatch key payload =>
      have hattend : ∀ moment course entry,
          (Course.attend (observe depth) moment payload course entry).Complete →
            Course.attend (observe (depth + 1)) moment payload course entry =
              Course.attend (observe depth) moment payload course entry := by
        intro moment course entry hcomplete
        refine foldl_eq_of_complete (fun course action => ?_) (fun course action hone => ?_) _ _
          hcomplete
        · exact List.IsPrefix.trans (observe_grows depth action course) (note_grows _ _)
        · have hsame := ih action course (hone.of_prefix (note_grows _ _))
          simp only [hsame]
      have hcalls := foldl_eq_of_complete
        (attend_grows (observe_grows depth) course.history.length payload)
        (hattend course.history.length) (course.state.registry.entries key)
        (course.note (.started key payload)) (h.of_prefix (note_grows _ _))
      rw [observe, observe, hcalls]
    | _ => rfl

theorem observe_deeper {depth deeper : Nat} (hdeeper : depth ≤ deeper) {action : Action}
    (h : (observe depth action course).2.Complete) :
    observe deeper action course = observe depth action course := by
  induction hdeeper with
  | refl => rfl
  | step _ ih => rw [observe_succ _ action course (ih ▸ h), ih]

/-! ### Dispatches and handlers -/

/-- A handler that was added at a moment is called by later dispatches only. -/
theorem Passes.called_after_added (h : Passes log before after happened)
    (hlog : Follows log before.state.registry) (hfirst : before.history = [])
    {earlier later : List Happening} {key : String} {handler : Handler} {id : HandlerId}
    (hadded : happened = earlier ++ .changed ⟨.add key handler, .added id⟩ :: later)
    {dispatch : Nat} {entry : HandlerId × Handler} {payload : Json}
    (hcalled : .called dispatch entry payload ∈ happened) (hid : entry.1 = id) :
    earlier.length < dispatch := by
  obtain ⟨front, rest, hsplit⟩ := List.append_of_mem hcalled
  rcases h.named front _ rest hsplit dispatch (by simp [Happening.isOf]) with
    hlt | ⟨place, listed, given, hplace, hstart⟩
  · simp [hfirst] at hlt
  obtain rfl : dispatch = place := by simpa [hfirst] using hplace
  refine Nat.lt_of_not_le fun hle => ?_
  obtain ⟨hlt, hget⟩ := List.getElem?_eq_some_iff.mp hstart
  -- The handler is one of those listed when the dispatch started, ...
  have hopened : happened = front.take dispatch ++ .started listed given ::
      (front.drop (dispatch + 1) ++ .called dispatch entry payload :: rest) := by
    rw [← List.cons_append, ← hget, List.getElem_cons_drop, ← List.append_assoc,
      List.take_append_drop]
    exact hsplit
  have hserved := h.served _ listed given _ hopened
  have hmoment : before.history.length + (front.take dispatch).length = dispatch := by
    simp [hfirst, Nat.le_of_lt hlt]
  rw [hmoment] at hserved
  have hservice : .called dispatch entry payload ∈
      service dispatch (liveUnder listed (log ++ records (front.take dispatch))) given := by
    rw [← hserved, List.mem_filter]
    exact ⟨by simp, by simp [Happening.isOf]⟩
  have hlive : entry ∈ liveUnder listed (log ++ records (front.take dispatch)) := by
    simp only [service, List.mem_append, List.mem_map, List.mem_singleton, Happening.called.injEq,
      reduceCtorEq, or_false] at hservice
    obtain ⟨other, hother, -, rfl, -⟩ := hservice
    exact hother
  -- ... so its identifier was given out before that and not again when the handler was added.
  have hbefore : front.take dispatch = earlier.take dispatch := by
    have hsame := congrArg (List.take dispatch) (hsplit.symm.trans hadded)
    rwa [List.take_append_of_le_length (Nat.le_of_lt hlt), List.take_append_of_le_length hle]
      at hsame
  have hissued : id ∈ issued (log ++ records earlier) := by
    have hmem := (Registry.ids_liveUnder_sublist _ _).subset (List.mem_map_of_mem hlive)
    rw [hbefore, hid] at hmem
    rw [← List.take_append_drop dispatch earlier, records_append, ← List.append_assoc,
      Registry.issued_append]
    exact List.mem_append_left _ hmem
  have hrising := (h.follows hlog).rising
  rw [hadded, records_append, ← List.append_assoc, Registry.issued_append, List.pairwise_append]
    at hrising
  have hnew : id ∈ issued (records (.changed ⟨.add key handler, .added id⟩ :: later)) := by
    simp [issued, records, Happening.record?, Registry.Record.made?]
  exact absurd (hrising.2.2 id hissued id hnew) (Nat.lt_irrefl _)

/-- However handlers change the registry and nest dispatches, in a run from any registry in use:
* what handlers report, and what becomes of the registry, is what the history says: its operations,
  done one after the other in the order of the history;
* a dispatch, named by the moment at which it starts, calls the handlers that the log of everything
  before shows live under its key, each once, in order and with its payload, and then ends with
  their number; nothing else in the history is of that dispatch, and nothing before its start;
* a handler added meanwhile is called by those dispatches only that start later;
* the history is that of the operation, where each call is followed by the program of the handler,
  operation by operation with their replies, before the next handler is called;
* a dispatch within the bound starts first and ends last, with the number that it gives, and if no
  dispatch was nested too deeply to start, the bound does not matter. -/
theorem dispatches_call_listed {σ : Type} (invoke : Handler → Json → σ → σ)
    (past : List (Registry.Operation String Handler Json)) (next : Nat) (start : σ)
    (labels : List (String × HandlerId)) (notes : List Note) (depth : Nat) (action : Action) :
    let usage := Usage.run invoke past { registry := { next }, state := start }
    let before : State := { registry := usage.registry, labels, notes }
    let result := run depth action before
    let history := (observe depth action { state := before }).2.history
    result.2.notes = notes ++ history.filterMap Happening.note? ∧
      usage.run invoke (operations history) =
        { usage with log := usage.log ++ records history, registry := result.2.registry } ∧
      (∀ earlier key payload later, history = earlier ++ .started key payload :: later →
        later.filter (Happening.isOf earlier.length) =
          service earlier.length (liveUnder key (usage.log ++ records earlier)) payload) ∧
      (∀ earlier happening later, history = earlier ++ happening :: later →
        ∀ dispatch, happening.isOf dispatch →
          ∃ key payload, earlier[dispatch]? = some (.started key payload)) ∧
      (∀ earlier key handler id later,
        history = earlier ++ .changed ⟨.add key handler, .added id⟩ :: later →
          ∀ dispatch entry payload, .called dispatch entry payload ∈ history → entry.1 = id →
            earlier.length < dispatch) ∧
      Performs action result.1 history ∧
      (∀ key payload, action = .dispatch key payload → 0 < depth →
        ∃ inner, history = .started key payload :: (inner ++ [.ended 0 result.1])) ∧
      ((∀ key, .refused key ∉ history) →
        ∀ deeper, depth ≤ deeper → run deeper action before = result) := by
  intro usage before result history
  have hlog : Follows usage.log before.registry :=
    Follows.run invoke past _ (Registry.follows_nil next)
  obtain ⟨hreply, hstate⟩ := observe_eq_run depth action { state := before }
  obtain ⟨happened, hacts⟩ := observe_acts depth action { state := before } usage.log hlog
  have hhistory : history = happened := hacts.history
  rw [hhistory]
  refine ⟨?_, ?_, ?_, ?_, ?_, ?_, ?_, ?_⟩
  · rw [← hacts.notes, hstate]
  · rw [hacts.used invoke usage rfl, hstate]
  · intro earlier key payload later hsplit
    simpa using hacts.served earlier key payload later hsplit
  · intro earlier happening later hsplit dispatch hof
    rcases hacts.named earlier happening later hsplit dispatch hof with
      hlt | ⟨place, key, payload, rfl, hstart⟩
    · exact absurd hlt (Nat.not_lt_zero _)
    · exact ⟨key, payload, by simpa using hstart⟩
  · intro earlier key handler id later hadded dispatch entry payload hcalled hid
    exact hacts.toPasses.called_after_added hlog rfl hadded hcalled hid
  · rw [← hreply]
    exact hacts.performs
  · rintro key payload rfl hdepth
    obtain ⟨depth, rfl⟩ := Nat.exists_eq_succ_of_ne_zero (Nat.ne_of_gt hdepth)
    obtain ⟨inner, hdispatch⟩ :=
      acts_dispatch depth key payload { state := before } (observe_acts depth) hlog
    refine ⟨inner, ?_⟩
    rw [← hhistory, ← hreply]
    exact hdispatch.history
  · intro hcomplete deeper hdeeper
    have hsame := observe_deeper hdeeper (hhistory ▸ hcomplete)
    obtain ⟨hreply', hstate'⟩ := observe_eq_run deeper action { state := before }
    exact Prod.ext (by rw [← hreply', ← hreply, hsame]) (by rw [← hstate', ← hstate, hsame])

end WorkspaceLink.HandlerProgram
