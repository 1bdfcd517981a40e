import WorkspaceLink.Proofs.Settings.Merging
import WorkspaceLink.Settings.Load

/-!
# Which layer a setting comes from

A setting is described by the variable that overrides it: where it stands in a file, which values
and which texts it takes, and how it is read from the settings. With that, loading is a statement
about each setting alone: the text of its variable counts if it is accepted, else the value of the
file, else the default; and the file is refused when one of its values does not fit.
-/
namespace WorkspaceLink

/-! ### What an object gives -/

namespace Json

/-- The members that an object gives: `null` gives nothing. -/
def given? (members : List (String × Json)) (name : String) : Option Json :=
  (members.lookup name).filter fun value => value ≠ .null

/-- The members of an object that is a member, none if there is no such object. -/
def part (members : List (String × Json)) (name : String) : List (String × Json) :=
  match members.lookup name with
  | some (.obj inner) => inner
  | _ => []

theorem overlay_lookup (below? : Option Json) (members : List (String × Json)) (name : String) :
    overlay below? (members.lookup name) =
      ((given? members name).map fun value =>
        (below?.map (merge · value)).getD value).or below? := by
  rw [given?]
  cases members.lookup name with
  | none => rfl
  | some value =>
    by_cases hnull : value = .null
    · simp [hnull, Option.filter]
    · simp [overlay_some hnull, hnull, Option.filter]

end Json

/-! ### Settings one by one -/

inductive Setting where
  | number (n : Nat)
  | flag (b : Bool)
  | text (s : String)
  deriving DecidableEq, Repr

/-- The value as it is written to a file. -/
def Setting.toJson : Setting → Json
  | .number n => .nat n
  | .flag b => .bool b
  | .text s => .str s

/-- What a setting ranges over. A number has an integer type, and a variable may set it within
bounds only. -/
inductive Domain where
  | number (kind : Word) (least greatest : Nat)
  | flag
  | text
  deriving DecidableEq, Repr

namespace Domain

/-- The setting that a value of a file stands for; none if the value does not fit. -/
def ofJson? : Domain → Json → Option Setting
  | .number kind _ _, .num (.int n) =>
    if kind.least ≤ n ∧ n ≤ kind.greatest then some (.number n.toNat) else none
  | .flag, .bool b => some (.flag b)
  | .text, .str s => some (.text s)
  | _, _ => none

/-- The setting that the text of a variable stands for; none if the text is not accepted. -/
def ofText? : Domain → String → Option Setting
  | .number kind least greatest, written =>
    (parseWord? kind written).bind fun n =>
      if least ≤ n ∧ n ≤ greatest then some (.number n) else none
  | .flag, written => (parseFlag? written).map .flag
  | .text, written => if written.isEmpty then none else some (.text written)

theorem ofJson?_number {kind : Word} (least greatest : Nat) {value : Json} {n : Nat} :
    ofJson? (.number kind least greatest) value = some (.number n) ↔
      Decode.word kind value = .ok n := by
  unfold Decode.word Decode.integer
  split
  · simp only [ofJson?]
    split <;> simp [Except.map]
  next other hother =>
    cases value with
    | num m =>
      cases m with
      | int m => exact absurd rfl (hother m)
      | float bits => simp [ofJson?, Except.map]
    | _ => simp [ofJson?, Except.map]

theorem ofJson?_flag {value : Json} {b : Bool} :
    ofJson? .flag value = some (.flag b) ↔ Decode.flag value = .ok b := by
  cases value <;> simp [ofJson?, Decode.flag]

theorem ofJson?_text {value : Json} {s : String} :
    ofJson? .text value = some (.text s) ↔ Decode.text value = .ok s := by
  cases value <;> simp [ofJson?, Decode.text]

theorem ofText?_number (kind : Word) (least greatest : Nat) (written : String) :
    ofText? (.number kind least greatest) written =
      (parseWordIn? kind least greatest written).map .number := by
  rw [ofText?, parseWordIn?]
  cases parseWord? kind written with
  | none => rfl
  | some n => by_cases hbounds : least ≤ n ∧ n ≤ greatest <;> simp [hbounds, Option.filter]

theorem ofText?_eq_number {kind : Word} {least greatest n : Nat} {written : String}
    (h : parseWordIn? kind least greatest written = some n) :
    ofText? (.number kind least greatest) written = some (.number n) := by
  rw [ofText?_number, h, Option.map_some]

theorem ofText?_flag (written : String) :
    ofText? .flag written = (parseFlag? written).map .flag := rfl

theorem ofText?_text (written : String) :
    ofText? .text written = if written.isEmpty then none else some (.text written) := rfl

theorem number_of_ofJson? {kind : Word} {least greatest : Nat} {value : Json} {setting : Setting}
    (h : ofJson? (.number kind least greatest) value = some setting) :
    ∃ n, setting = .number n := by
  unfold ofJson? at h
  grind

theorem flag_of_ofJson? {value : Json} {setting : Setting}
    (h : ofJson? .flag value = some setting) : ∃ b, setting = .flag b := by
  unfold ofJson? at h
  grind

theorem text_of_ofJson? {value : Json} {setting : Setting}
    (h : ofJson? .text value = some setting) : ∃ s, setting = .text s := by
  unfold ofJson? at h
  grind

end Domain

namespace Variable

/-- Where the setting stands in a file: the object and the member in it. -/
def place : Variable → String × String
  | .livenessInterval => ("session", "livenessIntervalMs")
  | .livenessTimeout => ("session", "livenessTimeoutMs")
  | .firstReconnectDelay => ("session", "firstReconnectDelayMs")
  | .reconnectDelay => ("session", "reconnectDelayMs")
  | .maxReconnectAttempts => ("session", "maxReconnectAttempts")
  | .replaySubscriptions => ("session", "replaySubscriptions")
  | .outboundBuffer => ("transport", "outboundBuffer")
  | .maxMessageSize => ("transport", "maxMessageSize")
  | .logLevel => ("logging", "level")
  | .logJson => ("logging", "json")

def domain : Variable → Domain
  | .livenessInterval => .number .word64 100 hourMs
  | .livenessTimeout => .number .word64 50 hourMs
  | .firstReconnectDelay | .reconnectDelay => .number .word64 0 hourMs
  | .maxReconnectAttempts => .number .word32 1 1000000
  | .outboundBuffer => .number .size 1 1000000
  | .maxMessageSize => .number .size 1024 (Nat.pow 2 30)
  | .replaySubscriptions | .logJson => .flag
  | .logLevel => .text

def read (s : ClientSettings) : Variable → Setting
  | .livenessInterval => .number s.session.livenessIntervalMs
  | .livenessTimeout => .number s.session.livenessTimeoutMs
  | .firstReconnectDelay => .number s.session.firstReconnectDelayMs
  | .reconnectDelay => .number s.session.reconnectDelayMs
  | .maxReconnectAttempts => .number s.session.maxReconnectAttempts
  | .replaySubscriptions => .flag s.session.replaySubscriptions
  | .outboundBuffer => .number s.transport.outboundBuffer
  | .maxMessageSize => .number s.transport.maxMessageSize
  | .logLevel => .text s.logging.level
  | .logJson => .flag s.logging.json

/-- What a file gives for the setting. -/
def given? (user : List (String × Json)) (v : Variable) : Option Json :=
  Json.given? (Json.part user v.place.1) v.place.2

/-- The file gives a value that does not fit. -/
def Misfits (user : List (String × Json)) (v : Variable) : Prop :=
  ∃ value, v.given? user = some value ∧ v.domain.ofJson? value = none

/-- The setting that the file makes, if any. -/
def fromFile? (user : List (String × Json)) (v : Variable) : Option Setting :=
  (v.given? user).bind v.domain.ofJson?

/-- The setting that the environment makes, if the variable is set and its text accepted. -/
def fromEnvironment? (env : Environment) (v : Variable) : Option Setting :=
  (env v.key).bind v.domain.ofText?

/-- The warning that the environment earns: the variable is set and its text is not accepted. An
empty log level earns none. -/
def rejection? (env : Environment) (v : Variable) : Option LogEntry :=
  (env v.key).bind fun text =>
    if v.domain.ofText? text = none ∧ v ≠ .logLevel then some (v.warning text) else none

theorem mem_all (v : Variable) : v ∈ all := by
  cases v <;> decide

theorem nodup_all : all.Nodup := by
  decide

theorem find?_key (v : Variable) : all.find? (fun w => w.key = v.key) = some v := by
  cases v <;> decide

theorem key_injective {v w : Variable} (h : v.key = w.key) : v = w := by
  have hfind := find?_key v
  rw [h, find?_key w] at hfind
  exact (Option.some.inj hfind).symm

/-- Settings are the same when every one of them is. -/
theorem eq_of_read {s t : ClientSettings} (h : ∀ v : Variable, v.read s = v.read t) : s = t := by
  obtain ⟨⟨_, _, _, _, _, _⟩, ⟨_, _⟩, ⟨_, _⟩⟩ := s
  obtain ⟨⟨_, _, _, _, _, _⟩, ⟨_, _⟩, ⟨_, _⟩⟩ := t
  have hinterval := h .livenessInterval
  have htimeout := h .livenessTimeout
  have hfirst := h .firstReconnectDelay
  have hdelay := h .reconnectDelay
  have hattempts := h .maxReconnectAttempts
  have hreplay := h .replaySubscriptions
  have hbuffer := h .outboundBuffer
  have hsize := h .maxMessageSize
  have hlevel := h .logLevel
  have hjson := h .logJson
  simp only [read, Setting.number.injEq, Setting.flag.injEq, Setting.text.injEq] at *
  simp [*]

end Variable

/-! ### The file layer -/

theorem SessionSettings.ofMembers_eq_ok {members : List (String × Json)} {s : SessionSettings} :
    ofMembers members = .ok s ↔
      Decode.field (Decode.word .word64) 0 (members.lookup "firstReconnectDelayMs") =
        .ok s.firstReconnectDelayMs ∧
      Decode.field (Decode.word .word64) 10000 (members.lookup "livenessIntervalMs") =
        .ok s.livenessIntervalMs ∧
      Decode.field (Decode.word .word64) 5000 (members.lookup "livenessTimeoutMs") =
        .ok s.livenessTimeoutMs ∧
      Decode.field (Decode.word .word32) 100 (members.lookup "maxReconnectAttempts") =
        .ok s.maxReconnectAttempts ∧
      Decode.field (Decode.word .word64) 30000 (members.lookup "reconnectDelayMs") =
        .ok s.reconnectDelayMs ∧
      Decode.field Decode.flag true (members.lookup "replaySubscriptions") =
        .ok s.replaySubscriptions := by
  simp only [ofMembers, bind_eq_ok, pure, Except.pure, Except.ok.injEq]
  constructor
  · rintro ⟨first, hfirst, interval, hinterval, timeout, htimeout, attempts, hattempts, delay,
      hdelay, replay, hreplay, rfl⟩
    exact ⟨hfirst, hinterval, htimeout, hattempts, hdelay, hreplay⟩
  · rintro ⟨hfirst, hinterval, htimeout, hattempts, hdelay, hreplay⟩
    exact ⟨_, hfirst, _, hinterval, _, htimeout, _, hattempts, _, hdelay, _, hreplay, rfl⟩

theorem TransportSettings.ofMembers_eq_ok {members : List (String × Json)}
    {s : TransportSettings} :
    ofMembers members = .ok s ↔
      Decode.field (Decode.word .size) 16777216 (members.lookup "maxMessageSize") =
        .ok s.maxMessageSize ∧
      Decode.field (Decode.word .size) 1024 (members.lookup "outboundBuffer") =
        .ok s.outboundBuffer := by
  simp only [ofMembers, bind_eq_ok, pure, Except.pure, Except.ok.injEq]
  constructor
  · rintro ⟨size, hsize, buffer, hbuffer, rfl⟩
    exact ⟨hsize, hbuffer⟩
  · rintro ⟨hsize, hbuffer⟩
    exact ⟨_, hsize, _, hbuffer, rfl⟩

theorem LoggingSettings.ofMembers_eq_ok {members : List (String × Json)} {s : LoggingSettings} :
    ofMembers members = .ok s ↔
      Decode.field Decode.flag false (members.lookup "json") = .ok s.json ∧
      Decode.field Decode.text "warn" (members.lookup "level") = .ok s.level := by
  simp only [ofMembers, bind_eq_ok, pure, Except.pure, Except.ok.injEq]
  constructor
  · rintro ⟨json, hjson, level, hlevel, rfl⟩
    exact ⟨hjson, hlevel⟩
  · rintro ⟨hjson, hlevel⟩
    exact ⟨_, hjson, _, hlevel, rfl⟩

theorem ClientSettings.ofMembers_eq_ok {members : List (String × Json)} {s : ClientSettings} :
    ofMembers members = .ok s ↔
      Decode.field LoggingSettings.decode {} (members.lookup "logging") = .ok s.logging ∧
      Decode.field SessionSettings.decode {} (members.lookup "session") = .ok s.session ∧
      Decode.field TransportSettings.decode {} (members.lookup "transport") = .ok s.transport := by
  simp only [ofMembers, bind_eq_ok, pure, Except.pure, Except.ok.injEq]
  constructor
  · rintro ⟨logging, hlogging, session, hsession, transport, htransport, rfl⟩
    exact ⟨hlogging, hsession, htransport⟩
  · rintro ⟨hlogging, hsession, htransport⟩
    exact ⟨_, hlogging, _, hsession, _, htransport, rfl⟩

/-- The defaults, as the members of an object. -/
def ClientSettings.defaultMembers : List (String × Json) :=
  match ClientSettings.toJson {} with
  | .obj members => members
  | _ => []

namespace Json

/-- A member of the file is absent, `null`, or an object. -/
def Layered (user : List (String × Json)) (name : String) : Prop :=
  user.lookup name = none ∨ user.lookup name = some .null ∨
    ∃ members, user.lookup name = some (.obj members)

theorem given?_of_layered {user : List (String × Json)} {name : String} (h : Layered user name) :
    given? user name = none ∧ part user name = [] ∨
      given? user name = some (.obj (part user name)) := by
  rcases h with h | h | ⟨members, h⟩
  · exact .inl (by simp [given?, part, h])
  · exact .inl (by simp [given?, part, h])
  · exact .inr (by simp [given?, part, h])

/-- An object in the file is laid over the object of that name, one member after the other. -/
theorem lookup_mergeMembers_of_layered {user target low : List (String × Json)} {name : String}
    (hnames : (user.map Prod.fst).Nodup) (h : Layered user name)
    (hlow : target.lookup name = some (.obj low)) :
    (mergeMembers target user).lookup name = some (.obj (mergeMembers low (part user name))) := by
  rw [lookup_mergeMembers hnames, overlay_lookup, hlow]
  rcases given?_of_layered h with ⟨hgiven, hpart⟩ | hgiven
  · rw [hgiven, hpart]
    rfl
  · rw [hgiven]
    rfl

theorem canonical_part {members : List (String × Json)} (h : Canonical (.obj members))
    (name : String) : Canonical (.obj (part members name)) := by
  unfold part
  split
  next inner hlookup => exact canonical_of_lookup h hlookup
  · simp [Canonical, CanonicalMembers]

end Json

namespace Variable

/-- The value that the file and the defaults give together. -/
def layered (user : List (String × Json)) (v : Variable) : Json :=
  (v.given? user).getD (v.read {}).toJson

theorem lookup_defaultMembers (v : Variable) : ∃ low,
    ClientSettings.defaultMembers.lookup v.place.1 = some (.obj low) ∧
      low.lookup v.place.2 = some (v.read {}).toJson := by
  cases v <;> exact ⟨_, rfl, rfl⟩

theorem merge_toJson (setting : Setting) (value : Json) :
    Json.merge setting.toJson value = value := by
  cases setting <;> cases value <;> rfl

theorem forall_iff {p : Variable → Prop} : (∀ v, p v) ↔
    (p .logJson ∧ p .logLevel) ∧
      (p .firstReconnectDelay ∧ p .livenessInterval ∧ p .livenessTimeout ∧
        p .maxReconnectAttempts ∧ p .reconnectDelay ∧ p .replaySubscriptions) ∧
      p .maxMessageSize ∧ p .outboundBuffer := by
  constructor
  · intro h
    exact ⟨⟨h _, h _⟩, ⟨h _, h _, h _, h _, h _, h _⟩, h _, h _⟩
  · rintro ⟨⟨_, _⟩, ⟨_, _, _, _, _, _⟩, _, _⟩ v
    cases v <;> assumption

section Merged

variable {user : List (String × Json)} (huser : Json.Canonical (.obj user))
  (h : ∀ v : Variable, Json.Layered user v.place.1)
include huser h

/-- Every setting of the file stands in the merged value, with the defaults in the gaps. -/
theorem lookup_merged (v : Variable) : ∃ members,
    (Json.mergeMembers ClientSettings.defaultMembers user).lookup v.place.1 =
        some (.obj members) ∧
      members.lookup v.place.2 = some (v.layered user) := by
  obtain ⟨low, hlow, hdefault⟩ := lookup_defaultMembers v
  have hmerged := Json.lookup_mergeMembers_of_layered (Json.nodup_of_canonical huser) (h v) hlow
  refine ⟨_, hmerged, ?_⟩
  rw [Json.lookup_mergeMembers (Json.nodup_of_canonical (Json.canonical_part huser v.place.1)),
    Json.overlay_lookup, hdefault, ← given?, layered]
  cases v.given? user with
  | none => rfl
  | some value => simp [merge_toJson]

theorem lookup_merged_part {members : List (String × Json)} (v : Variable)
    (hmembers : (Json.mergeMembers ClientSettings.defaultMembers user).lookup v.place.1 =
      some (.obj members)) : members.lookup v.place.2 = some (v.layered user) := by
  obtain ⟨others, hothers, hlookup⟩ := lookup_merged huser h v
  cases hmembers.symm.trans hothers
  exact hlookup

/-- The file layer is read setting by setting. -/
theorem ofUserValue_eq_ok {s : ClientSettings} :
    Settings.ofUserValue (some (.obj user)) = .ok s ↔
      ∀ v : Variable, v.domain.ofJson? (v.layered user) = some (v.read s) := by
  obtain ⟨logging, hlogging, -⟩ := lookup_merged huser h .logLevel
  obtain ⟨session, hsession, -⟩ := lookup_merged huser h .livenessInterval
  obtain ⟨transport, htransport, -⟩ := lookup_merged huser h .outboundBuffer
  have hread : Settings.ofUserValue (some (.obj user)) =
    ClientSettings.ofMembers (Json.mergeMembers ClientSettings.defaultMembers user) := rfl
  have hjson := lookup_merged_part huser h .logJson hlogging
  have hlevel := lookup_merged_part huser h .logLevel hlogging
  have hfirst := lookup_merged_part huser h .firstReconnectDelay hsession
  have hinterval := lookup_merged_part huser h .livenessInterval hsession
  have htimeout := lookup_merged_part huser h .livenessTimeout hsession
  have hattempts := lookup_merged_part huser h .maxReconnectAttempts hsession
  have hdelay := lookup_merged_part huser h .reconnectDelay hsession
  have hreplay := lookup_merged_part huser h .replaySubscriptions hsession
  have hsize := lookup_merged_part huser h .maxMessageSize htransport
  have hbuffer := lookup_merged_part huser h .outboundBuffer htransport
  simp only [place] at *
  rw [hread, ClientSettings.ofMembers_eq_ok, hlogging, hsession, htransport, forall_iff]
  simp only [Decode.field, LoggingSettings.decode, SessionSettings.decode,
    TransportSettings.decode, Decode.record, LoggingSettings.ofMembers_eq_ok,
    SessionSettings.ofMembers_eq_ok, TransportSettings.ofMembers_eq_ok, domain, read,
    Domain.ofJson?_number, Domain.ofJson?_flag, Domain.ofJson?_text, hjson, hlevel, hfirst,
    hinterval, htimeout, hattempts, hdelay, hreplay, hsize, hbuffer]

end Merged

theorem exists_read {f : Variable → Setting}
    (h : ∀ v : Variable, ∃ value, v.domain.ofJson? value = some (f v)) :
    ∃ s, ∀ v : Variable, v.read s = f v := by
  have hnumber : ∀ v kind least greatest, v.domain = .number kind least greatest →
      ∃ n, f v = .number n := by
    intro v kind least greatest hdomain
    obtain ⟨value, hvalue⟩ := h v
    rw [hdomain] at hvalue
    exact Domain.number_of_ofJson? hvalue
  have hflag : ∀ v, v.domain = .flag → ∃ b, f v = .flag b := by
    intro v hdomain
    obtain ⟨value, hvalue⟩ := h v
    rw [hdomain] at hvalue
    exact Domain.flag_of_ofJson? hvalue
  obtain ⟨interval, hinterval⟩ := hnumber .livenessInterval _ _ _ rfl
  obtain ⟨timeout, htimeout⟩ := hnumber .livenessTimeout _ _ _ rfl
  obtain ⟨first, hfirst⟩ := hnumber .firstReconnectDelay _ _ _ rfl
  obtain ⟨delay, hdelay⟩ := hnumber .reconnectDelay _ _ _ rfl
  obtain ⟨attempts, hattempts⟩ := hnumber .maxReconnectAttempts _ _ _ rfl
  obtain ⟨replay, hreplay⟩ := hflag .replaySubscriptions rfl
  obtain ⟨buffer, hbuffer⟩ := hnumber .outboundBuffer _ _ _ rfl
  obtain ⟨size, hsize⟩ := hnumber .maxMessageSize _ _ _ rfl
  obtain ⟨value, hvalue⟩ := h .logLevel
  obtain ⟨level, hlevel⟩ := Domain.text_of_ofJson? hvalue
  obtain ⟨json, hjson⟩ := hflag .logJson rfl
  refine ⟨⟨⟨interval, timeout, first, delay, attempts, replay⟩, ⟨buffer, size⟩, ⟨level, json⟩⟩, ?_⟩
  intro v
  cases v <;> simp [read, *]

theorem ofJson?_default (v : Variable) :
    v.domain.ofJson? (v.read {}).toJson = some (v.read {}) := by
  cases v <;> rfl

theorem ofJson?_layered_of_misfits {user : List (String × Json)} {v : Variable}
    (h : v.Misfits user) : v.domain.ofJson? (v.layered user) = none := by
  obtain ⟨value, hgiven, hvalue⟩ := h
  rw [layered, hgiven]
  exact hvalue

theorem ofJson?_layered {user : List (String × Json)} {v : Variable} (h : ¬ v.Misfits user) :
    v.domain.ofJson? (v.layered user) = some ((v.fromFile? user).getD (v.read {})) := by
  rw [layered, fromFile?]
  cases hgiven : v.given? user with
  | none => exact ofJson?_default v
  | some value =>
    cases hvalue : v.domain.ofJson? value with
    | none => exact absurd ⟨value, hgiven, hvalue⟩ h
    | some setting => simp [hvalue]

/-! ### The environment -/

theorem override?_eq_none {v : Variable} {text : String} {s : ClientSettings} :
    v.override? text s = none ↔ v.domain.ofText? text = none ∧ v ≠ .logLevel := by
  cases v <;>
    simp [override?, domain, Domain.ofText?_number, Domain.ofText?_flag]

/-- An accepted text sets its own setting and leaves every other one. -/
theorem read_override? {v : Variable} {text : String} {s t : ClientSettings}
    (h : v.override? text s = some t) (w : Variable) :
    w.read t = if w = v then (v.domain.ofText? text).getD (v.read s) else w.read s := by
  cases v with
  | logLevel =>
    simp only [override?, Option.some.injEq] at h
    subst h
    by_cases hempty : text.isEmpty = true
    · cases w <;> simp [hempty, domain, Domain.ofText?_text]
    · cases w <;> simp [hempty, domain, Domain.ofText?_text, read]
  | replaySubscriptions | logJson =>
    obtain ⟨b, hb, rfl⟩ := Option.map_eq_some_iff.mp h
    cases w <;> simp [domain, Domain.ofText?_flag, hb, read]
  | _ =>
    obtain ⟨n, hn, rfl⟩ := Option.map_eq_some_iff.mp h
    have haccepted := Domain.ofText?_eq_number hn
    cases w <;> simp only [domain, haccepted, read] <;> rfl

theorem read_applyOne (env : Environment) (state : ClientSettings × List LogEntry)
    (v w : Variable) :
    w.read (env.applyOne state v).1 =
      if w = v then (v.fromEnvironment? env).getD (v.read state.1) else w.read state.1 := by
  rw [fromEnvironment?, Environment.applyOne]
  split
  next hunset =>
    by_cases hw : w = v
    · subst hw
      simp [hunset]
    · simp [hw]
  next text hset =>
    split
    next settings hoverride => simpa [hset] using read_override? hoverride w
    next hoverride =>
      by_cases hw : w = v
      · subst hw
        simp [hset, (override?_eq_none.mp hoverride).1]
      · simp [hw]

theorem warnings_applyOne (env : Environment) (state : ClientSettings × List LogEntry)
    (v : Variable) : (env.applyOne state v).2 = state.2 ++ (v.rejection? env).toList := by
  rw [rejection?, Environment.applyOne]
  split
  next hunset => simp [hunset]
  next text hset =>
    split
    next settings hoverride =>
      have hkept : ¬ (v.domain.ofText? text = none ∧ v ≠ .logLevel) := by
        rw [← override?_eq_none, hoverride]
        simp
      rw [hset, Option.bind_some, if_neg hkept]
      simp
    next hoverride => simp [hset, override?_eq_none.mp hoverride]

/-- Variables applied one after the other, each at most once: each sets its own setting. -/
theorem read_foldl_applyOne (env : Environment) (w : Variable) : (vs : List Variable) → vs.Nodup →
    (state : ClientSettings × List LogEntry) →
    w.read (vs.foldl env.applyOne state).1 =
      if w ∈ vs then (w.fromEnvironment? env).getD (w.read state.1) else w.read state.1
  | [], _, state => by simp
  | v :: rest, hnodup, state => by
    obtain ⟨hfresh, hrest⟩ := List.nodup_cons.mp hnodup
    rw [List.foldl_cons, read_foldl_applyOne env w rest hrest, read_applyOne]
    by_cases hw : w = v
    · subst hw
      simp [hfresh]
    · simp [hw]

theorem warnings_foldl_applyOne (env : Environment) (vs : List Variable)
    (state : ClientSettings × List LogEntry) :
    (vs.foldl env.applyOne state).2 = state.2 ++ vs.filterMap (rejection? env) := by
  induction vs generalizing state with
  | nil => simp
  | cons v rest ih =>
    rw [List.foldl_cons, ih, warnings_applyOne, List.append_assoc, List.filterMap_cons]
    cases v.rejection? env <;> rfl

theorem read_apply (env : Environment) (settings : ClientSettings) (v : Variable) :
    v.read (env.apply settings).1 = (v.fromEnvironment? env).getD (v.read settings) := by
  rw [Environment.apply, read_foldl_applyOne env v all nodup_all, if_pos (mem_all v)]

theorem warnings_apply (env : Environment) (settings : ClientSettings) :
    (env.apply settings).2 = all.filterMap (rejection? env) := by
  rw [Environment.apply, warnings_foldl_applyOne, List.nil_append]

end Variable

def Environment.without (env : Environment) (key : String) : Environment :=
  fun other => if other = key then none else env other

namespace Variable

theorem fromEnvironment?_without {env : Environment} {v : Variable} {text : String}
    (hset : env v.key = some text) (hrejected : v.domain.ofText? text = none) (w : Variable) :
    w.fromEnvironment? (env.without v.key) = w.fromEnvironment? env := by
  by_cases hw : w = v
  · subst hw
    simp [fromEnvironment?, Environment.without, hset, hrejected]
  · have hkey : w.key ≠ v.key := fun h => hw (key_injective h)
    simp [fromEnvironment?, Environment.without, hkey]

theorem rejection?_without {env : Environment} {v : Variable} {text : String}
    (hset : env v.key = some text) (w : Variable) :
    w.rejection? (env.without v.key) =
      (w.rejection? env).filter fun entry => entry ≠ v.warning text := by
  by_cases hw : w = v
  · subst hw
    by_cases hwarns : w.domain.ofText? text = none ∧ w ≠ .logLevel
    · simp [rejection?, Environment.without, hset, hwarns, Option.filter]
    · simp only [rejection?, Environment.without, hset, Option.bind_some, if_neg hwarns, if_true]
      rfl
  · have hkey : w.key ≠ v.key := fun h => hw (key_injective h)
    have hsame : w.rejection? (env.without v.key) = w.rejection? env := by
      simp [rejection?, Environment.without, hkey]
    rw [hsame]
    cases hwarns : w.rejection? env with
    | none => rfl
    | some entry =>
      obtain ⟨written, -, hentry⟩ := Option.bind_eq_some_iff.mp hwarns
      have hother : entry ≠ v.warning text := by
        rintro rfl
        split at hentry
        · simp only [Option.some.injEq, warning, LogEntry.mk.injEq, List.cons.injEq,
            Prod.mk.injEq] at hentry
          exact hkey hentry.2.2.2.1.2
        · cases hentry
      simp [Option.filter, hother]

/-- A text that is not accepted acts as if the variable were not set, its warning apart. -/
theorem apply_without {env : Environment} {v : Variable} {text : String}
    (hset : env v.key = some text) (hrejected : v.domain.ofText? text = none)
    (settings : ClientSettings) :
    (env.without v.key).apply settings =
      ((env.apply settings).1,
        (env.apply settings).2.filter fun entry => entry ≠ v.warning text) := by
  refine Prod.ext (eq_of_read fun w => ?_) ?_
  · simp only [read_apply, fromEnvironment?_without hset hrejected w]
  · simp only [warnings_apply, List.filter_filterMap]
    exact congrArg (all.filterMap ·) (funext (rejection?_without hset))

end Variable

/-! ### Loading -/

/-- Settings that a session can run with. -/
def ClientSettings.Coherent (s : ClientSettings) : Prop :=
  0 < s.session.livenessIntervalMs ∧
    s.session.livenessTimeoutMs < s.session.livenessIntervalMs ∧
    1 ≤ s.session.maxReconnectAttempts ∧ 1 ≤ s.transport.outboundBuffer

instance : DecidablePred ClientSettings.Coherent := fun _ =>
  inferInstanceAs (Decidable (_ ∧ _ ∧ _ ∧ _))

theorem ClientSettings.violation?_eq_none {s : ClientSettings} :
    s.violation? = none ↔ s.Coherent := by
  unfold violation? Coherent
  grind

namespace Settings

variable {path : String} {content : ByteArray} {text : String} {user : List (String × Json)}

theorem validated_eq_ok {s : ClientSettings} : validated s = .ok s ↔ s.Coherent := by
  rw [← ClientSettings.violation?_eq_none, validated]
  cases s.violation? <;> simp

theorem exists_violation {s : ClientSettings} (h : ¬ s.Coherent) :
    ∃ violation, validated s = .error (.invalid violation) := by
  rw [← ClientSettings.violation?_eq_none] at h
  obtain ⟨violation, hviolation⟩ := Option.ne_none_iff_exists'.mp h
  exact ⟨violation, by rw [validated, hviolation]⟩

theorem fromUTF8?_toUTF8 (s : String) : String.fromUTF8? s.toUTF8 = some s := by
  simp [String.fromUTF8?, String.fromUTF8, s.isValidUTF8]

theorem fileLayer_of_bytes (htext : String.fromUTF8? content = some text)
    (hparse : Json.parse text = .ok (.obj user)) :
    fileLayer (.bytes content) =
      match ofUserValue (some (.obj user)) with
      | .error error => .error (.undecodable error)
      | .ok settings => .ok settings := by
  have huser : userValue (.bytes content) = .ok (some (.obj user)) := by
    simp only [userValue, htext, hparse]
  rw [fileLayer, huser]
  rfl

theorem load_of_undecodable (env : Environment) {error : DecodeError}
    (htext : String.fromUTF8? content = some text) (hparse : Json.parse text = .ok (.obj user))
    (herror : ofUserValue (some (.obj user)) = .error error) :
    load path (.bytes content) env = (.error (.undecodable error), [fileEntry path true]) := by
  simp only [load, fileLayer_of_bytes htext hparse, herror]

theorem load_of_decoded (env : Environment) {layered : ClientSettings}
    (htext : String.fromUTF8? content = some text) (hparse : Json.parse text = .ok (.obj user))
    (hlayered : ofUserValue (some (.obj user)) = .ok layered) :
    load path (.bytes content) env =
      (validated (env.apply layered).1, fileEntry path true :: (env.apply layered).2) := by
  simp only [load, fileLayer_of_bytes htext hparse, hlayered]

/-- A file is decoded unless one of its values does not fit. -/
theorem exists_decoded (huser : Json.Canonical (.obj user))
    (hparts : ∀ v : Variable, Json.Layered user v.place.1) (h : ¬ ∃ v : Variable, v.Misfits user) :
    ∃ layered, ofUserValue (some (.obj user)) = .ok layered ∧
      ∀ v : Variable, v.read layered = (v.fromFile? user).getD (v.read {}) := by
  have hfits : ∀ v : Variable, v.domain.ofJson? (v.layered user) =
      some ((v.fromFile? user).getD (v.read {})) :=
    fun v => Variable.ofJson?_layered fun hmisfits => h ⟨v, hmisfits⟩
  obtain ⟨layered, hread⟩ := Variable.exists_read fun v => ⟨_, hfits v⟩
  refine ⟨layered, (Variable.ofUserValue_eq_ok huser hparts).mpr fun v => ?_, hread⟩
  rw [hfits v, hread v]

theorem exists_undecodable (huser : Json.Canonical (.obj user))
    (hparts : ∀ v : Variable, Json.Layered user v.place.1) (h : ∃ v : Variable, v.Misfits user) :
    ∃ error, ofUserValue (some (.obj user)) = .error error := by
  obtain ⟨v, hmisfits⟩ := h
  cases hdecoded : ofUserValue (some (.obj user)) with
  | error error => exact ⟨error, rfl⟩
  | ok layered =>
    have hread := (Variable.ofUserValue_eq_ok huser hparts).mp hdecoded v
    rw [Variable.ofJson?_layered_of_misfits hmisfits] at hread
    cases hread

/-- A text that is not accepted changes nothing but its warning. -/
theorem load_without (path : String) (file : SettingsFile) {env : Environment} {v : Variable}
    {written : String} (hset : env v.key = some written)
    (hrejected : v.domain.ofText? written = none) :
    load path file (env.without v.key) =
      ((load path file env).1,
        (load path file env).2.filter fun entry => entry ≠ v.warning written) := by
  have hfile : ∀ found, fileEntry path found ≠ v.warning written := by
    intro found hsame
    simp [fileEntry, Variable.warning] at hsame
  unfold load
  cases fileLayer file with
  | error error => simp [hfile]
  | ok layered => simp [Variable.apply_without hset hrejected, hfile]

/-- Settings by layers. The parts of the file are absent, `null` or objects. The file is refused as
not decodable when and only when it gives a value that does not fit its setting. Otherwise each
setting is what the environment makes it, else what the file makes it, else the default; these
settings are the result when they are coherent, and are refused when they are not; and the log holds
one warning for every variable that is set and not accepted, the log level apart, in their order.
To unset such a variable changes nothing but its warning. -/
theorem load_by_layers (path : String) (env : Environment)
    (htext : String.fromUTF8? content = some text) (hparse : Json.parse text = .ok (.obj user))
    (hparts : ∀ name ∈ ["session", "transport", "logging"],
      user.lookup name = none ∨ user.lookup name = some .null ∨
        ∃ members, user.lookup name = some (.obj members)) :
    let loaded := load path (.bytes content) env
    ((∃ error, loaded.1 = .error (.undecodable error)) ↔ ∃ v : Variable, v.Misfits user) ∧
      ((¬ ∃ v : Variable, v.Misfits user) → ∃ candidate : ClientSettings,
        (∀ v : Variable, v.read candidate =
          ((v.fromEnvironment? env).or (v.fromFile? user)).getD (v.read {})) ∧
        (loaded.1 = .ok candidate ↔ candidate.Coherent) ∧
        (¬ candidate.Coherent → ∃ violation, loaded.1 = .error (.invalid violation)) ∧
        loaded.2 = fileEntry path true :: Variable.all.filterMap (Variable.rejection? env)) ∧
      ∀ (v : Variable) (written : String), env v.key = some written →
        v.domain.ofText? written = none →
        load path (.bytes content) (env.without v.key) =
          (loaded.1, loaded.2.filter fun entry => entry ≠ v.warning written) := by
  intro loaded
  have huser : Json.Canonical (.obj user) := Json.canonical_of_parse hparse
  have hlayers : ∀ v : Variable, Json.Layered user v.place.1 :=
    fun v => hparts v.place.1 (by cases v <;> decide)
  refine ⟨⟨?_, ?_⟩, ?_, fun v written => load_without path _⟩
  · rintro ⟨error, herror⟩
    refine Classical.byContradiction fun hfits => ?_
    obtain ⟨layered, hdecoded, -⟩ := exists_decoded huser hlayers hfits
    simp only [loaded, load_of_decoded env htext hparse hdecoded, validated] at herror
    split at herror <;> cases herror
  · intro hmisfits
    obtain ⟨error, herror⟩ := exists_undecodable huser hlayers hmisfits
    exact ⟨error, by simp only [loaded, load_of_undecodable env htext hparse herror]⟩
  · intro hfits
    obtain ⟨layered, hdecoded, hread⟩ := exists_decoded huser hlayers hfits
    have hloaded : loaded = _ := load_of_decoded env htext hparse hdecoded
    rw [hloaded]
    refine ⟨(env.apply layered).1, ?_, validated_eq_ok, exists_violation, ?_⟩
    · intro v
      rw [Variable.read_apply, hread]
      cases v.fromEnvironment? env <;> rfl
    · rw [Variable.warnings_apply]

/-- A file that sets one time and leaves another `null`, under a variable with a text that is no
number. -/
theorem load_by_layers_partial_file :
    load "client.json" (.bytes
        "\x7b\"session\":\x7b\"livenessIntervalMs\":7000,\"livenessTimeoutMs\":null\x7d\x7d".toUTF8)
        (fun key => if key = "CHE_LIVENESS_TIMEOUT_MS" then some "soon" else none) =
      (.ok { session.livenessIntervalMs := 7000 },
        [fileEntry "client.json" true, Variable.livenessTimeout.warning "soon"]) := by
  have hparse : Json.parse
      "\x7b\"session\":\x7b\"livenessIntervalMs\":7000,\"livenessTimeoutMs\":null\x7d\x7d" =
        .ok (.obj [("session", .obj [("livenessIntervalMs", .nat 7000),
          ("livenessTimeoutMs", .null)])]) := rfl
  have hlayers := load_by_layers "client.json"
    (fun key => if key = "CHE_LIVENESS_TIMEOUT_MS" then some "soon" else none)
    (fromUTF8?_toUTF8 _) hparse (by simp [List.lookup_cons])
  obtain ⟨candidate, hread, hok, -, hlog⟩ := hlayers.2.1 (by
    rintro ⟨v, value, hgiven, hvalue⟩
    cases v with
    | livenessInterval =>
      cases hgiven
      cases hvalue
    | _ => cases hgiven)
  have hcandidate : candidate = { session.livenessIntervalMs := 7000 } := by
    refine Variable.eq_of_read fun v => (hread v).trans ?_
    cases v <;> rfl
  subst hcandidate
  exact Prod.ext (hok.mpr (by decide)) hlog

end Settings

end WorkspaceLink
