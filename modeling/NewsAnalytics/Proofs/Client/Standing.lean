import NewsAnalytics.Proofs.Client.Invariant
import NewsAnalytics.Proofs.Client.Outcome
import NewsAnalytics.Proofs.Client.SentQuery

/-!
# Dispatches and what came before them

A client remembers a lot: settings, a base URL, a debug flag, a transport
that may have been built long ago or not at all. What its dispatches show
depends on three things, its `Standing`: the key and the settings that were
accepted last, and the transport that was put in place since then, if any.
`Standing.Describes` ties a client to its standing, and every step keeps it:
a transport that is in place is the one that could be built instead.

## Main results

* `Describes.effect` — an operation that succeeds changes the standing as
  `Standing.after` says, one that fails does not.
* `outcome_dispatch_afterAll` — what a dispatch shows behind any operations.
* `timeout_of_mem_sent_afterAll` — how long its message may wait.
-/

namespace NewsAnalytics

/-! ## Standings -/

/-- What counts of all that has been done to a client: the key and the
settings accepted last, and the transport put in place since. -/
structure Standing where
  key : String
  settings : Settings
  given : Option Transport := none

namespace Standing

/-- The standing behind an operation that has succeeded. -/
def after (s : Standing) : Operation → Standing
  | .setKey key => { s with key }
  | .setSettings settings => { s with settings, given := none }
  | .setTransport transport => { s with given := some transport }
  | .setDebug _ | .fetchTransport | .dispatch _ | .send _ => s

/-- The standing of a client that was made from a key and settings, behind
the operations that have succeeded. -/
def behind (key : String) (settings : Settings) (accepted : List Operation) : Standing :=
  accepted.foldl after { key, settings }

/-- The transport put in place, or else the one that the settings build. -/
def transport (s : Standing) : Except Error Transport :=
  match s.given with
  | some transport => .ok transport
  | none => s.settings.transport

/-- The seconds that a message may wait for its answer. -/
def timeout (s : Standing) : Option UInt64 :=
  match s.given with
  | some transport => transport.timeout
  | none => some s.settings.timeout

theorem timeout_of_transport {s : Standing} {transport : Transport}
    (h : s.transport = .ok transport) : transport.timeout = s.timeout := by
  unfold Standing.transport at h
  unfold timeout
  cases hGiven : s.given with
  | some other =>
      rw [hGiven] at h
      rw [Except.ok.inj h]
  | none =>
      rw [hGiven] at h
      exact Settings.timeout_of_transport h

theorem after_of_isCall {s : Standing} {o : Operation} (hCall : o.isCall = true) :
    s.after o = s := by
  cases o with
  | fetchTransport | dispatch | send => rfl
  | setKey | setDebug | setSettings | setTransport => cases hCall

/-- The client dispatches as the standing says. -/
structure Describes (s : Standing) (c : Client) : Prop where
  key : c.key = s.key
  baseUrl : s.settings.url = .ok c.baseUrl
  transport : c.fetchTransport.result = s.transport

end Standing

namespace Client

variable {c d : Client} {key : String} {settings : Settings}

/-! ## New clients -/

/-- The clients that the constructors make, with the key and the settings
that they are made from. -/
inductive IsMadeFrom : (key : String) → (settings : Settings) → (c : Client) → Prop
  | ofSettings {key : String} {settings : Settings} {c : Client}
      (hNew : Client.ofSettings key settings = .ok c) : IsMadeFrom key settings c
  | new {key : String} {c : Client} (hNew : Client.new key = .ok c) : IsMadeFrom key {} c
  | withBaseUrl {url key : String} {c : Client} (hNew : Client.withBaseUrl url key = .ok c) :
      IsMadeFrom key (({} : Settings).withBaseUrl url) c
  | ofEnvironment {key : String} {debug : Option String} {c : Client}
      (hNew : Client.ofEnvironment (some key) debug = .ok c) : IsMadeFrom key {} c
  | withDebug {key : String} {settings : Settings} {c : Client}
      (hMade : IsMadeFrom key settings c) (debug : Bool) :
      IsMadeFrom key settings (c.withDebug debug)

/-- The debug flag apart, a new client is the one of its key and settings. -/
theorem IsMadeFrom.exists_ofSettings (hMade : IsMadeFrom key settings c) :
    ∃ d, Client.ofSettings key settings = .ok d ∧ c = d.withDebug c.debug := by
  induction hMade with
  | @ofSettings key settings c hNew => exact ⟨c, hNew, rfl⟩
  | @new key c hNew => exact ⟨c, hNew, rfl⟩
  | @withBaseUrl url key c hNew => exact ⟨c, hNew, rfl⟩
  | ofEnvironment hNew =>
      obtain ⟨_, d, hSame, hKey, rfl⟩ := ofEnvironment_eq_ok_iff.1 hNew
      obtain rfl := Option.some.inj hSame
      exact ⟨d, hKey, rfl⟩
  | withDebug _ debug ih =>
      obtain ⟨d, hNew, hClient⟩ := ih
      exact ⟨d, hNew, by rw [hClient]; rfl⟩

theorem IsMadeFrom.reachable (hMade : IsMadeFrom key settings c) : c.Reachable := by
  obtain ⟨d, hNew, hClient⟩ := hMade.exists_ofSettings
  rw [hClient]
  exact .withDebug (.ofSettings hNew) c.debug

/-! ## Standings of clients -/

/-- A new client has the standing that it is made from. -/
theorem IsMadeFrom.describes (hMade : IsMadeFrom key settings c) :
    Standing.Describes { key, settings } c := by
  obtain ⟨d, hNew, hClient⟩ := hMade.exists_ofSettings
  obtain ⟨-, baseUrl, hUrl, rfl⟩ := ofSettings_eq_ok_iff.1 hNew
  rw [hClient]
  exact ⟨rfl, hUrl, result_fetchTransport _⟩

end Client

open Client in
/-- An operation that succeeds changes the standing, and one that fails does
not. -/
theorem Standing.Describes.effect {s : Standing} {c d : Client} {o : Operation} {ok : Bool}
    (h : s.Describes c) (hEffect : Effect c o ok d) :
    (if ok then s.after o else s).Describes d := by
  obtain ⟨hKey, hUrl, hTransport⟩ := h
  cases hEffect with
  | refused => exact ⟨hKey, hUrl, hTransport⟩
  | setKey => exact ⟨rfl, hUrl, by rw [result_fetchTransport] at *; exact hTransport⟩
  | setDebug => exact ⟨hKey, hUrl, by rw [result_fetchTransport] at *; exact hTransport⟩
  | setSettings hNew hBuilt =>
      refine ⟨hKey, hNew, ?_⟩
      rw [result_fetchTransport]
      exact hBuilt.symm
  | setTransport => exact ⟨hKey, hUrl, result_fetchTransport _⟩
  | call hCall =>
      rw [after_of_isCall hCall, ite_self]
      exact ⟨hKey, hUrl, hTransport⟩
  | fill hCall _ hEmpty hBuilt =>
      rw [after_of_isCall hCall, ite_self]
      refine ⟨hKey, hUrl, ?_⟩
      -- the transport that fills the place is the one that was to be built
      rw [← hTransport, result_fetchTransport, result_fetchTransport, hEmpty]
      exact hBuilt.symm

namespace Client

variable {c : Client} {key : String} {settings : Settings}

/-- Behind any operations a client has the standing that those of them that
succeeded have led to. -/
theorem IsMadeFrom.describes_afterAll (hMade : IsMadeFrom key settings c)
    (steps : List (Operation × Network)) :
    (Standing.behind key settings (c.accepted steps)).Describes (c.afterAll steps) :=
  afterAll_induction (p := fun d s => Standing.Describes s d) (fun h hEffect => h.effect hEffect)
    hMade.describes steps

/-! ## Dispatches -/

theorem outcome_of_describes {s : Standing} (h : s.Describes c) (r : Request)
    (network : Network) :
    (c.dispatch r network).outcome = .ofDispatch s.key c.baseUrl s.transport r network := by
  rw [outcome_dispatch, h.key, h.transport]

/-- A client whose settings have just been replaced dispatches as a new one
does. -/
theorem outcome_of_setSettings (hReach : c.Reachable) {new : Settings}
    (hOk : (c.setSettings new).result.isOk = true) :
    ∃ fresh, Client.ofSettings c.key new = .ok fresh ∧ ∀ r network,
      ((c.setSettings new).client.dispatch r network).outcome =
        (fresh.dispatch r network).outcome := by
  have hEffect := effect_setSettings (c := c) new
  rw [hOk] at hEffect
  generalize hClient : (c.setSettings new).client = d at hEffect
  cases hEffect with
  | @setSettings _ baseUrl transport hUrl hBuilt =>
      have hNew := ofSettings_eq_ok_iff.2 ⟨hReach.isBlank_key, baseUrl, hUrl, rfl⟩
      refine ⟨_, hNew, fun r network => ?_⟩
      rw [outcome_dispatch, outcome_dispatch, result_fetchTransport, result_fetchTransport, hBuilt]
  | call hCall => cases hCall
  | fill hCall => cases hCall

/-- What a dispatch shows behind any operations is decided by the key and the
settings that were accepted last, and by the transport that was put in place
since, or else is built from those settings. With new settings a client
dispatches as a new one with its key and these settings. -/
theorem outcome_dispatch_afterAll (hMade : IsMadeFrom key settings c)
    (steps : List (Operation × Network)) :
    let s := Standing.behind key settings (c.accepted steps)
    (∃ baseUrl, s.settings.url = .ok baseUrl ∧ ∀ r network,
      ((c.afterAll steps).dispatch r network).outcome =
        .ofDispatch s.key baseUrl s.transport r network) ∧
    ∀ new : Settings, ((c.afterAll steps).setSettings new).result.isOk = true →
      ∃ fresh, Client.ofSettings s.key new = .ok fresh ∧ ∀ r network,
        (((c.afterAll steps).setSettings new).client.dispatch r network).outcome =
          (fresh.dispatch r network).outcome := by
  intro s
  have hStanding : s.Describes (c.afterAll steps) := hMade.describes_afterAll steps
  refine ⟨⟨_, hStanding.baseUrl, outcome_of_describes hStanding⟩, ?_⟩
  intro new hOk
  have hReach := hMade.reachable.afterAll steps
  rw [← hStanding.key]
  exact outcome_of_setSettings hReach hOk

/-- A second key counts, a blank one and settings that are refused do not;
nor does it matter that a transport was built before one was put in place. -/
theorem outcome_dispatch_afterAll_second_key :
    ∃ c : Client, Client.new "first" = .ok c ∧ ∀ r network,
      ((c.afterAll [(.dispatch (.get "region"), fun _ => .unreachable),
        (.setKey "second", fun _ => .unreachable), (.setKey " ", fun _ => .unreachable),
        (.setTransport ⟨none, false, some 5⟩, fun _ => .unreachable),
        (.setSettings { baseUrl := some "mailto:a@b.test" }, fun _ => .unreachable),
        (.setDebug true, fun _ => .unreachable)]).dispatch r network).outcome =
      .ofDispatch "second" c.baseUrl (.ok ⟨none, false, some 5⟩) r network := by
  have hNew : Client.new "first" = .ok _ := new_eq_ok_iff.2 ⟨rfl, rfl⟩
  obtain ⟨⟨baseUrl, hBase, hOutcome⟩, -⟩ := outcome_dispatch_afterAll (.new hNew)
    [(.dispatch (.get "region"), fun _ => .unreachable),
      (.setKey "second", fun _ => .unreachable), (.setKey " ", fun _ => .unreachable),
      (.setTransport ⟨none, false, some 5⟩, fun _ => .unreachable),
      (.setSettings { baseUrl := some "mailto:a@b.test" }, fun _ => .unreachable),
      (.setDebug true, fun _ => .unreachable)]
  obtain rfl := Except.ok.inj (hBase.symm.trans Settings.url_default)
  exact ⟨_, hNew, hOutcome⟩

/-- The message of a dispatch waits as long as the transport says that was put
in place last, or as the settings say that were accepted since. -/
theorem timeout_of_mem_sent_afterAll (hMade : IsMadeFrom key settings c)
    (steps : List (Operation × Network)) {r : Request} {network : Network} {m : Message}
    (h : m ∈ ((c.afterAll steps).dispatch r network).sent) :
    m.timeout = (Standing.behind key settings (c.accepted steps)).timeout := by
  obtain ⟨url, transport, -, hTransport, -, rfl⟩ := exists_of_mem_sent h
  exact Standing.timeout_of_transport
    ((hMade.describes_afterAll steps).transport.symm.trans hTransport)

end Client

end NewsAnalytics
