import NewsAnalytics.Proofs.Client.Dispatch

/-!
# What an operation does to a client

`Effect c o ok d` lists all that an operation can do: be refused, write what
it was given, or, if it is a call, leave the client alone or fill the empty
place of its transport. What holds of every step is read off this list, and
what holds of a list of operations follows by induction on it.

A list of operations is seen through those that succeed.

## Main results

* `effect_run` — an operation does one of the things listed.
* `afterAll_induction` — what every step keeps, a list of operations keeps.
-/

namespace NewsAnalytics

/-! ## Kinds of operations -/

/-- The operation asks for something and sets nothing. -/
def Operation.isCall : Operation → Bool
  | .fetchTransport | .dispatch _ | .send _ => true
  | _ => false

/-- The operation, if it succeeds, puts a transport in place whether there
is one or not. -/
def Operation.replacesTransport : Operation → Bool
  | .setTransport _ | .setSettings _ => true
  | _ => false

theorem Operation.eq_of_replacesTransport {o : Operation} (h : o.replacesTransport = true) :
    (∃ transport, o = .setTransport transport) ∨ ∃ settings, o = .setSettings settings := by
  cases o with
  | setTransport transport => exact .inl ⟨transport, rfl⟩
  | setSettings settings => exact .inr ⟨settings, rfl⟩
  | setKey | setDebug | fetchTransport | dispatch | send => cases h

namespace Client

/-- All that an operation does: `o` succeeds on `c` or not, as `ok` says, and
leaves `d`. -/
inductive Effect (c : Client) : (o : Operation) → (ok : Bool) → (d : Client) → Prop
  | refused (o : Operation) : Effect c o false c
  | setKey {key : String} (hKey : Text.isBlank key = false) :
      Effect c (.setKey key) true { c with key }
  | setDebug (debug : Bool) : Effect c (.setDebug debug) true { c with debug }
  | setSettings {settings : Settings} {baseUrl : Url} {transport : Transport}
      (hUrl : settings.url = .ok baseUrl) (hBuilt : settings.transport = .ok transport) :
      Effect c (.setSettings settings) true
        { c with settings, baseUrl, transport := some transport }
  | setTransport (transport : Transport) :
      Effect c (.setTransport transport) true { c with transport := some transport }
  | call {o : Operation} (hCall : o.isCall = true) (ok : Bool) : Effect c o ok c
  | fill {o : Operation} {ok : Bool} {transport : Transport} (hCall : o.isCall = true)
      (hFetch : o = .fetchTransport → ok = true) (hEmpty : c.transport = none)
      (hBuilt : c.settings.transport = .ok transport) :
      Effect c o ok { c with transport := some transport }

variable {c d : Client} {network : Network}

/-! ## Steps -/

theorem checkKey_eq_ok_iff {key kept : String} :
    checkKey key = .ok kept ↔ Text.isBlank key = false ∧ kept = key := by
  unfold checkKey
  by_cases hKey : Text.isBlank key = true
  · simp [hKey]
  · simp [hKey, eq_comm]

theorem effect_setKey (key : String) :
    Effect c (.setKey key) (c.setKey key).result.isOk (c.setKey key).client := by
  unfold setKey
  cases hKey : checkKey key with
  | error e => exact .refused _
  | ok kept =>
      obtain ⟨hVisible, rfl⟩ := checkKey_eq_ok_iff.1 hKey
      exact .setKey hVisible

theorem effect_setSettings (settings : Settings) :
    Effect c (.setSettings settings) (c.setSettings settings).result.isOk
      (c.setSettings settings).client := by
  unfold setSettings
  cases hUrl : settings.url with
  | error e => exact .refused _
  | ok baseUrl =>
      cases hBuilt : settings.transport with
      | error e => exact .refused _
      | ok transport => exact .setSettings hUrl hBuilt

/-- Whoever asks for the transport leaves the client alone, or fills the
empty place of the transport. -/
def IsFilled (c d : Client) : Prop :=
  d = c ∨ ∃ transport, c.transport = none ∧ c.settings.transport = .ok transport ∧
    d = { c with transport := some transport }

theorem isFilled_fetchTransport : c.IsFilled c.fetchTransport.client := by
  unfold fetchTransport
  cases hEmpty : c.transport with
  | some transport => exact .inl rfl
  | none =>
      cases hBuilt : c.settings.transport with
      | error e => exact .inl rfl
      | ok transport => exact .inr ⟨transport, hEmpty, hBuilt, rfl⟩

theorem isFilled_dispatch (r : Request) : c.IsFilled (c.dispatch r network).client := by
  rw [client_dispatch]
  split
  · exact .inl rfl
  · exact isFilled_fetchTransport

theorem isFilled_send (q : Query) : c.IsFilled (c.send q network).client := by
  unfold send
  cases q.toRequest with
  | error e => exact .inl rfl
  | ok r => exact isFilled_dispatch r

theorem effect_of_isFilled {o : Operation} {ok : Bool} (hCall : o.isCall = true)
    (hFetch : o = .fetchTransport → ok = true) (h : c.IsFilled d) : Effect c o ok d := by
  rcases h with rfl | ⟨transport, hEmpty, hBuilt, rfl⟩
  · exact .call hCall ok
  · exact .fill hCall hFetch hEmpty hBuilt

theorem effect_fetchTransport :
    Effect c .fetchTransport c.fetchTransport.result.isOk c.fetchTransport.client := by
  cases hResult : c.fetchTransport.result with
  | error e =>
      rw [fetchTransport_of_error hResult]
      exact .refused _
  | ok transport => exact effect_of_isFilled rfl (fun _ => rfl) isFilled_fetchTransport

theorem client_map {α β : Type} (f : α → β) (r : Report α) : (r.map f).client = r.client := rfl

theorem isOk_map {α β : Type} (f : α → β) (r : Report α) :
    (r.map f).result.isOk = r.result.isOk := by
  unfold Report.map
  cases r.result <;> rfl

/-- An operation does one of the things listed. -/
theorem effect_run (c : Client) (o : Operation) (network : Network) :
    Effect c o (o.run c network).result.isOk (o.run c network).client := by
  cases o with
  | setKey key =>
      rw [Operation.run, client_map, isOk_map]
      exact effect_setKey key
  | setDebug debug => exact .setDebug debug
  | setSettings settings =>
      rw [Operation.run, client_map, isOk_map]
      exact effect_setSettings settings
  | setTransport transport => exact .setTransport transport
  | fetchTransport =>
      rw [Operation.run, client_map, isOk_map]
      exact effect_fetchTransport
  | dispatch r =>
      rw [Operation.run, client_map]
      exact effect_of_isFilled rfl nofun (isFilled_dispatch r)
  | send q =>
      rw [Operation.run, client_map]
      exact effect_of_isFilled rfl nofun (isFilled_send q)

/-! ## Lists of operations -/

/-- The operations of a list that succeed, each on the client that the one
before it left. -/
def accepted (c : Client) : List (Operation × Network) → List Operation
  | [] => []
  | (o, network) :: rest =>
    let behind := (o.run c network).client.accepted rest
    if (o.run c network).result.isOk then o :: behind else behind

/-- What the operations that succeed make of something, if every step does
so, a list of operations does. -/
theorem afterAll_induction {σ : Type} {next : σ → Operation → σ} {p : Client → σ → Prop}
    (hStep : ∀ {c d s o ok}, p c s → Effect c o ok d → p d (if ok then next s o else s))
    {c : Client} {s : σ} (h : p c s) (steps : List (Operation × Network)) :
    p (c.afterAll steps) ((c.accepted steps).foldl next s) := by
  induction steps generalizing c s with
  | nil => exact h
  | cons step rest ih =>
      obtain ⟨o, network⟩ := step
      have hNext := ih (hStep h (effect_run c o network))
      rw [afterAll, accepted]
      cases hOk : (o.run c network).result.isOk with
      | false => simpa [hOk] using hNext
      | true => simpa [hOk] using hNext

end Client

end NewsAnalytics
