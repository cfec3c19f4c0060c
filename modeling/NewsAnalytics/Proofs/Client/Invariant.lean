import NewsAnalytics.Proofs.Client.Reachable

/-!
# What holds of a client at all times

However a client has come about, its key shows something, its base URL is
the one that its settings stand for, and something can be relative to it.
And whatever is done to it next is done as a whole or, if it fails, not at
all: the place of the transport is the only one that a failure may touch,
and only to fill it.

## Main results

* `isAtomic_run` — what an operation leaves alone.
* `transport_afterAll` — a transport stays until it is replaced.
* `Reachable.sound_and_atomic` — the invariant, and what every operation and
  every list of operations leaves alone.
-/

namespace NewsAnalytics

namespace Client

variable {c d : Client} {o : Operation}

/-! ## The invariant -/

/-- What holds of a client at all times. -/
structure IsSound (c : Client) : Prop where
  key : ∃ ch ∈ c.key.toList, Text.isBlankChar ch = false
  baseUrl : c.settings.url = .ok c.baseUrl
  base : c.baseUrl.isOpaque = false

theorem Reachable.isSound (hReach : c.Reachable) : c.IsSound where
  key := Text.isBlank_eq_false_iff.1 hReach.isBlank_key
  baseUrl := hReach.url_settings
  base := (Settings.url_eq_ok_iff.1 hReach.url_settings).2

/-! ## Steps -/

/-- What an operation that reports `report` leaves alone. -/
structure IsAtomic (c : Client) (o : Operation) (report : Report Answer) : Prop where
  /-- A failure touches at most the place of the transport. -/
  failed : ∀ e, report.result = .error e →
    report.client.key = c.key ∧ report.client.debug = c.debug ∧
      report.client.settings = c.settings ∧ report.client.baseUrl = c.baseUrl
  /-- The failure of a setter, or of the call for the transport, touches
  nothing. -/
  failedAlone : ∀ e, report.result = .error e → o.isCall = false ∨ o = .fetchTransport →
    report.client = c
  /-- A call touches at most the place of the transport, if it is empty. -/
  call : o.isCall = true → report.client = c ∨
    c.transport = none ∧ ∃ transport, report.client = { c with transport := some transport }
  /-- A transport is replaced only by another one or by new settings. -/
  kept : ∀ transport, c.transport = some transport →
    report.client.transport = some transport ∨
      (∃ other, o = .setTransport other) ∨
      ∃ settings answer, o = .setSettings settings ∧ report.result = .ok answer

theorem failed_of_effect (h : Effect c o false d) :
    d.key = c.key ∧ d.debug = c.debug ∧ d.settings = c.settings ∧ d.baseUrl = c.baseUrl := by
  cases h with
  | refused | call | fill => exact ⟨rfl, rfl, rfl, rfl⟩

theorem failedAlone_of_effect (h : Effect c o false d)
    (hAlone : o.isCall = false ∨ o = .fetchTransport) : d = c := by
  cases h with
  | refused | call => rfl
  | fill hCall hFetch =>
      rcases hAlone with hNone | rfl
      · rw [hCall] at hNone
        cases hNone
      · cases hFetch rfl

theorem call_of_effect {ok : Bool} (h : Effect c o ok d) (hCall : o.isCall = true) :
    d = c ∨ c.transport = none ∧ ∃ transport, d = { c with transport := some transport } := by
  cases h with
  | refused | call => exact .inl rfl
  | fill _ _ hEmpty => exact .inr ⟨hEmpty, _, rfl⟩
  | setKey | setDebug | setSettings | setTransport => cases hCall

theorem kept_of_effect {ok : Bool} {transport : Transport} (h : Effect c o ok d)
    (hPlace : c.transport = some transport) :
    d.transport = some transport ∨ ok = true ∧ o.replacesTransport = true := by
  cases h with
  | refused | call | setKey | setDebug => exact .inl hPlace
  | fill _ _ hEmpty =>
      rw [hEmpty] at hPlace
      cases hPlace
  | setSettings | setTransport => exact .inr ⟨rfl, rfl⟩

/-- What an operation leaves alone. -/
theorem isAtomic_run (c : Client) (o : Operation) (network : Network) :
    IsAtomic c o (o.run c network) := by
  have hEffect := effect_run c o network
  have hFailed : ∀ e, (o.run c network).result = .error e →
      Effect c o false (o.run c network).client := by
    intro e hError
    rw [hError] at hEffect
    exact hEffect
  refine ⟨?_, ?_, call_of_effect hEffect, ?_⟩
  · exact fun e hError => failed_of_effect (hFailed e hError)
  · exact fun e hError => failedAlone_of_effect (hFailed e hError)
  · intro transport hPlace
    rcases kept_of_effect hEffect hPlace with hKept | ⟨hOk, hReplaces⟩
    · exact .inl hKept
    · cases hResult : (o.run c network).result with
      | error e =>
          rw [hResult] at hOk
          cases hOk
      | ok answer =>
          obtain ⟨other, hOther⟩ | ⟨settings, hSettings⟩ :=
            Operation.eq_of_replacesTransport hReplaces
          · exact .inr (.inl ⟨other, hOther⟩)
          · exact .inr (.inr ⟨settings, answer, hSettings, rfl⟩)

/-! ## Lists of operations -/

/-- A transport stays in place as long as no operation that succeeds
replaces it. -/
theorem transport_afterAll {transport : Transport} {steps : List (Operation × Network)}
    (hPlace : c.transport = some transport)
    (hSteps : ∀ o ∈ c.accepted steps, o.replacesTransport = false) :
    (c.afterAll steps).transport = some transport := by
  induction steps generalizing c with
  | nil => exact hPlace
  | cons step rest ih =>
      obtain ⟨o, network⟩ := step
      rw [accepted] at hSteps
      have hNext : (o.run c network).client.transport = some transport := by
        rcases kept_of_effect (effect_run c o network) hPlace with hKept | ⟨hOk, hReplaces⟩
        · exact hKept
        · rw [hOk, if_pos rfl] at hSteps
          rw [hSteps o List.mem_cons_self] at hReplaces
          cases hReplaces
      refine ih hNext fun other hMem => hSteps other ?_
      split
      · exact List.mem_cons_of_mem o hMem
      · exact hMem

/-- At all times the key of a client shows something, and its base URL is
that of its settings, to which something can be relative. A failure leaves
the client alone but for a transport that it may put in an empty place, and
a transport stays until it is replaced on purpose. -/
theorem Reachable.sound_and_atomic (hReach : c.Reachable) :
    c.IsSound ∧ (∀ o network, IsAtomic c o (o.run c network)) ∧
      (∀ debug, (c.withDebug debug).transport = c.transport) ∧
      ∀ transport steps, c.transport = some transport →
        (∀ o ∈ c.accepted steps, o.replacesTransport = false) →
        (c.afterAll steps).transport = some transport :=
  ⟨hReach.isSound, isAtomic_run c, fun _ => rfl, fun _ _ => transport_afterAll⟩

/-- A transport that was put in place outlasts settings that are refused and
a dispatch that fails. -/
theorem sound_and_atomic_put_in_place :
    ∃ c d : Client, Client.new " key " = .ok c ∧
      (c.setTransport ⟨none, false, some 5⟩).client = d ∧ d.IsSound ∧
      (∃ e, (d.setSettings { baseUrl := some "mailto:a@b.test" }).result = .error e) ∧
      (d.setSettings { baseUrl := some "mailto:a@b.test" }).client = d ∧
      (d.afterAll [(.setSettings { baseUrl := some "mailto:a@b.test" }, fun _ => .noAnswer),
        (.dispatch (.get "//"), fun _ => .noAnswer)]).transport = some ⟨none, false, some 5⟩ := by
  have hNew : Client.new " key " = .ok _ := new_eq_ok_iff.2 ⟨rfl, rfl⟩
  have hReach := Reachable.run (.new hNew) (.setTransport ⟨none, false, some 5⟩) fun _ => .noAnswer
  obtain ⟨hSound, hAtomic, -, hKept⟩ := Reachable.sound_and_atomic hReach
  have hRefused := hAtomic (.setSettings { baseUrl := some "mailto:a@b.test" }) fun _ => .noAnswer
  refine ⟨_, _, hNew, rfl, hSound, ⟨_, rfl⟩, ?_, ?_⟩
  · exact hRefused.failedAlone _ rfl (.inl rfl)
  · refine hKept ⟨none, false, some 5⟩ _ rfl ?_
    intro o hMem
    cases hMem

end Client

end NewsAnalytics
