import NewsAnalytics.Proofs.Chain
import NewsAnalytics.Proofs.Client.Effect

/-!
# Clients that can come about

A client comes from one of the constructors and then from operations, each
over a network of its own. What a constructor establishes and every effect
keeps holds of all of them. Two things do: the key shows something, and the
base URL is the one that the settings stand for, since the one operation
that touches settings or base URL replaces both.

## Main results

* `Reachable.invariant` — what holds of all clients.
* `Reachable.isBlank_key` — the key shows something.
* `Reachable.url_settings` — the base URL is that of the settings.
-/

namespace NewsAnalytics

/-- The URL of settings is read from their text, with a slash at its end,
and something can be relative to it. -/
theorem Settings.url_eq_ok_iff {s : Settings} {u : Url} :
    s.url = .ok u ↔ Url.parse (withSlash s.rawUrl) = .ok u ∧ u.isOpaque = false := by
  unfold url
  cases Url.parse (withSlash s.rawUrl) with
  | error cause => simp
  | ok v =>
      by_cases hOpaque : v.isOpaque = true
      · simp only [if_pos hOpaque, Except.ok.injEq, reduceCtorEq, false_iff, not_and]
        rintro rfl
        simp [hOpaque]
      · simp only [if_neg hOpaque, Except.ok.injEq]
        constructor
        · rintro rfl
          exact ⟨rfl, by simpa using hOpaque⟩
        · exact fun h => h.1

/-- The URL that the default settings stand for. -/
def serviceUrl : Url :=
  ⟨"https", some { host := .name "api.newswhip.com" }, .segments ["v1", ""], none, none⟩

theorem Settings.url_default : ({} : Settings).url = .ok serviceUrl := rfl

namespace Client

/-- The clients that constructors and operations lead to. -/
inductive Reachable : Client → Prop
  | ofSettings {key : String} {settings : Settings} {c : Client}
      (hNew : Client.ofSettings key settings = .ok c) : Reachable c
  | new {key : String} {c : Client} (hNew : Client.new key = .ok c) : Reachable c
  | withBaseUrl {url key : String} {c : Client} (hNew : Client.withBaseUrl url key = .ok c) :
      Reachable c
  | ofEnvironment {key debug : Option String} {c : Client}
      (hNew : Client.ofEnvironment key debug = .ok c) : Reachable c
  | withDebug {c : Client} (hReach : Reachable c) (debug : Bool) : Reachable (c.withDebug debug)
  | run {c : Client} (hReach : Reachable c) (o : Operation) (network : Network) :
      Reachable (o.run c network).client

/-! ## Constructors -/

theorem ofSettings_eq_ok_iff {key : String} {settings : Settings} {c : Client} :
    ofSettings key settings = .ok c ↔
      Text.isBlank key = false ∧ ∃ baseUrl, settings.url = .ok baseUrl ∧
        c = { key, settings, baseUrl } := by
  simp only [ofSettings, bind_eq_ok_iff, pure_eq_ok_iff, checkKey_eq_ok_iff, eq_comm (b := c)]
  constructor
  · rintro ⟨_, ⟨hKey, rfl⟩, hBase⟩
    exact ⟨hKey, hBase⟩
  · rintro ⟨hKey, hBase⟩
    exact ⟨key, ⟨hKey, rfl⟩, hBase⟩

theorem new_eq_ok_iff {key : String} {c : Client} :
    Client.new key = .ok c ↔
      Text.isBlank key = false ∧ c = { key, settings := {}, baseUrl := serviceUrl } := by
  rw [Client.new, ofSettings_eq_ok_iff, Settings.url_default]
  simp

/-- The environment makes the client of its key, and sets the debug flag. -/
theorem ofEnvironment_eq_ok_iff {key debug : Option String} {c : Client} :
    ofEnvironment key debug = .ok c ↔
      ∃ k d, key = some k ∧ Client.new k = .ok d ∧
        c = d.withDebug ((debug.map isDebugText).getD false) := by
  unfold ofEnvironment
  cases key with
  | none => simp
  | some k => simp only [bind_eq_ok_iff, pure_eq_ok_iff, Option.some.injEq, eq_comm (b := c),
      exists_eq_left', exists_and_left]

/-! ## All clients -/

variable {c : Client}

/-- What new clients have and every effect keeps, all clients have. -/
theorem Reachable.invariant {p : Client → Prop} (hReach : c.Reachable)
    (hNew : ∀ {key settings c}, Client.ofSettings key settings = .ok c → p c)
    (hEffect : ∀ {c d o ok}, p c → Effect c o ok d → p d) : p c := by
  induction hReach with
  | ofSettings h => exact hNew h
  | new h => exact hNew h
  | withBaseUrl h => exact hNew h
  | ofEnvironment h =>
      obtain ⟨key, d, -, hKey, rfl⟩ := ofEnvironment_eq_ok_iff.1 h
      exact hEffect (hNew hKey) (.setDebug _)
  | withDebug _ debug ih => exact hEffect ih (.setDebug debug)
  | run _ o network ih => exact hEffect ih (effect_run _ o network)

/-- The key of a client shows something. -/
theorem Reachable.isBlank_key (hReach : c.Reachable) : Text.isBlank c.key = false := by
  refine hReach.invariant (p := fun c => Text.isBlank c.key = false) ?_ ?_
  · intro key settings c hNew
    obtain ⟨hKey, baseUrl, -, rfl⟩ := ofSettings_eq_ok_iff.1 hNew
    exact hKey
  · intro c d o ok hKey hEffect
    cases hEffect with
    | setKey hOther => exact hOther
    | refused | setDebug | setSettings | setTransport | call | fill => exact hKey

/-- The base URL of a client is the one that its settings stand for. -/
theorem Reachable.url_settings (hReach : c.Reachable) : c.settings.url = .ok c.baseUrl := by
  refine hReach.invariant (p := fun c => c.settings.url = .ok c.baseUrl) ?_ ?_
  · intro key settings c hNew
    obtain ⟨-, baseUrl, hUrl, rfl⟩ := ofSettings_eq_ok_iff.1 hNew
    exact hUrl
  · intro c d o ok hUrl hEffect
    cases hEffect with
    | setSettings hOther => exact hOther
    | refused | setKey | setDebug | setTransport | call | fill => exact hUrl

theorem Reachable.afterAll (hReach : c.Reachable) (steps : List (Operation × Network)) :
    (c.afterAll steps).Reachable := by
  induction steps generalizing c with
  | nil => exact hReach
  | cons step rest ih => exact ih (.run hReach step.1 step.2)

end Client

end NewsAnalytics
