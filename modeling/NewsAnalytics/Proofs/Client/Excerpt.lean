import NewsAnalytics.Proofs.Client.Ending
import NewsAnalytics.Proofs.Text.Boundary

/-!
# What is reported of a body

Where a request fails although its reply could be read, the event shows the
body of the reply, and a long one in part. The part is the longest beginning
of the body that fits in two thousand bytes, so the cut is between characters
and at most three bytes before the limit. A dispatch reports no other body
than that of the reply it got.

## Main results

* `truncate_of_lt` — where a long text is cut.
* `utf8ByteSize_truncate_le` — the size of what is reported.
* `body_of_mem_events` — the bodies that a dispatch reports.
* `truncate_is_longest_beginning` — all of it.
-/

namespace NewsAnalytics

open Text.Utf8

/-! ## Cuts -/

/-- A text that fits is shown as it is. -/
theorem truncate_of_le {s : String} (h : s.utf8ByteSize ≤ 2000) : truncate s = s := by
  rw [← length_encode] at h
  exact if_pos h

/-- A longer text is cut where the search for a boundary ends. -/
theorem truncate_of_lt {s : String} (h : 2000 < s.utf8ByteSize) :
    ∃ steps stop, StepsBack (encode s.toList) 2000 steps stop ∧ steps ≤ 3 ∧
      truncate s = String.ofList (takeBytes stop s.toList) ++ "...[truncated]" := by
  rw [← length_encode] at h
  obtain ⟨steps, stop, hSearch, hSteps⟩ := exists_stepsBack (Nat.le_of_lt h)
  refine ⟨steps, stop, hSearch, hSteps, ?_⟩
  simp only [truncate, reportLimit, if_neg (Nat.not_le.2 h), hSearch.floorBoundary_eq]

/-- What is shown of a text fits in the limit, the mark apart. -/
theorem utf8ByteSize_truncate_le (s : String) :
    (truncate s).utf8ByteSize ≤ 2000 + "...[truncated]".utf8ByteSize := by
  rcases Nat.lt_or_ge 2000 s.utf8ByteSize with hLong | hShort
  · obtain ⟨steps, stop, hSearch, -, hShown⟩ := truncate_of_lt hLong
    have hFits := (isLongestBeginning_of_stepsBack hSearch).1.fits
    rw [← String.toList_ofList (l := takeBytes stop s.toList), length_encode] at hFits
    rw [hShown, String.utf8ByteSize_append]
    exact Nat.add_le_add_right hFits _
  · rw [truncate_of_le hShort]
    exact Nat.le_trans hShort (Nat.le_add_right _ _)

/-! ## Events -/

namespace Event

/-- The body that an event shows in part. -/
def body? : Event → Option String
  | .statusFailed _ _ body | .bodyNotJson _ body => some body
  | _ => none

/-- The wording of an event up to the body. -/
def heading : Event → String
  | .statusFailed path status _ =>
    "Request to " ++ path ++ " failed with status " ++ status.text ++ ": "
  | .bodyNotJson cause _ => "Failed to parse response: " ++ cause.message ++ " | body: "
  | event => event.message

/-- The wording of an event ends with what it shows of a body. -/
theorem message_of_body? {event : Event} {body : String} (h : event.body? = some body) :
    event.message = event.heading ++ truncate body := by
  cases event with
  | statusFailed path status _ => cases h; rfl
  | bodyNotJson cause _ => cases h; rfl
  | invalidUrl cause => cases h
  | transportNotBuilt => cases h
  | dispatching method path => cases h
  | sendFailed path failure url => cases h
  | bodyUnreadable => cases h

end Event

/-- The judgement of a reply shows no other body than that of the reply. -/
theorem Reply.body_of_mem_judge {reply : Reply} {path body : String} {event : Event}
    (hMem : event ∈ (reply.judge path).2) (hBody : event.body? = some body) :
    reply.text? = some body := by
  have hJudged := reply.judged_judge path
  generalize reply.judge path = judgement at hJudged hMem
  cases hJudged with
  | unreadable =>
      obtain rfl := List.mem_singleton.1 hMem
      cases hBody
  | failed hText | notJson hText =>
      obtain rfl := List.mem_singleton.1 hMem
      cases hBody
      exact hText
  | json => cases hMem

/-- A dispatch shows no other body than that of the reply that it got. -/
theorem Client.body_of_mem_events {c : Client} {r : Request} {network : Network} {event : Event}
    {body : String} (hMem : event ∈ (c.dispatch r network).events)
    (hBody : event.body? = some body) :
    ∃ reply, Ending.Meets c r network (.answered reply) ∧ reply.text? = some body := by
  cases hPath : c.baseUrl.join r.path with
  | error cause =>
      rw [dispatch_of_bad_path hPath] at hMem
      obtain rfl := List.mem_singleton.1 hMem
      cases hBody
  | ok url =>
      cases hTransport : c.fetchTransport.result with
      | error e =>
          rw [dispatch_of_no_transport hPath hTransport] at hMem
          obtain rfl := List.mem_singleton.1 hMem
          cases hBody
      | ok transport =>
          rw [dispatch_of_transport hPath hTransport] at hMem
          by_cases hReply : ∃ reply,
              r.exchange transport (r.completeUrl c.key url) network = .answered reply
          · obtain ⟨reply, hReply⟩ := hReply
            rw [deliver_of_answered hReply] at hMem
            rcases List.mem_cons.1 hMem with rfl | hMem
            · cases hBody
            · exact ⟨reply, ⟨url, transport, hPath, hTransport, hReply⟩,
                Reply.body_of_mem_judge hMem hBody⟩
          · obtain ⟨failure, sent, hReport, -⟩ := deliver_of_unanswered
              (c := { c with transport := some transport }) (not_exists.1 hReply)
            rw [hReport] at hMem
            rcases List.mem_pair.1 hMem with rfl | rfl <;> cases hBody

/-! ## What is shown -/

/-- A text that fits in two thousand bytes is shown as it is. The end of a
longer one is searched from there, in three steps at most, and what is shown
before the mark is the longest beginning of whole characters that fits. A
dispatch shows no body but that of its reply, and of this no more. -/
theorem truncate_is_longest_beginning :
    (∀ s : String, s.utf8ByteSize ≤ 2000 → truncate s = s) ∧
    (∀ s : String, 2000 < s.utf8ByteSize →
      ∃ steps stop kept, StepsBack (encode s.toList) 2000 steps stop ∧ steps ≤ 3 ∧
        floorBoundary (encode s.toList) 2000 = stop ∧ 1997 ≤ stop ∧ stop ≤ 2000 ∧
        truncate s = String.ofList kept ++ "...[truncated]" ∧
        encode kept = (encode s.toList).take stop ∧ IsLongestBeginning 2000 kept s.toList) ∧
    ∀ (c : Client) (r : Request) (network : Network),
      ∀ event ∈ (c.dispatch r network).events, ∀ body, event.body? = some body →
        (∃ reply, Ending.Meets c r network (.answered reply) ∧ reply.text? = some body) ∧
        event.message = event.heading ++ truncate body ∧
        (truncate body).utf8ByteSize ≤ 2000 + "...[truncated]".utf8ByteSize := by
  refine ⟨fun s hShort => truncate_of_le hShort, fun s hLong => ?_, ?_⟩
  · obtain ⟨steps, stop, hSearch, hSteps, hShown⟩ := truncate_of_lt hLong
    obtain ⟨hLongest, hBytes⟩ := isLongestBeginning_of_stepsBack hSearch
    have hSum := hSearch.add_eq
    exact ⟨steps, stop, _, hSearch, hSteps, hSearch.floorBoundary_eq, by omega, by omega, hShown,
      hBytes, hLongest⟩
  · intro c r network event hMem body hBody
    exact ⟨Client.body_of_mem_events hMem hBody, Event.message_of_body? hBody,
      utf8ByteSize_truncate_le body⟩

/-- A character that begins three bytes before the limit and ends behind it is
left out. -/
theorem truncate_is_longest_beginning_faces :
    (String.ofList ('a' :: List.replicate 500 '😀')).utf8ByteSize = 2001 ∧
      truncate (String.ofList ('a' :: List.replicate 500 '😀')) =
        String.ofList ('a' :: List.replicate 499 '😀') ++ "...[truncated]" ∧
      ∃ (c : Client) (network : Network) (event : Event),
        event ∈ (c.dispatch (.get "region") network).events ∧ event.body? = some "gone" ∧
        event.message = "Request to region failed with status 404 Not Found: gone" := by
  have hFaces : ∀ n, (encode ('a' :: List.replicate n '😀')).length = 1 + n * 4 := fun n =>
    (length_encode_cons _ _).trans (congrArg (1 + ·) (length_encode_replicate n _))
  have hSize : (String.ofList ('a' :: List.replicate 500 '😀')).utf8ByteSize = 2001 := by
    rw [← length_encode, String.toList_ofList, hFaces]
  refine ⟨hSize, ?_, ?_⟩
  · obtain ⟨-, -, kept, -, -, -, -, -, hShown, -, hLongest⟩ :=
      truncate_is_longest_beginning.2.1 (String.ofList ('a' :: List.replicate 500 '😀'))
        (by rw [hSize]; decide)
    have hExpected : IsLongestBeginning 2000 ('a' :: List.replicate 499 '😀')
        ('a' :: List.replicate 499 '😀' ++ ['😀']) :=
      isLongestBeginning_append_cons (by rw [hFaces]; decide) (by rw [hFaces]; decide)
    rw [List.cons_append, ← List.replicate_succ'] at hExpected
    rw [String.toList_ofList] at hLongest
    rw [hShown, hLongest.unique hExpected]
  · obtain ⟨c, network, hEvents⟩ : ∃ (c : Client) (network : Network),
        (c.dispatch (.get "region") network).events =
          [.dispatching .get "region", .statusFailed "region" ⟨404, by decide⟩ "gone"] := by
      refine ⟨{
          key := "test-key"
          settings := { baseUrl := some "http://a.test/v1" }
          baseUrl :=
            ⟨"http", some { host := .name "a.test" }, .segments ["v1", ""], none, none⟩ },
        fun _ => .answered { status := ⟨404, by decide⟩, body := encode "gone".toList }, ?_⟩
      rfl
    have hMem : .statusFailed "region" ⟨404, by decide⟩ "gone" ∈
        (c.dispatch (.get "region") network).events := by simp [hEvents]
    obtain ⟨-, hMessage, -⟩ := truncate_is_longest_beginning.2.2 c _ network _ hMem "gone" rfl
    exact ⟨c, network, _, hMem, rfl, hMessage⟩

end NewsAnalytics
