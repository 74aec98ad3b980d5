import TargetHealth.Http.Exchange
import TargetHealth.Proofs.Http.Body
import TargetHealth.Proofs.Http.Head
import TargetHealth.Proofs.Http.Search
import TargetHealth.Proofs.Peer.Delivery

namespace TargetHealth.Http

/-- Whether a text is found in the data of a body. In no data nothing is found, not even the empty text. -/
def Found (needle data : Bytes) : Prop := data ≠ [] ∧ needle <:+: searchedPart data

instance (needle data : Bytes) : Decidable (Found needle data) := inferInstanceAs (Decidable (_ ∧ _))

theorem Found.append {needle data : Bytes} (h : Found needle data) (more : Bytes) : Found needle (data ++ more) :=
  ⟨fun hnil => h.1 (List.append_eq_nil_iff.mp hnil).1, infix_searchedPart_append h.2 more⟩

theorem found_append_iff_of_full {needle data : Bytes} (hfull : maxSearch ≤ data.length) (more : Bytes) :
    Found needle (data ++ more) ↔ Found needle data := by
  have hne : data ≠ [] := List.ne_nil_of_length_pos (Nat.lt_of_lt_of_le (by decide) hfull)
  simp [Found, hne, searchedPart_append_of_full hfull]

namespace Exchange

structure Searching (needle seen : Bytes) : Prop where
  short : seen.length < maxSearch
  notFound : ¬ Found needle seen

/-- What is done about a body that has come so far with some data. -/
def settle (needle : String) (data : Bytes) (progress : BodyProgress) (ended : Bool) : Reaction Exchange :=
  if Found (Utf8.ofString needle) data then .leave [] (.ok ())
  else if maxSearch ≤ data.length then .leave [] (.error (notContained needle))
  else conclude needle progress data ended

variable {needle : String} {state : BodyState} {seen : Bytes}

theorem readBody_eq (h : Searching (Utf8.ofString needle) seen) (bytes : Bytes) (ended : Bool) :
    readBody needle state seen bytes ended = settle needle (seen ++ (state.read bytes).1) (state.read bytes).2 ended := by
  simp only [readBody]
  by_cases hnone : (state.read bytes).1 = []
  · rw [hnone, List.append_nil, settle, if_neg h.notFound, if_neg (Nat.not_le_of_lt h.short), List.isEmpty_nil, if_pos rfl]
  have hdata : seen ++ (state.read bytes).1 ≠ [] := fun hnil => hnone (List.append_eq_nil_iff.mp hnil).2
  rw [List.isEmpty_eq_false_iff.mpr hnone, if_neg Bool.false_ne_true, searchChunk_eq (Nat.le_of_lt h.short), settle]
  by_cases hfound : Utf8.ofString needle <:+: searchedPart (seen ++ (state.read bytes).1)
  · rw [if_pos hfound, if_pos ⟨hdata, hfound⟩]
  have hnot : ¬ Found (Utf8.ofString needle) (seen ++ (state.read bytes).1) := fun hfound' => hfound hfound'.2
  rw [if_neg hfound, if_neg hnot]
  by_cases hfull : maxSearch ≤ (seen ++ (state.read bytes).1).length
  · rw [if_pos hfull, if_pos hfull]
  · rw [if_neg hfull, if_neg hfull]

theorem settle_eq_await {data sent : Bytes} {progress : BodyProgress} {ended : Bool} {next : Exchange}
    (h : settle needle data progress ended = .await sent next) :
    Searching (Utf8.ofString needle) data ∧ ∃ state, progress = .more state ∧ next = .body needle state data := by
  rw [settle] at h
  split at h
  next => cases h
  next hfound =>
    split at h
    next => cases h
    next hshort =>
      refine ⟨⟨Nat.lt_of_not_le hshort, hfound⟩, ?_⟩
      cases progress with
      | finished => cases h
      | broken => cases h
      | more state =>
        simp only [conclude] at h
        split at h
        next =>
          cases h
          exact ⟨state, rfl, rfl⟩
        next => split at h <;> cases h

/-- What is settled of a body stays settled with more of it, and else the search goes on. -/
theorem settle_append (check : HttpCheck) (data bytes : Bytes) (progress : BodyProgress) (ended : Bool) :
    settle needle (data ++ (progress.read bytes).1) (progress.read bytes).2 ended =
      (settle needle data progress false).andThen fun next => react check next bytes ended := by
  by_cases hfound : Found (Utf8.ofString needle) data
  · rw [settle, settle, if_pos (hfound.append _), if_pos hfound]
    rfl
  by_cases hfull : maxSearch ≤ data.length
  · have hlonger : maxSearch ≤ (data ++ (progress.read bytes).1).length := by
      rw [List.length_append]
      exact Nat.le_add_right_of_le hfull
    rw [settle, settle, if_neg hfound, if_neg (mt (found_append_iff_of_full hfull _).mp hfound), if_pos hfull,
      if_pos hlonger]
    rfl
  have hsettle : settle needle data progress false = conclude needle progress data false := by
    rw [settle, if_neg hfound, if_neg hfull]
  cases progress with
  | finished =>
    rw [hsettle]
    simp only [BodyProgress.read, List.append_nil, settle, if_neg hfound, if_neg hfull]
    rfl
  | broken =>
    rw [hsettle]
    simp only [BodyProgress.read, List.append_nil, settle, if_neg hfound, if_neg hfull]
    rfl
  | more state =>
    rw [hsettle]
    exact (readBody_eq ⟨Nat.lt_of_not_le hfull, hfound⟩ bytes ended).symm

theorem settle_of_isWhole {data : Bytes} {progress : BodyProgress} {ended : Bool} (h : progress.isWhole ended) :
    settle needle data progress ended =
      .leave [] (if Found (Utf8.ofString needle) data then .ok () else .error (notContained needle)) := by
  by_cases hfound : Found (Utf8.ofString needle) data
  · rw [settle, if_pos hfound, if_pos hfound]
  rw [settle, if_neg hfound, if_neg hfound]
  split
  next => rfl
  next =>
    cases progress with
    | finished => rfl
    | broken => cases h
    | more state =>
      obtain ⟨hended, hends⟩ := (Bool.and_eq_true _ _).mp h
      simp only [conclude, hended, hends]
      rfl

inductive Reads (check : HttpCheck) (needle : String) : Exchange → Bytes → Prop where
  | head {lead : Bytes} {h : Head} {state : BodyState} :
    Head.read maxHeaders lead = .complete h [] → h.isInterim = false → h.status = check.expectedStatus →
      h.body? check.method = some state → Reads check needle (.head [] 0) lead
  | body {state : BodyState} {seen : Bytes} :
    Searching (Utf8.ofString needle) seen → Reads check needle (.body needle state seen) []

theorem searching_nil : Searching (Utf8.ofString needle) [] := ⟨by decide, fun h => h.1 rfl⟩

theorem react_head {check : HttpCheck} {lead : Bytes} {h : Head} (hread : Head.read maxHeaders lead = .complete h [])
    (hfinal : h.isInterim = false) (hstatus : h.status = check.expectedStatus)
    (hbody : h.body? check.method = some state) (hneedle : check.bodyContains = some needle) (bytes : Bytes)
    (ended : Bool) :
    react check (.head [] 0) (lead ++ bytes) ended = settle needle (state.read bytes).1 (state.read bytes).2 ended := by
  have hreact : react check (.head [] 0) (lead ++ bytes) ended =
      readHead check ended ((lead ++ bytes).length + 1) (lead ++ bytes) := rfl
  rw [hreact, readHead, Head.readsAhead_read maxHeaders hread bytes]
  simp only [hfinal, Bool.false_eq_true, if_false, judge, hbody, hstatus, ne_eq, not_true_eq_false, hneedle,
    List.nil_append]
  exact readBody_eq searching_nil bytes ended

theorem react_body {check : HttpCheck} (h : Searching (Utf8.ofString needle) seen) (bytes : Bytes) (ended : Bool) :
    react check (.body needle state seen) bytes ended =
      settle needle (seen ++ (state.read bytes).1) (state.read bytes).2 ended := readBody_eq h bytes ended

theorem seamless {check : HttpCheck} (hneedle : check.bodyContains = some needle) :
    (client check).Seamless (Reads check needle) where
  cut := by
    rintro _ lead as (⟨hread, hfinal, hstatus, hbody⟩ | hsearching) hlead bs ended
    · obtain ⟨bytes, rfl⟩ := hlead
      rw [List.append_assoc]
      simp only [client, react_head hread hfinal hstatus hbody hneedle, BodyState.read_append]
      exact settle_append check _ bs _ ended
    · simp only [client, react_body hsearching, BodyState.read_append, ← List.append_assoc]
      exact settle_append check _ bs _ ended
  stays := by
    rintro _ lead as sent next (⟨hread, hfinal, hstatus, hbody⟩ | hsearching) hlead hawait
    · obtain ⟨bytes, rfl⟩ := hlead
      simp only [client, react_head hread hfinal hstatus hbody hneedle] at hawait
      obtain ⟨hsearching, state, -, rfl⟩ := settle_eq_await hawait
      exact .body hsearching
    · simp only [client, react_body hsearching] at hawait
      obtain ⟨hsearching, state, -, rfl⟩ := settle_eq_await hawait
      exact .body hsearching

end Exchange

theorem exists_cutHead? (passed front behind : Bytes) :
    ∃ head rest, Peer.cutHead? passed (front ++ Peer.emptyLine ++ behind) = some (head, rest) := by
  induction front generalizing passed with
  | nil =>
    have hbegins : Wire.beginsWith Peer.emptyLine (Peer.emptyLine ++ behind) :=
      Wire.beginsWith_iff.mpr (List.prefix_append ..)
    exact ⟨_, _, if_pos hbegins⟩
  | cons b front ih =>
    simp only [List.cons_append, Peer.cutHead?]
    split
    next => exact ⟨_, _, rfl⟩
    next => exact ih (b :: passed)

theorem Request.exists_text (r : Request) : ∃ front, Utf8.ofString r.text = front ++ Peer.emptyLine := by
  rw [text, Utf8.ofString, String.toList_append, Utf8.encode, List.flatMap_append]
  exact ⟨_, rfl⟩

/-- A response to a check as a peer delivers it, once it has the request: a head with the expected status, and a body
whose pieces come as they like. The first of them may come with the head, and none is missing in the end. -/
structure Delivery (check : HttpCheck) where
  headBytes : Bytes
  head : Head
  body : BodyState
  first : Bytes
  later : List PeerStep
  head_read : Head.read maxHeaders headBytes = .complete head []
  head_final : head.isInterim = false
  head_status : head.status = check.expectedStatus
  body_of_head : head.body? check.method = some body
  later_delivers : PeerStep.deliver later
  isWhole : (body.read (first ++ PeerStep.message later)).2.isWhole (PeerStep.endsConnection later)

namespace Delivery

variable {check : HttpCheck} (d : Delivery check)

def peer : Peer := { script := .receiveHead :: .send (d.headBytes ++ d.first) :: d.later }

def data : Bytes := (d.body.read (d.first ++ PeerStep.message d.later)).1

/-- When the last piece comes to a client that begins at an instant. -/
def endsAt (now : Instant) : Instant := ⟨now.nanos + PeerStep.pause d.later⟩

theorem headBytes_ne_nil : d.headBytes ≠ [] := fun hnil => by
  have hread := d.head_read
  rw [hnil] at hread
  cases hread

theorem run_peer (now : Instant) : d.peer.run now = d.peer := Peer.act_receiveHead_waits rfl

theorem run_receive {greeting head inbox : Bytes} (hcut : Peer.cutHead? [] greeting = some (head, inbox)) (now : Instant) :
    (d.peer.receive greeting).run now =
      Peer.run { d.peer with head, inbox, outbox := d.headBytes ++ d.first, script := d.later } now := by
  have hheard : (d.peer.receive greeting).run now = _ :=
    (Peer.act_receiveHead (Nat.zero_le _) hcut).trans (Peer.act_send (Nat.zero_le _) rfl _)
  exact hheard.trans (Peer.act_script now _ d.later d.later).symm

end Delivery

namespace Exchange

variable {check : HttpCheck} {context : ProbeContext} {address : Address} {request : Request} {now : Instant}

/-- The verdict on a delivery, if it comes before the limits. -/
theorem run_delivery (d : Delivery check) (hrequest : Request.ofCheck address check = .ok request)
    (hneedle : check.bodyContains = some needle) (hreaches : context.Reaches (d.endsAt now)) :
    (run address check context now d.peer).verdict =
      if Found (Utf8.ofString needle) d.data then .ok () else .error (notContained needle) := by
  have hlimits : context.Reaches now := hreaches.of_le (Nat.le_add_right ..)
  obtain ⟨front, htext⟩ := request.exists_text
  obtain ⟨head, inbox, hcut⟩ := exists_cutHead? [] front []
  rw [List.append_nil, ← htext] at hcut
  simp only [run, hrequest, hlimits.wasCancelled_eq_false, Bool.false_eq_true, if_false,
    if_neg (Instant.not_le_iff.mpr hlimits.beforeDeadline), d.run_peer]
  have hsilent : d.peer.hasSpoken = false := rfl
  rw [hsilent, if_neg Bool.false_ne_true, Client.start, Client.converse_verdict_congr (d.run_receive hcut now)]
  refine (seamless hneedle).converse_verdict hreaches ⟨d.later_delivers, rfl, ⟨d.headBytes, ?_, List.prefix_append ..⟩,
    ?_, ?_, ⟨[], ?_⟩, ?_⟩ ?_
  · exact .head d.head_read d.head_final d.head_status d.body_of_head
  · exact fun hnil => absurd (List.append_eq_nil_iff.mp hnil).1 d.headBytes_ne_nil
  · exact fun h => absurd h (Nat.not_lt_zero _)
  · rw [List.append_assoc]
    exact (react_head d.head_read d.head_final d.head_status d.body_of_head hneedle _ _).trans (settle_of_isWhole d.isWhole)
  · show max now.nanos 0 + PeerStep.pause d.later ≤ now.nanos + PeerStep.pause d.later
    rw [Nat.max_eq_left (Nat.zero_le _)]
  · rw [Client.turns_awake (Nat.zero_le _)]
    show 2 * d.later.length + 1 ≤ 3 * (d.later.length + 2) + 3 + 1
    omega

/-- The verdict depends on the data of the body alone, of which the first part is searched, and not on its pieces; only a
body without data holds no text, not even the empty one. A search over chunks answers alike, with room for every chunk
that it comes to. -/
theorem verdict_of_searchedPart (d : Delivery check) (hrequest : Request.ofCheck address check = .ok request)
    (hneedle : check.bodyContains = some needle) (hreaches : context.Reaches (d.endsAt now)) :
    ((run address check context now d.peer).verdict =
      if d.data ≠ [] ∧ Utf8.ofString needle <:+: searchedPart d.data then .ok () else .error (notContained needle)) ∧
    (∀ chunks : List Bytes, bodyContains (Utf8.ofString needle) chunks ↔
      chunks ≠ [] ∧ Utf8.ofString needle <:+: searchedPart chunks.flatten) ∧
    ∀ (chunks : List Bytes) (seen : Bytes), searchOver (Utf8.ofString needle) [] chunks = .more seen →
      seen = chunks.flatten ∧ seen.length < maxSearch :=
  ⟨run_delivery d hrequest hneedle hreaches, fun _ => bodyContains_iff, fun _ _ => length_lt_of_searchOver⟩

def textCheck (needle : String) : HttpCheck := ⟨"GET", "/", 200, none, some needle, none⟩

def hello : Delivery (textCheck "hello") where
  headBytes := Utf8.ofString "HTTP/1.1 200 OK\r\ntransfer-encoding: chunked\r\n\r\n"
  head := ⟨1, 200, [⟨Utf8.ofString "transfer-encoding", Utf8.ofString "chunked"⟩]⟩
  body := .chunked .start 0
  first := Utf8.ofString "3\r\nhe"
  later := [.sleep ⟨1000⟩, .send (Utf8.ofString "l\r\n2\r\nlo\r\n0\r\n\r\n")]
  head_read := by decide +kernel
  head_final := rfl
  head_status := rfl
  body_of_head := by decide +kernel
  later_delivers := rfl
  isWhole := by decide +kernel

/-- The word is found although a pause cuts it, and before the probe is cancelled. -/
theorem verdict_of_searchedPart_hello :
    (Request.ofCheck ⟨"h", 80⟩ (textCheck "hello") = .ok ⟨"GET", ⟨none, "", "/", none⟩, "h"⟩ ∧
      (textCheck "hello").bodyContains = some "hello" ∧
      ProbeContext.Reaches ⟨⟨5000⟩, some ⟨2000⟩⟩ (hello.endsAt ⟨500⟩)) ∧
    (run ⟨"h", 80⟩ (textCheck "hello") ⟨⟨5000⟩, some ⟨2000⟩⟩ ⟨500⟩ hello.peer).verdict = .ok () := by
  have hrequest : Request.ofCheck ⟨"h", 80⟩ (textCheck "hello") = .ok ⟨"GET", ⟨none, "", "/", none⟩, "h"⟩ := by decide
  have hreaches : ProbeContext.Reaches ⟨⟨5000⟩, some ⟨2000⟩⟩ (hello.endsAt ⟨500⟩) :=
    ⟨by decide, fun t ht => by cases ht; decide⟩
  have hfound : hello.data ≠ [] ∧ Utf8.ofString "hello" <:+: searchedPart hello.data := by decide +kernel
  exact ⟨⟨hrequest, rfl, hreaches⟩, (verdict_of_searchedPart hello hrequest rfl hreaches).1.trans (if_pos hfound)⟩

def nothing : Delivery (textCheck "") where
  headBytes := Utf8.ofString "HTTP/1.1 200 OK\r\ncontent-length: 0\r\n\r\n"
  head := ⟨1, 200, [⟨Utf8.ofString "content-length", Utf8.ofString "0"⟩]⟩
  body := .sized 0
  first := []
  later := []
  head_read := by decide +kernel
  head_final := rfl
  head_status := rfl
  body_of_head := by decide +kernel
  later_delivers := rfl
  isWhole := rfl

/-- The empty text occurs in no data, but is not found in a body without any, unlike in one that has an empty chunk. -/
theorem verdict_of_nothing :
    Utf8.ofString "" <:+: searchedPart nothing.data ∧
    (run ⟨"h", 80⟩ (textCheck "") ⟨⟨5000⟩, none⟩ ⟨0⟩ nothing.peer).verdict = .error (notContained "") ∧
    bodyContains (Utf8.ofString "") [] = false ∧ bodyContains (Utf8.ofString "") [[]] = true := by
  have hrequest : Request.ofCheck ⟨"h", 80⟩ (textCheck "") = .ok ⟨"GET", ⟨none, "", "/", none⟩, "h"⟩ := by decide
  have hreaches : ProbeContext.Reaches ⟨⟨5000⟩, none⟩ (nothing.endsAt ⟨0⟩) := ⟨by decide, nofun⟩
  have hnot : ¬ Found (Utf8.ofString "") nothing.data := fun h => h.1 rfl
  exact ⟨⟨[], [], rfl⟩, (run_delivery nothing hrequest rfl hreaches).trans (if_neg hnot), rfl, rfl⟩

end Exchange

end TargetHealth.Http
