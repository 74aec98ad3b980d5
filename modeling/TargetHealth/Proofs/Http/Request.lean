import TargetHealth.Http.Exchange
import TargetHealth.Proofs.Http.Authority
import TargetHealth.Proofs.Peer.Delivery

namespace TargetHealth.Http

/-- Whether a text that begins with a slash is a target: a path, and perhaps a query behind it, up to the fragment. -/
def isTarget (cs : List Char) : Bool :=
  let shown := cs.takeWhile (fun c => !Uri.isHash c)
  (shown.takeWhile (· != '?')).all Uri.isPathChar && ((shown.dropWhile (· != '?')).drop 1).all Uri.isQueryChar

theorem Uri.isSome_pathAndQuery?_iff {cs : List Char} : (Uri.pathAndQuery? .ascii cs).isSome ↔ isTarget cs := by
  have hascii : ∀ p : Char → Bool, (fun c => p c || Charset.ascii.allows c) = p := fun p => by
    funext c
    exact Bool.or_false (p c)
  simp only [pathAndQuery?, hascii, isTarget]
  generalize cs.takeWhile (fun c => !isHash c) = shown
  cases hpath : (shown.takeWhile (· != '?')).all isPathChar with
  | false => simp
  | true =>
    cases shown.dropWhile (· != '?') with
    | nil => simp
    | cons mark query => cases hquery : query.all isQueryChar <;> simp [hquery]

theorem Uri.isSome_parse?_iff {s : String} (h : s.toList.head? = some '/') :
    (Uri.parse? .ascii s).isSome ↔ s.utf8ByteSize ≤ Uri.maxLength ∧ isTarget s.toList := by
  obtain ⟨cs, hcs⟩ : ∃ cs, s.toList = '/' :: cs := by
    cases hs : s.toList with
    | nil => rw [hs] at h; cases h
    | cons c cs =>
      rw [hs] at h
      cases h
      exact ⟨cs, rfl⟩
  have hstar : ('/' :: cs == ['*']) = false := rfl
  rw [← isSome_pathAndQuery?_iff]
  simp only [parse?, hcs, List.isEmpty_cons, Bool.false_or, decide_eq_true_eq, hstar, Bool.false_eq_true, if_false,
    List.head?_cons, beq_self_eq_true, if_true]
  by_cases hlong : maxLength < s.utf8ByteSize
  · simp [hlong, Nat.not_le.mpr hlong]
  · simp [hlong, Nat.le_of_not_lt hlong]

theorem isTarget_append {path behind : List Char} (hpath : ∀ c ∈ path, Uri.isPathChar c)
    (hmark : behind.head?.all (· == '?')) (hquery : ∀ c ∈ behind.drop 1, Uri.isQueryChar c) :
    isTarget (path ++ behind) := by
  have hshown : ∀ c ∈ path ++ behind, (!Uri.isHash c) = true := fun c hc => by
    rw [Uri.isHash, Bool.not_eq_true', beq_eq_false_iff_ne]
    rintro rfl
    rcases List.mem_append.mp hc with hfront | hbehind
    · exact absurd (hpath '#' hfront) (by decide)
    · cases behind with
      | nil => cases hbehind
      | cons mark query =>
        rcases List.mem_cons.mp hbehind with heq | hmem
        · rw [List.head?_cons, ← heq] at hmark
          exact absurd hmark (by decide)
        · exact absurd (hquery '#' hmem) (by decide)
  have hfront : ∀ c ∈ path, (c != '?') = true := fun c hc => by
    rw [bne_iff_ne]
    rintro rfl
    exact absurd (hpath '?' hc) (by decide)
  have hbehind : behind.head?.all (fun c => !(c != '?')) := by simpa [bne] using hmark
  obtain ⟨htake, hdrop⟩ := takeWhile_append hfront hbehind
  rw [isTarget, List.takeWhile_eq_self_iff.mpr hshown, htake, hdrop, Bool.and_eq_true, List.all_eq_true, List.all_eq_true]
  exact ⟨hpath, hquery⟩

theorem all_isFieldChar_toString (n : Nat) : (toString n).toList.all isFieldChar := by
  have hdigits := Decimal.allDigits_toString n
  simp only [Decimal.allDigits, Bool.and_eq_true, List.all_eq_true] at hdigits
  exact List.all_eq_true.mpr fun c hc =>
    isFieldChar_of_isAuthorityChar (isAuthorityChar_of_isNameChar (isNameChar_of_isDigit (hdigits.2 c hc)))

theorem all_isFieldChar_hostText (address : Address) :
    address.hostText.toList.all isFieldChar = address.host.toList.all isFieldChar := by
  unfold Address.hostText
  split
  next => simp [String.toList_append, isFieldChar]
  next => rfl

theorem all_isFieldChar_authority (address : Address) (hostHeader : Option String) (tls : Bool) :
    (authority address hostHeader tls).toList.all isFieldChar =
      (hostHeader.getD address.host).toList.all isFieldChar := by
  cases hostHeader with
  | some host => rfl
  | none =>
    rw [toList_authority, Option.getD_none]
    split
    next => rfl
    next =>
      have hcolon : isFieldChar ':' := by decide
      rw [List.all_append, List.all_cons, all_isFieldChar_toString, hcolon, all_isFieldChar_hostText, Bool.and_true,
        Bool.and_true]

structure Requestable (address : Address) (check : HttpCheck) : Prop where
  short : check.path.utf8ByteSize ≤ Uri.maxLength
  target : isTarget check.path.toList
  host : (check.hostHeader.getD address.host).toList.all isFieldChar

variable {address : Address} {check : HttpCheck}

theorem exists_request_iff (hslash : check.path.toList.head? = some '/') :
    (∃ request, Request.ofCheck address check = .ok request) ↔ Requestable address check := by
  have hparse := Uri.isSome_parse?_iff hslash
  have hhost := all_isFieldChar_authority address check.hostHeader check.tls.isSome
  constructor
  · rintro ⟨request, hok⟩
    simp only [Request.ofCheck] at hok
    split at hok
    next => cases hok
    next target htarget =>
      split at hok
      next hfield =>
        obtain ⟨hshort, hpath⟩ := hparse.mp (by rw [htarget]; rfl)
        exact ⟨hshort, hpath, hhost ▸ hfield⟩
      next => cases hok
  · intro h
    obtain ⟨target, htarget⟩ := Option.isSome_iff_exists.mp (hparse.mpr ⟨h.short, h.target⟩)
    refine ⟨⟨check.method, target, authority address check.hostHeader check.tls.isSome⟩, ?_⟩
    simp only [Request.ofCheck, htarget, hhost, h.host, if_true]

theorem ofCheck_cases (address : Address) (check : HttpCheck) :
    (∃ request, Request.ofCheck address check = .ok request) ∨
      ∃ detail, Request.ofCheck address check = .error (Request.invalid detail) := by
  simp only [Request.ofCheck]
  split
  next => exact .inr ⟨_, rfl⟩
  next =>
    split
    next => exact .inl ⟨_, rfl⟩
    next => exact .inr ⟨_, rfl⟩

namespace Exchange

/-- Whether a verdict is on the peer, and not on the check itself. -/
def OnPeer (verdict : Verdict) : Prop := ∀ detail, verdict ≠ .error (.internal detail)

variable {needle : String} {sent : Bytes} {verdict : Verdict} {ended : Bool}

theorem onPeer_ok : OnPeer (.ok ()) := nofun

theorem onPeer_protocol (detail : String) : OnPeer (.error (.protocol detail)) := nofun

theorem onPeer_of_conclude {progress : BodyProgress} {seen : Bytes}
    (h : conclude needle progress seen ended = .leave sent verdict) : OnPeer verdict := by
  cases progress with
  | finished =>
    cases h
    exact onPeer_protocol _
  | broken =>
    cases h
    exact onPeer_protocol _
  | more state =>
    simp only [conclude] at h
    split at h
    next => cases h
    next =>
      split at h
      all_goals
        cases h
        exact onPeer_protocol _

theorem onPeer_of_readBody {state : BodyState} {seen bytes : Bytes}
    (h : readBody needle state seen bytes ended = .leave sent verdict) : OnPeer verdict := by
  simp only [readBody] at h
  split at h
  next => exact onPeer_of_conclude h
  next =>
    split at h
    next =>
      cases h
      exact onPeer_ok
    next =>
      cases h
      exact onPeer_protocol _
    next => exact onPeer_of_conclude h

theorem onPeer_of_judge {head : Head} {rest : Bytes} (h : judge check head rest ended = .leave sent verdict) :
    OnPeer verdict := by
  unfold judge at h
  split at h
  next =>
    cases h
    exact onPeer_protocol _
  next =>
    split at h
    next =>
      cases h
      exact onPeer_protocol _
    next =>
      split at h
      next =>
        cases h
        exact onPeer_ok
      next => exact onPeer_of_readBody h

theorem onPeer_of_readHead {fuel : Nat} {arrived : Bytes}
    (h : readHead check ended fuel arrived = .leave sent verdict) : OnPeer verdict := by
  induction fuel generalizing arrived with
  | zero =>
    cases h
    exact onPeer_protocol _
  | succ fuel ih =>
    rw [readHead] at h
    split at h
    next =>
      cases h
      exact onPeer_protocol _
    next =>
      split at h
      next => exact ih h
      next => exact onPeer_of_judge h
    next =>
      split at h
      next =>
        cases h
        exact onPeer_protocol _
      next => cases h

theorem onPeer_of_react {exchange : Exchange} {bytes : Bytes} (h : react check exchange bytes ended = .leave sent verdict) :
    OnPeer verdict := by
  cases exchange with
  | head arrived known =>
    simp only [react] at h
    split at h
    next => exact onPeer_of_readHead h
    next =>
      split at h
      next =>
        cases h
        exact onPeer_protocol _
      next => cases h
  | body needle state seen => exact onPeer_of_readBody h

/-- Once its request is made, a check is judged by its peer and its limits alone. -/
theorem onPeer_of_request {request : Request} (h : Request.ofCheck address check = .ok request) (context : ProbeContext)
    (now : Instant) (peer : Peer) : OnPeer (run address check context now peer).verdict := by
  simp only [run, h]
  split
  next => exact nofun
  next =>
    split
    next => exact nofun
    next =>
      split
      next => exact onPeer_protocol _
      next => exact Client.forall_converse_verdict onPeer_of_react (fun _ => nofun) nofun _ _ _ _

/-- A check whose request cannot be made fails before the peer has done anything. -/
theorem verdict_of_error {error : ProbeError} (h : Request.ofCheck address check = .error error) (context : ProbeContext)
    (now : Instant) (peer : Peer) : (run address check context now peer).verdict = .error error := by
  simp only [run, h]
  rfl

end Exchange

end TargetHealth.Http
