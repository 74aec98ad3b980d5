import Mathlib.Data.List.TakeWhile
import TargetHealth.Proofs.Decimal.Reading
import TargetHealth.Proofs.Net.Literals
import TargetHealth.Target.Target
import TargetHealth.WebSocket.Handshake

namespace TargetHealth.Http

def isNameChar (c : Char) : Bool := Uri.isAuthorityChar c && !":@[]%".toList.contains c

def isName (cs : List Char) : Bool := !cs.isEmpty && cs.all isNameChar

/-- A host without brackets: a name, or a literal of either kind. -/
def isHost (cs : List Char) : Bool := isName cs || (Ipv4.read? cs).isSome || (Ipv6.read? cs).isSome

def impliedPort : Bool → Nat
  | true => 443
  | false => 80

def portBehind? (tls : Bool) : List Char → Option Nat
  | [] => some (impliedPort tls)
  | c :: digits =>
    if c ≠ ':' then none
    else if digits.isEmpty then some (impliedPort tls)
    else if Decimal.allDigits digits ∧ Decimal.ofDigits digits < 65536 then some (Decimal.ofDigits digits)
    else none

def readAuthority? (tls : Bool) (cs : List Char) : Option Address :=
  match cs with
  | '[' :: rest =>
    match Text.cut ']' rest with
    | (literal, some behind) =>
      if (Ipv6.read? literal).isSome then (portBehind? tls behind).map (⟨String.ofList literal, ·⟩) else none
    | (_, none) => none
  | cs =>
    let name := cs.takeWhile (· != ':')
    if isName name then (portBehind? tls (cs.dropWhile (· != ':'))).map (⟨String.ofList name, ·⟩) else none

/-- The authority of a URL: what stands between `://` and the path, the query or the fragment. -/
def urlAuthority (url : String) : List Char :=
  ((url.toList.dropWhile (· != ':')).drop 3).takeWhile (fun c => !Uri.endsAuthority c)

theorem isAuthorityChar_of_isNameChar {c : Char} (h : isNameChar c) : Uri.isAuthorityChar c := by
  rw [isNameChar, Bool.and_eq_true] at h
  exact h.1

theorem isNameChar_of_isDigit {c : Char} (h : c.isDigit) : isNameChar c := by
  have hauthority : Uri.isAuthorityChar c := by simp [Uri.isAuthorityChar, Char.isAlphanum, h]
  have hplain : ":@[]%".toList.contains c = false := by
    rw [Bool.eq_false_iff, Ne, List.contains_iff_mem]
    intro hmem
    have hmark := List.all_eq_true.mp (by decide : ":@[]%".toList.all (fun d => !d.isDigit)) c hmem
    rw [h] at hmark
    cases hmark
  rw [isNameChar, hauthority, hplain]
  rfl

theorem isAlphanum_iff (c : Char) : c.isAlphanum ↔ ('A'.val ≤ c.val ∧ c.val ≤ 'Z'.val ∨ 'a'.val ≤ c.val ∧ c.val ≤ 'z'.val) ∨
    '0'.val ≤ c.val ∧ c.val ≤ '9'.val := by
  have hdef : c.isAlphanum = (decide ('A'.val ≤ c.val ∧ c.val ≤ 'Z'.val) ||
      (decide ('a'.val ≤ c.val) && decide (c.val ≤ 'z'.val)) || (decide ('0'.val ≤ c.val) && decide (c.val ≤ '9'.val))) := rfl
  simp only [hdef, Bool.or_eq_true, Bool.and_eq_true, decide_eq_true_eq]

theorem isAlphanum_of_hex {c : Char} (h : (Hex.value? c).isSome) : c.isAlphanum := by
  rw [isAlphanum_iff]
  simp only [Hex.value?] at h
  split at h
  next hdigit => exact .inr hdigit
  next =>
    split at h
    next hlower => exact .inl (.inr ⟨hlower.1, UInt32.le_trans hlower.2 (by decide)⟩)
    next =>
      split at h
      next hupper => exact .inl (.inl ⟨hupper.1, UInt32.le_trans hupper.2 (by decide)⟩)
      next => cases h

theorem isAuthorityChar_of_v6 {c : Char} (h : Ipv6.isTextChar c) : Uri.isAuthorityChar c := by
  simp only [Ipv6.isTextChar, Bool.or_eq_true, beq_iff_eq] at h
  rcases h with (hhex | rfl) | rfl
  · rw [Uri.isAuthorityChar, isAlphanum_of_hex hhex, Bool.true_or]
  · decide
  · decide

theorem isFieldChar_of_isAuthorityChar {c : Char} (h : Uri.isAuthorityChar c) : isFieldChar c := by
  simp only [Uri.isAuthorityChar, Bool.or_eq_true] at h
  rcases h with halphanum | hmark
  · simp only [isAlphanum_iff, UInt32.le_iff_toNat_le, Char.reduceVal, UInt32.reduceToNat] at halphanum
    simp only [isFieldChar, Bool.or_eq_true, Bool.and_eq_true, decide_eq_true_eq, bne_iff_ne, Char.toNat]
    omega
  · exact List.all_eq_true.mp (by decide : "!$&'()*+,-.:;=@[]_~%".toList.all isFieldChar) c
      (List.contains_iff_mem.mp hmark)

theorem endsAuthority_of_isAuthorityChar {c : Char} (h : Uri.isAuthorityChar c) : Uri.endsAuthority c = false := by
  by_contra hends
  simp only [Uri.endsAuthority, Bool.not_eq_false, Bool.or_eq_true, beq_iff_eq] at hends
  rcases hends with (rfl | rfl) | rfl <;> revert h <;> decide

theorem isName_of_v4 {cs : List Char} {a : Ipv4} (h : Ipv4.read? cs = some a) : isName cs := by
  simp only [isName, Bool.and_eq_true, Bool.not_eq_true', List.isEmpty_eq_false_iff, List.all_eq_true]
  refine ⟨Ipv4.ne_nil_of_read? h, fun c hc => ?_⟩
  have hc := Ipv4.isTextChar_of_read? h hc
  simp only [Ipv4.isTextChar, Bool.or_eq_true, beq_iff_eq] at hc
  rcases hc with hdigit | rfl
  · exact isNameChar_of_isDigit hdigit
  · decide

theorem isName_or_v6 {cs : List Char} (h : isHost cs) : isName cs ∨ ∃ a, Ipv6.read? cs = some a := by
  simp only [isHost, Bool.or_eq_true, Option.isSome_iff_exists] at h
  rcases h with (hname | ⟨a, hv4⟩) | hv6
  · exact .inl hname
  · exact .inl (isName_of_v4 hv4)
  · exact .inr hv6

theorem isNameChar_of_isName {cs : List Char} (h : isName cs) {c : Char} (hc : c ∈ cs) : isNameChar c := by
  simp only [isName, Bool.and_eq_true, List.all_eq_true] at h
  exact h.2 c hc

theorem colon_not_mem_of_isName {cs : List Char} (h : isName cs) : ':' ∉ cs :=
  fun hcolon => absurd (isNameChar_of_isName h hcolon) (by decide)

theorem v6_eq_none_of_isName {cs : List Char} (h : isName cs) : Ipv6.read? cs = none := by
  cases hread : Ipv6.read? cs with
  | none => rfl
  | some a =>
    have hcount := Ipv6.two_le_count_colon hread
    rw [List.count_eq_zero.mpr (colon_not_mem_of_isName h)] at hcount
    exact absurd hcount (by decide)

theorem isAuthorityChar_of_isHost {cs : List Char} (h : isHost cs) {c : Char} (hc : c ∈ cs) :
    Uri.isAuthorityChar c := by
  rcases isName_or_v6 h with hname | ⟨a, hv6⟩
  · exact isAuthorityChar_of_isNameChar (isNameChar_of_isName hname hc)
  · exact isAuthorityChar_of_v6 (Ipv6.isTextChar_of_read? hv6 hc)

theorem portBehind?_toString (tls : Bool) {port : Nat} (h : port < 65536) :
    portBehind? tls (':' :: (toString port).toList) = some port := by
  have hdigits := Decimal.allDigits_toString port
  have hsome : (toString port).toList.isEmpty = false := by
    simp only [Decimal.allDigits, Bool.and_eq_true, Bool.not_eq_true'] at hdigits
    exact hdigits.1
  simp only [portBehind?, hsome, hdigits, Decimal.ofDigits_toString, h]
  simp

theorem portBehind?_of_two_colons (tls : Bool) {rest : List Char} (h : 2 ≤ rest.count ':') :
    portBehind? tls rest = none := by
  cases rest with
  | nil => cases h
  | cons c digits =>
    have hcolon : ':' ∈ digits := by
      rw [List.count_cons] at h
      refine List.count_pos_iff.mp ?_
      split at h <;> omega
    have hdigits : ¬ Decimal.allDigits digits := by
      simp only [Decimal.allDigits, Bool.and_eq_true, List.all_eq_true, not_and, not_forall]
      exact fun _ => ⟨':', hcolon, by decide⟩
    simp only [portBehind?, List.isEmpty_eq_false_iff.mpr (List.ne_nil_of_mem hcolon), hdigits]
    simp

theorem takeWhile_append {p : Char → Bool} {front rest : List Char} (hfront : ∀ c ∈ front, p c)
    (hrest : rest.head?.all (fun c => !p c)) :
    (front ++ rest).takeWhile p = front ∧ (front ++ rest).dropWhile p = rest := by
  rw [List.takeWhile_append_of_pos hfront, List.dropWhile_append_of_pos hfront]
  cases rest with
  | nil => simp
  | cons c more =>
    have hc : p c = false := by simpa using hrest
    simp [hc]

theorem readAuthority?_of_head (tls : Bool) {cs : List Char} (h : '[' ∉ cs.head?) :
    readAuthority? tls cs = if isName (cs.takeWhile (· != ':')) then
      (portBehind? tls (cs.dropWhile (· != ':'))).map (⟨String.ofList (cs.takeWhile (· != ':')), ·⟩) else none := by
  unfold readAuthority?
  split
  next => simp at h
  next => rfl

theorem readAuthority?_name (tls : Bool) {name : List Char} (hname : isName name) (rest : List Char)
    (hrest : rest.head?.all (fun c => !(c != ':'))) :
    readAuthority? tls (name ++ rest) = (portBehind? tls rest).map (⟨String.ofList name, ·⟩) := by
  have hhead : '[' ∉ (name ++ rest).head? := by
    cases name with
    | nil => cases hname
    | cons c more =>
      intro hopen
      rw [List.cons_append, List.head?_cons, Option.mem_some_iff] at hopen
      exact absurd (isNameChar_of_isName hname (List.mem_cons_self ..)) (by rw [hopen]; decide)
  have hplain : ∀ c ∈ name, (c != ':') = true :=
    fun c hc => bne_iff_ne.mpr fun heq => colon_not_mem_of_isName hname (heq ▸ hc)
  obtain ⟨htake, hdrop⟩ := takeWhile_append hplain hrest
  rw [readAuthority?_of_head tls hhead, htake, hdrop, if_pos hname]

theorem readAuthority?_brackets (tls : Bool) {literal : List Char} {a : Ipv6} (h : Ipv6.read? literal = some a)
    (rest : List Char) :
    readAuthority? tls ('[' :: (literal ++ ']' :: rest)) =
      (portBehind? tls rest).map (⟨String.ofList literal, ·⟩) := by
  have hclose : ']' ∉ literal := fun hmem => absurd (Ipv6.isTextChar_of_read? h hmem) (by decide)
  simp [readAuthority?, Text.cut_append hclose, h]

/-- A version 6 literal without brackets would need everything behind its first colon to be a port. -/
theorem readAuthority?_bare (tls : Bool) {literal : List Char} {a : Ipv6} (h : Ipv6.read? literal = some a) :
    readAuthority? tls literal = none := by
  have hhead : '[' ∉ literal.head? :=
    fun hopen => absurd (Ipv6.isTextChar_of_read? h (List.mem_of_mem_head? hopen)) (by decide)
  have hfront : (literal.takeWhile (· != ':')).count ':' = 0 :=
    List.count_eq_zero.mpr fun hmem => absurd (List.mem_takeWhile_imp hmem) (by decide)
  have hbehind : 2 ≤ (literal.dropWhile (· != ':')).count ':' := by
    have hcount := Ipv6.two_le_count_colon h
    rw [← List.takeWhile_append_dropWhile (p := (· != ':')) (l := literal), List.count_append, hfront] at hcount
    omega
  rw [readAuthority?_of_head tls hhead, portBehind?_of_two_colons tls hbehind, Option.map_none, ite_self]

/-- Whether the host of an address is written without the brackets that it needs. -/
def isBare (address : Address) (tls : Bool) : Bool :=
  (Ipv6.read? address.host.toList).isSome && address.port == impliedPort tls

theorem defaultPort_eq (tls : Bool) : defaultPort tls = impliedPort tls := by
  cases tls <;> rfl

theorem toList_authority (address : Address) (tls : Bool) :
    (authority address none tls).toList =
      if address.port = impliedPort tls then address.host.toList
      else address.hostText.toList ++ ':' :: (toString address.port).toList := by
  simp only [authority, defaultPort_eq]
  split
  next => rfl
  next => simp [Address.text]

theorem hostText_of_isName {address : Address} (h : isName address.host.toList) :
    address.hostText.toList = address.host.toList := by
  have hcolon : address.hasColon = false := by
    simpa [Address.hasColon] using colon_not_mem_of_isName h
  simp [Address.hostText, hcolon]

theorem hostText_of_v6 {address : Address} {a : Ipv6} (h : Ipv6.read? address.host.toList = some a) :
    address.hostText.toList = '[' :: (address.host.toList ++ [']']) := by
  have hcolon : address.hasColon := by
    have hcount := Ipv6.two_le_count_colon h
    simpa [Address.hasColon] using List.count_pos_iff.mp (Nat.lt_of_lt_of_le Nat.zero_lt_two hcount)
  simp [Address.hostText, hcolon, String.toList_append]

theorem readAuthority?_authority {address : Address} (hhost : isHost address.host.toList) (hport : address.port < 65536)
    (tls : Bool) :
    readAuthority? tls (authority address none tls).toList = if isBare address tls then none else some address := by
  rw [toList_authority]
  rcases isName_or_v6 hhost with hname | ⟨a, hv6⟩
  · have hbare : isBare address tls = false := by rw [isBare, v6_eq_none_of_isName hname]; rfl
    rw [hbare]
    split
    next husual =>
      have hread := readAuthority?_name tls hname [] rfl
      rw [List.append_nil] at hread
      rw [hread, portBehind?, ← husual]
      simp
    next =>
      rw [hostText_of_isName hname, readAuthority?_name tls hname _ rfl, portBehind?_toString tls hport]
      simp
  · split
    next husual =>
      rw [readAuthority?_bare tls hv6, isBare, hv6, husual]
      simp
    next hother =>
      rw [hostText_of_v6 hv6, List.cons_append, List.append_assoc, List.singleton_append,
        readAuthority?_brackets tls hv6, portBehind?_toString tls hport]
      simp [isBare, hother]

theorem isAuthorityChar_of_mem_hostText {address : Address} (hhost : isHost address.host.toList) {c : Char}
    (hc : c ∈ address.hostText.toList) : Uri.isAuthorityChar c := by
  unfold Address.hostText at hc
  split at hc
  next =>
    simp only [String.toList_append, List.mem_append] at hc
    rcases hc with (hopen | hmem) | hclose
    · exact List.all_eq_true.mp (by decide : "[".toList.all Uri.isAuthorityChar) c hopen
    · exact isAuthorityChar_of_isHost hhost hmem
    · exact List.all_eq_true.mp (by decide : "]".toList.all Uri.isAuthorityChar) c hclose
  next => exact isAuthorityChar_of_isHost hhost hc

theorem isAuthorityChar_of_mem_authority {address : Address} (hhost : isHost address.host.toList) {tls : Bool}
    {c : Char} (hc : c ∈ (authority address none tls).toList) : Uri.isAuthorityChar c := by
  rw [toList_authority] at hc
  split at hc
  next => exact isAuthorityChar_of_isHost hhost hc
  next =>
    rw [List.mem_append, List.mem_cons] at hc
    rcases hc with hmem | rfl | hdigit
    · exact isAuthorityChar_of_mem_hostText hhost hmem
    · decide
    · have hdigits := Decimal.allDigits_toString address.port
      simp only [Decimal.allDigits, Bool.and_eq_true, List.all_eq_true] at hdigits
      exact isAuthorityChar_of_isNameChar (isNameChar_of_isDigit (hdigits.2 c hdigit))

theorem ofCheck_eq {address : Address} {check : HttpCheck} (hhost : isHost address.host.toList)
    (hheader : check.hostHeader = none) :
    Request.ofCheck address check =
      match Uri.parse? .ascii check.path with
      | none => .error (Request.invalid "no request target")
      | some target => .ok ⟨check.method, target, authority address none check.tls.isSome⟩ := by
  cases hparse : Uri.parse? .ascii check.path with
  | none => simp only [Request.ofCheck, hparse]
  | some target =>
    simp only [Request.ofCheck, hparse, hheader]
    refine if_pos (List.all_eq_true.mpr fun c hc => ?_)
    exact isFieldChar_of_isAuthorityChar (isAuthorityChar_of_mem_authority hhost hc)

/-- The path of a configured check begins where its authority ends. -/
theorem endsAuthority_of_webSocketCheck {id : String} {config : WebSocketConfig} {urlPath : Option String}
    {tls : Option TlsPolicy} {check : WebSocketCheck} (h : Target.webSocketCheck id config urlPath tls = .ok check) :
    check.path.toList.head?.all Uri.endsAuthority := by
  simp only [Target.webSocketCheck] at h
  split at h
  next => cases h
  next hslash =>
    cases h
    simp only [Target.startsWithSlash, Bool.not_eq_true', Bool.not_eq_false, beq_iff_eq] at hslash
    rw [hslash]
    rfl

theorem urlAuthority_requestUrl {address : Address} {check : WebSocketCheck} (hhost : isHost address.host.toList)
    (hheader : check.hostHeader = none) (hpath : check.path.toList.head?.all Uri.endsAuthority) :
    urlAuthority (WebSocket.requestUrl address check) = (authority address none check.tls.isSome).toList := by
  have hplain : (WebSocket.scheme check.tls.isSome).toList.all (· != ':') := by
    cases check.tls.isSome <;> decide
  have hscheme := List.all_eq_true.mp hplain
  have hdrop := fun rest => (takeWhile_append hscheme (show ("://".toList ++ rest).head?.all (!· != ':') from rfl)).2
  have hauthority : ∀ c ∈ (authority address none check.tls.isSome).toList, (!Uri.endsAuthority c) = true := fun c hc => by
    rw [endsAuthority_of_isAuthorityChar (isAuthorityChar_of_mem_authority hhost hc), Bool.not_false]
  have htake := (takeWhile_append hauthority
    (show check.path.toList.head?.all (!!Uri.endsAuthority ·) by simpa using hpath)).1
  simp only [urlAuthority, WebSocket.requestUrl, hheader, String.toList_append, List.append_assoc]
  rw [hdrop]
  exact htake

/-- A request is made for every host whose path is a target. What it names as its host, and the authority of the URL, read
as the address, unless that is a bare literal. -/
theorem authority_read_back {address : Address} {check : HttpCheck} {ws : WebSocketCheck}
    (hhost : isHost address.host.toList) (hport : address.port < 65536) (hcheck : check.hostHeader = none)
    (hws : ws.hostHeader = none) (hpath : ws.path.toList.head?.all Uri.endsAuthority) :
    ((∃ request, Request.ofCheck address check = .ok request) ↔ (Uri.parse? .ascii check.path).isSome) ∧
      (∀ request, Request.ofCheck address check = .ok request →
        readAuthority? check.tls.isSome request.host.toList =
          if isBare address check.tls.isSome then none else some address) ∧
      (readAuthority? ws.tls.isSome (urlAuthority (WebSocket.requestUrl address ws)) =
        if isBare address ws.tls.isSome then none else some address) ∧
      (∀ request, Request.ofCheck address check = .ok request → check.tls.isSome = ws.tls.isSome →
        urlAuthority (WebSocket.requestUrl address ws) = request.host.toList) := by
  have hrequest : ∀ request, Request.ofCheck address check = .ok request →
      request.host = authority address none check.tls.isSome := fun request hok => by
    rw [ofCheck_eq hhost hcheck] at hok
    split at hok
    next => cases hok
    next => cases hok; rfl
  refine ⟨?_, fun request hok => ?_, ?_, fun request hok htls => ?_⟩
  · rw [ofCheck_eq hhost hcheck]
    cases Uri.parse? .ascii check.path <;> simp
  · rw [hrequest request hok]
    exact readAuthority?_authority hhost hport _
  · rw [urlAuthority_requestUrl hhost hws hpath]
    exact readAuthority?_authority hhost hport _
  · rw [urlAuthority_requestUrl hhost hws hpath, hrequest request hok, htls]

/-- A version 6 literal on a port of its own is put in brackets, and both texts read back. -/
theorem authority_read_back_of_literal :
    (∃ request, Request.ofCheck ⟨"::1", 9000⟩ ⟨"GET", "/", 200, none, none, some {}⟩ = .ok request ∧
      readAuthority? true request.host.toList = some ⟨"::1", 9000⟩ ∧
      urlAuthority (WebSocket.requestUrl ⟨"::1", 9000⟩ ⟨"/events", none, none, some {}⟩) = request.host.toList) ∧
    readAuthority? true (urlAuthority (WebSocket.requestUrl ⟨"::1", 9000⟩ ⟨"/events", none, none, some {}⟩)) =
      some ⟨"::1", 9000⟩ := by
  obtain ⟨hbuilt, hheader, hurl, hsame⟩ := @authority_read_back ⟨"::1", 9000⟩ ⟨"GET", "/", 200, none, none, some {}⟩
    ⟨"/events", none, none, some {}⟩ (by decide) (by decide) rfl rfl (by decide)
  obtain ⟨request, hok⟩ := hbuilt.mpr (by decide)
  exact ⟨⟨request, hok, hheader request hok, hsame request hok rfl⟩, hurl⟩

/-- On the usual port neither text denotes the address, with TLS or without. -/
theorem authority_of_bare_literal :
    isHost "::1".toList ∧
    (Request.ofCheck ⟨"::1", 80⟩ ⟨"GET", "/", 200, none, none, none⟩ = .ok ⟨"GET", ⟨none, "", "/", none⟩, "::1"⟩ ∧
      WebSocket.requestUrl ⟨"::1", 80⟩ ⟨"/", none, none, none⟩ = "ws://::1/" ∧
      readAuthority? false "::1".toList = none ∧ readAuthority? false (urlAuthority "ws://::1/") = none) ∧
    (Request.ofCheck ⟨"::1", 443⟩ ⟨"GET", "/", 200, none, none, some {}⟩ = .ok ⟨"GET", ⟨none, "", "/", none⟩, "::1"⟩ ∧
      WebSocket.requestUrl ⟨"::1", 443⟩ ⟨"/", none, none, some {}⟩ = "wss://::1/" ∧
      readAuthority? true "::1".toList = none ∧ readAuthority? true (urlAuthority "wss://::1/") = none) := by
  decide

end TargetHealth.Http
