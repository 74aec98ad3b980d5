import TargetHealth.Health.State
import TargetHealth.Proofs.Config.Acceptance
import TargetHealth.Proofs.Http.Request
import TargetHealth.Proofs.Target.Making

namespace TargetHealth.Target

variable {files : FileReader} {config : TargetConfig} {target : Target} {check : HttpCheck}

theorem exists_of_ofConfig (h : ofConfig files config = .ok target) (hcheck : target.protocol = .http check) :
    config.protocol = .http ∧ check.hostHeader = (httpOptions config).hostHeader ∧ check.path.toList.head? = some '/' ∧
      ∃ fromUrl, fromUrl? config = .ok fromUrl ∧ target.address = addressOf config fromUrl ∧
        check.path = choosePath (httpOptions config).path (fromUrl.map (·.pathAndQuery)) := by
  obtain ⟨fromUrl, hmade⟩ := exists_made h
  obtain ⟨hkind, tls, hhttp⟩ := http_of_protocolOf (hmade.protocol.trans (congrArg Except.ok hcheck))
  obtain ⟨hpath, hheader, -, hslash⟩ := of_httpCheck hhttp
  exact ⟨hkind, hheader, hslash, fromUrl, hmade.url, hmade.address, hpath⟩

/-- Host and path come from the options, or from the URL, and a path beside the URL wins. -/
theorem origin_of_ofConfig (h : ofConfig files config = .ok target) (hcheck : target.protocol = .http check) :
    (config.url = none ∧ target.address.host = config.host.getD "" ∧ check.path = (httpOptions config).path) ∨
      ∃ url host, config.url = some url ∧ url.host? = some host ∧ (schemeTls? .http url.scheme).isSome ∧
        target.address.host = host.text ∧
        check.path = if (httpOptions config).path = "/" then url.pathAndQuery else (httpOptions config).path := by
  obtain ⟨hkind, -, -, fromUrl, hfrom, haddress, hpath⟩ := exists_of_ofConfig h hcheck
  cases hurl : config.url with
  | none =>
    obtain rfl := fromUrl?_of_none hurl hfrom
    exact .inl ⟨rfl, by rw [haddress]; rfl, hpath⟩
  | some url =>
    obtain ⟨host, port, tls, hhost, -, hscheme, rfl⟩ := fromUrl?_of_url hurl hfrom
    rw [hkind] at hscheme
    exact .inr ⟨url, host, rfl, hhost, by rw [hscheme]; rfl, by rw [haddress]; rfl, hpath⟩

theorem isTarget_pathAndQuery {text : String} {url : Url} (hread : Url.read? text = some url)
    (hscheme : (schemeTls? .http url.scheme).isSome) : Http.isTarget url.pathAndQuery.toList := by
  obtain ⟨⟨path, hpath⟩, ⟨behind, hbehind⟩, -⟩ := of_read? hread hscheme
  obtain ⟨cs, hcs, hchars⟩ := Url.toList_normalPath true path
  have hpathChars : ∀ c ∈ url.path.toList, Http.Uri.isPathChar c := fun c hc => by
    rw [hpath, hcs] at hc
    rcases List.mem_cons.mp hc with rfl | hmem
    · decide
    · exact hchars c hmem
  rw [Url.pathAndQuery, String.toList_append]
  refine Http.isTarget_append hpathChars ?_ ?_
  · cases url.query <;> simp
  · cases hquery : url.query with
    | none => simp
    | some query =>
      rw [hquery] at hbehind
      simpa using Url.isQueryChar_of_tail hbehind.symm

theorem isFieldChar_of_not_isDenied {c : Char} (h : Domain.isDenied c = false) : Http.isFieldChar c := by
  simp only [Domain.isDenied, Bool.or_eq_false_iff, decide_eq_false_iff_not, beq_eq_false_iff_ne] at h
  simp only [Http.isFieldChar, Bool.or_eq_true, Bool.and_eq_true, decide_eq_true_eq, bne_iff_ne]
  omega

theorem all_isFieldChar_host {text : String} {url : Url} {host : Host} (hread : Url.read? text = some url)
    (hscheme : (schemeTls? .http url.scheme).isSome) (hhost : url.host? = some host) :
    host.text.toList.all Http.isFieldChar := by
  obtain ⟨hostText, hhostRead⟩ := (of_read? hread hscheme).2.2 host hhost
  refine List.all_eq_true.mpr fun c hc => ?_
  rcases Host.isTextChar_or_of_read? hhostRead hc with hliteral | hname
  · exact Http.isFieldChar_of_isAuthorityChar (Http.isAuthorityChar_of_v6 hliteral)
  · exact isFieldChar_of_not_isDenied hname

/-- Whether what a configuration says itself can be sent. What its URL says always can be, but for its length. -/
structure Sendable (config : TargetConfig) (check : HttpCheck) : Prop where
  short : check.path.utf8ByteSize ≤ Http.Uri.maxLength
  path : config.url = none ∨ (httpOptions config).path ≠ "/" → Http.isTarget (httpOptions config).path.toList
  header : ∀ host, (httpOptions config).hostHeader = some host → host.toList.all Http.isFieldChar
  host : (httpOptions config).hostHeader = none → config.url = none → (config.host.getD "").toList.all Http.isFieldChar

section

variable (h : ofConfig files config = .ok target) (hcheck : target.protocol = .http check)
  (hread : ∀ url, config.url = some url → ∃ text, Url.read? text = some url)

include h hcheck hread

theorem isTarget_path_iff : Http.isTarget check.path.toList ↔
    (config.url = none ∨ (httpOptions config).path ≠ "/" → Http.isTarget (httpOptions config).path.toList) := by
  rcases origin_of_ofConfig h hcheck with ⟨hurl, -, hpath⟩ | ⟨url, host, hurl, -, hscheme, -, hpath⟩
  · rw [hpath]
    exact ⟨fun h _ => h, fun h => h (.inl hurl)⟩
  · obtain ⟨text, htext⟩ := hread url hurl
    by_cases hdefault : (httpOptions config).path = "/"
    · rw [hpath, if_pos hdefault, hurl]
      exact iff_of_true (isTarget_pathAndQuery htext hscheme)
        (fun hown => hown.elim nofun (fun hne => absurd hdefault hne))
    · rw [hpath, if_neg hdefault]
      exact ⟨fun h _ => h, fun h => h (.inr hdefault)⟩

theorem all_isFieldChar_iff : (check.hostHeader.getD target.address.host).toList.all Http.isFieldChar ↔
    (∀ host, (httpOptions config).hostHeader = some host → host.toList.all Http.isFieldChar) ∧
      ((httpOptions config).hostHeader = none → config.url = none →
        (config.host.getD "").toList.all Http.isFieldChar) := by
  rw [(exists_of_ofConfig h hcheck).2.1]
  cases (httpOptions config).hostHeader with
  | some host => simp
  | none =>
    rcases origin_of_ofConfig h hcheck with ⟨hurl, hhost, -⟩ | ⟨url, host, hurl, hsome, hscheme, hhost, -⟩
    · simp [hurl, hhost]
    · obtain ⟨text, htext⟩ := hread url hurl
      have hfield := all_isFieldChar_host htext hscheme hsome
      rw [Option.getD_none, hhost, hurl]
      exact iff_of_true hfield ⟨nofun, nofun⟩

theorem requestable_iff_sendable : Http.Requestable target.address check ↔ Sendable config check := by
  have hpath := isTarget_path_iff h hcheck hread
  have hfield := all_isFieldChar_iff h hcheck hread
  constructor
  · rintro ⟨hshort, htarget, hhost⟩
    obtain ⟨hheader, hhost⟩ := hfield.mp hhost
    exact ⟨hshort, hpath.mp htarget, hheader, hhost⟩
  · rintro ⟨hshort, htarget, hheader, hhost⟩
    exact ⟨hshort, hpath.mpr htarget, hfield.mpr ⟨hheader, hhost⟩⟩

end

/-- The check of an accepted configuration sends its request if what the configuration says itself can be sent, and is then
judged by its peer and its limits alone. Otherwise it is skipped whatever the peer does, and the status of its target stays
what it was. -/
theorem request_of_config_iff (h : ofConfig files config = .ok target) (hcheck : target.protocol = .http check)
    (hread : ∀ url, config.url = some url → ∃ text, Url.read? text = some url) :
    ((∃ request, Http.Request.ofCheck target.address check = .ok request) ↔ Sendable config check) ∧
    (Sendable config check → ∀ context now peer detail,
      (Http.Exchange.run target.address check context now peer).verdict ≠ .error (.internal detail)) ∧
    (¬ Sendable config check → ∃ detail,
      (∀ context now peer,
        (Http.Exchange.run target.address check context now peer).verdict = .error (Http.Request.invalid detail)) ∧
      ∀ id at_, ((Http.Request.invalid detail).toResult id at_).outcome = .skipped ∧
        ∀ (state : TargetState) policy,
          (state.record ((Http.Request.invalid detail).toResult id at_) policy).status = state.status) := by
  have hsent : (∃ request, Http.Request.ofCheck target.address check = .ok request) ↔ Sendable config check :=
    (Http.exists_request_iff (exists_of_ofConfig h hcheck).2.2.1).trans (requestable_iff_sendable h hcheck hread)
  refine ⟨hsent, fun hsendable context now peer => ?_, fun hnot => ?_⟩
  · obtain ⟨request, hok⟩ := hsent.mpr hsendable
    exact Http.Exchange.onPeer_of_request hok context now peer
  · rcases Http.ofCheck_cases target.address check with hok | ⟨detail, herror⟩
    · exact absurd (hsent.mp hok) hnot
    · exact ⟨detail, Http.Exchange.verdict_of_error herror, fun id at_ => ⟨rfl, fun state policy => rfl⟩⟩

/-- A URL with a blank in its path, an address in brackets, quotes in its query and a fragment. -/
theorem request_of_config_iff_url :
    let config : TargetConfig := { id := "a", protocol := .http, http := some {}
                                   url := some ⟨"http", some ⟨"", some (.ipv6 ⟨[0, 0, 0, 0, 0, 0, 0, 1]⟩), some 8080⟩,
                                     "/a%20b", some "q=%27x%27", some "z"⟩ }
    let check : HttpCheck := ⟨"GET", "/a%20b?q=%27x%27", 200, none, none, none⟩
    let target : Target := ⟨"a", ⟨"::1", 8080⟩, .http check, .ofSeconds 30, .ofMillis 5000⟩
    (ofConfig (fun _ => .error .notFound) config = .ok target ∧ target.protocol = .http check ∧
      ∃ url, config.url = some url ∧ Url.read? "http://[::1]:8080/a b?q='x'#z" = some url) ∧
    ∃ request, Http.Request.ofCheck target.address check = .ok request := by
  intro config check target
  have hmade : ofConfig (fun _ => .error .notFound) config = .ok target := by decide +kernel
  have hread : Url.read? "http://[::1]:8080/a b?q='x'#z" = config.url := by decide +kernel
  have hsendable : Sendable config check := ⟨by decide +kernel, by decide +kernel, nofun, nofun⟩
  obtain ⟨hsent, -, -⟩ := request_of_config_iff hmade rfl fun url hurl => ⟨_, hread.trans hurl⟩
  exact ⟨⟨hmade, rfl, _, rfl, hread⟩, hsent.mpr hsendable⟩

/-- A path with a blank is accepted in a configuration, and no request is made of it. -/
theorem no_request_of_blank_in_path :
    ∃ config target check,
      Config.parse .yaml
        "targets:\n  - id: a\n    host: 127.0.0.1\n    port: 80\n    protocol: http\n    http:\n      path: /a b\n" =
          .ok config ∧
      CommandLine.targetsOf (fun _ => .error .notFound) config = .ok [target] ∧ target.protocol = .http check ∧
      Http.Request.ofCheck target.address check = .error (Http.Request.invalid "no request target") ∧
      (Http.Request.invalid "no request target").outcome = .skipped := by
  let entry : TargetConfig :=
    { id := "a", host := some "127.0.0.1", port := some 80, protocol := .http, http := some { path := "/a b" } }
  let check : HttpCheck := ⟨"GET", "/a b", 200, none, none, none⟩
  let target : Target := ⟨"a", ⟨"127.0.0.1", 80⟩, .http check, .ofSeconds 30, .ofMillis 5000⟩
  refine ⟨{ targets := [entry] }, target, check, ?_, ?_, rfl, ?_, rfl⟩
  · decide +kernel
  · decide +kernel
  · decide +kernel

end TargetHealth.Target
