import TargetHealth.Proofs.Target.Making

namespace TargetHealth

def Url.isSecure (url : Url) : Bool := url.scheme == "https" || url.scheme == "wss"

/-- The URL schemes of a protocol. -/
def ProtocolKind.Takes : ProtocolKind → String → Prop
  | .http, scheme => scheme = "http" ∨ scheme = "https"
  | .webSocket, scheme => scheme = "ws" ∨ scheme = "wss"
  | _, _ => False

namespace TargetConfig

def sectionTls (t : TargetConfig) : Bool :=
  match t.protocol with
  | .http => t.http.any (·.tls)
  | .webSocket => t.webSocket.any (·.tls)
  | _ => false

/-- Whether a configuration asks for TLS: by its protocol, or by a section, its URL or a TLS section beside it. -/
def AsksForTls (t : TargetConfig) : Prop :=
  t.protocol = .tls ∨
    (t.protocol = .http ∨ t.protocol = .webSocket) ∧ (t.sectionTls ∨ t.url.any (·.isSecure) ∨ t.tls.isSome)

theorem tls_of_validate {t : TargetConfig} (h : t.validate = .ok ()) (hprotocol : t.protocol = .tcp) : t.tls = none := by
  by_contra htls
  have hboth : t.tls.isSome ∧ t.protocol = .tcp := ⟨Option.isSome_iff_ne_none.mpr htls, hprotocol⟩
  unfold validate at h
  simp only [if_pos hboth] at h
  -- every way through the checks ends in a refusal
  repeat' split at h
  all_goals cases h

end TargetConfig

/-- A policy has what a TLS section says, the file and the digest in place of their names. -/
structure TlsPolicy.Carries (files : FileReader) (block : TlsConfig) (policy : TlsPolicy) : Prop where
  serverName : policy.serverName = block.serverName
  skipVerify : policy.skipVerify = block.skipVerify
  pin : policy.pin.map some = block.pinnedSha256.map Digest.read?
  caCert : policy.caCertPem.map .ok = block.caCertPath.map files

/-- An address is the one that a URL names. The host stands without the brackets of an address literal. -/
structure Url.Names (url : Url) (address : Address) : Prop where
  host : ∃ host, url.host? = some host ∧
    address.host.toList = host.urlText.toList.filter (fun c => c != '[' && c != ']')
  port : address.port = (url.authority.bind (·.port)).getD (if url.isSecure then 443 else 80)

namespace Target

variable {files : FileReader} {config : TargetConfig} {target : Target} {id : String} {fromUrl : Option UrlTarget}

theorem map_of_pinOf {block : TlsConfig} {pin : Option Digest} (h : pinOf id block = .ok pin) :
    pin.map some = block.pinnedSha256.map Digest.read? := by
  unfold pinOf at h
  split at h
  next hnone =>
    cases h
    rw [hnone]
    rfl
  next hex hsome =>
    split at h
    next digest hread =>
      cases h
      rw [hsome, Option.map_some, Option.map_some, hread]
    next => cases h

theorem map_of_caCertOf {block : TlsConfig} {caCertPem : Option Bytes} (h : caCertOf files id block = .ok caCertPem) :
    caCertPem.map .ok = block.caCertPath.map files := by
  unfold caCertOf at h
  split at h
  next hnone =>
    cases h
    rw [hnone]
    rfl
  next path hsome =>
    split at h
    next bytes hread =>
      cases h
      rw [hsome, Option.map_some, Option.map_some, hread]
    next => cases h

theorem carries_of_tlsPolicy {block : TlsConfig} {policy : TlsPolicy} (h : tlsPolicy files id (some block) = .ok policy) :
    policy.Carries files block := by
  rw [tlsPolicy_some] at h
  obtain ⟨caCertPem, hca, h⟩ := exists_of_bind_eq_ok h
  obtain ⟨pin, hpin, h⟩ := exists_of_bind_eq_ok h
  cases h
  exact ⟨rfl, rfl, map_of_pinOf hpin, map_of_caCertOf hca⟩

theorem of_optionalTls {used : Bool} {block : Option TlsConfig} {policy? : Option TlsPolicy}
    (h : optionalTls files id used block = .ok policy?) :
    (policy?.isSome ↔ used ∨ block.isSome) ∧
      ∀ policy, policy? = some policy → tlsPolicy files id block = .ok policy := by
  unfold optionalTls at h
  split at h
  next hasked =>
    obtain ⟨policy, hpolicy, rfl⟩ := exists_of_map_eq_ok h
    rw [Bool.or_eq_true] at hasked
    refine ⟨iff_of_true rfl hasked, fun policy' heq => ?_⟩
    cases heq
    exact hpolicy
  next hnot =>
    cases h
    rw [Bool.or_eq_true] at hnot
    exact ⟨iff_of_false nofun hnot, nofun⟩

def usesTls (config : TargetConfig) (fromUrl : Option UrlTarget) : Bool :=
  match config.protocol with
  | .tcp => false
  | .tls => true
  | .http => (httpOptions config).tls || fromUrl.any (·.tls)
  | .webSocket => (webSocketOptions config).tls || fromUrl.any (·.tls)

theorem Made.optionalTls (h : Made files config fromUrl target) :
    Target.optionalTls files config.id (usesTls config fromUrl) config.tls = .ok target.protocol.tlsPolicy? := by
  have hprotocol := h.protocol
  cases hkind : config.protocol with
  | tcp =>
    rw [protocolOf, hkind] at hprotocol
    rw [usesTls, hkind, ← Except.ok.inj hprotocol, TargetConfig.tls_of_validate h.valid hkind]
    rfl
  | tls =>
    rw [protocolOf, hkind] at hprotocol
    obtain ⟨policy, hpolicy, heq⟩ := exists_of_map_eq_ok hprotocol
    rw [usesTls, hkind, ← heq]
    simp only [Target.optionalTls, Bool.true_or, if_true, hpolicy]
    rfl
  | http =>
    rw [protocolOf, hkind] at hprotocol
    obtain ⟨tls, htls, hcheck⟩ := exists_of_bind_eq_ok hprotocol
    obtain ⟨check, hcheck, heq⟩ := exists_of_map_eq_ok hcheck
    rw [usesTls, hkind, ← heq, Protocol.tlsPolicy?, (of_httpCheck hcheck).2.2.1]
    exact htls
  | webSocket =>
    rw [protocolOf, hkind] at hprotocol
    obtain ⟨tls, htls, hcheck⟩ := exists_of_bind_eq_ok hprotocol
    obtain ⟨check, hcheck, heq⟩ := exists_of_map_eq_ok hcheck
    rw [usesTls, hkind, ← heq, Protocol.tlsPolicy?, (of_webSocketCheck hcheck).2.2.1]
    exact htls

theorem of_schemeTls? {kind : ProtocolKind} {url : Url} {tls : Bool} (h : schemeTls? kind url.scheme = some tls) :
    kind.Takes url.scheme ∧ tls = url.isSecure ∧
      Url.defaultPort? url.scheme = some (if url.isSecure then 443 else 80) := by
  unfold Url.isSecure
  generalize url.scheme = scheme at h ⊢
  unfold schemeTls? at h
  split at h
  case h_1 | h_2 =>
    cases h
    exact ⟨.inr rfl, by decide⟩
  case h_3 | h_4 =>
    cases h
    exact ⟨.inl rfl, by decide⟩
  case h_5 => cases h

theorem any_tls_of_made (h : Made files config fromUrl target) :
    fromUrl.any (·.tls) = config.url.any (·.isSecure) := by
  cases hurl : config.url with
  | none =>
    rw [fromUrl?_of_none hurl h.url]
    rfl
  | some url =>
    obtain ⟨host, port, tls, -, -, hscheme, rfl⟩ := fromUrl?_of_url hurl h.url
    exact (of_schemeTls? hscheme).2.1

theorem asksForTls_iff (h : Made files config fromUrl target) :
    config.AsksForTls ↔ usesTls config fromUrl ∨ config.tls.isSome := by
  unfold TargetConfig.AsksForTls TargetConfig.sectionTls usesTls httpOptions webSocketOptions
  rw [any_tls_of_made h]
  cases hkind : config.protocol with
  | tcp => simp [TargetConfig.tls_of_validate h.valid hkind]
  | tls => simp
  | http => cases config.http <;> simp [or_assoc]
  | webSocket => cases config.webSocket <;> simp [or_assoc]

theorem filter_urlText {text : List Char} {host : Host} (h : Host.read? text = some host) :
    host.urlText.toList.filter (fun c => c != '[' && c != ']') = host.text.toList := by
  have hplain : host.text.toList.filter (fun c => c != '[' && c != ']') = host.text.toList := by
    refine List.filter_eq_self.mpr fun c hc => ?_
    have hne : c ≠ '[' ∧ c ≠ ']' := by
      constructor
      all_goals
        rintro rfl
        rcases Host.isTextChar_or_of_read? h hc with hliteral | hname
        · exact absurd hliteral (by decide)
        · exact absurd hname (by decide)
    simp [hne]
  cases host with
  | domain name => exact hplain
  | ipv4 address => exact hplain
  | ipv6 address =>
    rw [Host.urlText, String.toList_append, String.toList_append, List.filter_append, List.filter_append]
    exact (List.append_nil _).trans hplain

theorem names_of_made (h : Made files config fromUrl target) {url : Url} {text : String} (hurl : config.url = some url)
    (hread : Url.read? text = some url) : url.Names target.address := by
  obtain ⟨host, port, tls, hhost, hport, hscheme, rfl⟩ := fromUrl?_of_url hurl h.url
  obtain ⟨hostText, hhostRead⟩ := (of_read? hread (by rw [hscheme]; rfl)).2.2 host hhost
  refine ⟨⟨host, hhost, ?_⟩, ?_⟩
  · rw [h.address, filter_urlText hhostRead]
    rfl
  · rw [Url.port?, (of_schemeTls? hscheme).2.2] at hport
    rw [h.address]
    cases hgiven : url.authority.bind (·.port) with
    | none =>
      rw [hgiven] at hport
      exact (Option.some.inj hport).symm
    | some given =>
      rw [hgiven] at hport
      exact (Option.some.inj hport).symm

theorem takes_of_made (h : Made files config fromUrl target) {url : Url} (hurl : config.url = some url) :
    config.protocol.Takes url.scheme := by
  obtain ⟨host, port, tls, -, -, hscheme, rfl⟩ := fromUrl?_of_url hurl h.url
  exact (of_schemeTls? hscheme).1

/-- A target is spoken to over TLS if and only if its configuration asks for that. Its policy has all that the TLS section
says, and is the default one without such a section. With a URL, host and port are those of the URL, whose scheme is one of
the protocol; any other scheme is refused. -/
theorem trust_of_config (files : FileReader) (config : TargetConfig) :
    (∀ target, ofConfig files config = .ok target →
      (target.protocol.tlsPolicy?.isSome ↔ config.AsksForTls) ∧
      (∀ block, config.tls = some block →
        ∃ policy, target.protocol.tlsPolicy? = some policy ∧ policy.Carries files block) ∧
      (config.tls = none → ∀ policy, target.protocol.tlsPolicy? = some policy → policy = {}) ∧
      ∀ url, config.url = some url → config.protocol.Takes url.scheme ∧
        ∀ text, Url.read? text = some url → url.Names target.address) ∧
    ∀ url, config.url = some url → ¬ config.protocol.Takes url.scheme →
      ∃ reason, ofConfig files config = .error (.invalidTarget config.id reason) := by
  constructor
  · intro target h
    obtain ⟨fromUrl, hmade⟩ := exists_made h
    obtain ⟨hused, hpolicy⟩ := of_optionalTls hmade.optionalTls
    refine ⟨hused.trans (asksForTls_iff hmade).symm, fun block hblock => ?_, fun hnone policy hsome => ?_,
      fun url hurl => ⟨takes_of_made hmade hurl, fun text hread => names_of_made hmade hurl hread⟩⟩
    · obtain ⟨policy, hsome⟩ := Option.isSome_iff_exists.mp (hused.mpr (.inr (by rw [hblock]; rfl)))
      have hread := hpolicy policy hsome
      rw [hblock] at hread
      exact ⟨policy, hsome, carries_of_tlsPolicy hread⟩
    · have hread := hpolicy policy hsome
      rw [hnone] at hread
      exact (Except.ok.inj hread).symm
  · intro url hurl htakes
    cases hmade : ofConfig files config with
    | error e =>
      obtain ⟨reason, rfl⟩ := blames_ofConfig e hmade
      exact ⟨reason, rfl⟩
    | ok target =>
      obtain ⟨fromUrl, hmade⟩ := exists_made hmade
      exact absurd (takes_of_made hmade hurl) htakes

/-- A pinned address in brackets on the port of its scheme, and a URL of a protocol that is not spoken. -/
theorem trust_of_config_pinned :
    let files : FileReader := fun path => if path = "ca.pem" then .ok [0x2d] else .error .notFound
    let block : TlsConfig :=
      { serverName := some "edge", caCertPath := some "ca.pem", skipVerify := true
        pinnedSha256 := some "ab:ababababababababababababababababababababababababababababababAB" }
    let url : Url := ⟨"https", some ⟨"", some (.ipv6 ⟨[0, 0, 0, 0, 0, 0, 0, 1]⟩), none⟩, "/", none, none⟩
    let config : TargetConfig := { id := "a", protocol := .http, url := some url, tls := some block }
    let policy : TlsPolicy := ⟨some "edge", some [0x2d], some ⟨List.replicate 32 0xab, rfl⟩, true⟩
    let target : Target :=
      ⟨"a", ⟨"::1", 443⟩, .http ⟨"GET", "/", 200, none, none, some policy⟩, .ofSeconds 30, .ofMillis 5000⟩
    let foreign : Url := { url with scheme := "ftp" }
    (ofConfig files config = .ok target ∧ config.AsksForTls ∧ policy.Carries files block ∧
      Url.read? "https://[::1]:443" = some url ∧ url.Names target.address) ∧
    ¬ ProtocolKind.Takes .http foreign.scheme ∧
      ∃ reason, ofConfig files { config with url := some foreign } = .error (.invalidTarget "a" reason) := by
  intro files block url config policy target foreign
  have hmade : ofConfig files config = .ok target := by decide +kernel
  have hread : Url.read? "https://[::1]:443" = some url := by decide +kernel
  have hforeign : ¬ ("ftp" = "http" ∨ "ftp" = "https") := by decide
  obtain ⟨hspoken, hpolicy, -, hurl⟩ := (trust_of_config files config).1 target hmade
  obtain ⟨policy', hsome, hcarries⟩ := hpolicy block rfl
  cases hsome
  exact ⟨⟨hmade, hspoken.mp rfl, hcarries, hread, (hurl url rfl).2 _ hread⟩, hforeign,
    (trust_of_config files { config with url := some foreign }).2 foreign rfl hforeign⟩

end Target

end TargetHealth
