import TargetHealth.Proofs.Fault
import TargetHealth.Proofs.Url.Characters
import TargetHealth.Target.Target

namespace TargetHealth

namespace Target

variable {files : FileReader} {config : TargetConfig} {target : Target} {id : String} {fromUrl : Option UrlTarget}

def caCertOf (files : FileReader) (id : String) (block : TlsConfig) : Except ConfigError (Option Bytes) :=
  match block.caCertPath with
  | none => .ok none
  | some path =>
    match files path with
    | .ok bytes => .ok (some bytes)
    | .error e => refuse id ("failed to read CA file " ++ path ++ ": " ++ e.message)

def pinOf (id : String) (block : TlsConfig) : Except ConfigError (Option Digest) :=
  match block.pinnedSha256 with
  | none => .ok none
  | some hex =>
    match Digest.read? hex with
    | some digest => .ok (some digest)
    | none => refuse id "pinned_sha256 must be 64 hex digits"

theorem tlsPolicy_some (block : TlsConfig) : tlsPolicy files id (some block) = (do
    let caCertPem ← caCertOf files id block
    let pin ← pinOf id block
    .ok ⟨block.serverName, caCertPem, pin, block.skipVerify⟩) := by
  unfold tlsPolicy caCertOf pinOf
  dsimp only
  cases block.caCertPath with
  | none =>
    cases block.pinnedSha256 with
    | none => rfl
    | some hex =>
      dsimp only
      cases Digest.read? hex <;> rfl
  | some path =>
    dsimp only
    cases files path with
    | error e => rfl
    | ok bytes =>
      cases block.pinnedSha256 with
      | none => rfl
      | some hex =>
        dsimp only
        cases Digest.read? hex <;> rfl

def httpOptions (config : TargetConfig) : HttpConfig := config.http.getD {}

def webSocketOptions (config : TargetConfig) : WebSocketConfig := config.webSocket.getD {}

def fromUrl? (config : TargetConfig) : Except ConfigError (Option UrlTarget) :=
  match config.url with
  | some url => some <$> ofUrl config.id config.protocol url
  | none => .ok none

def addressOf (config : TargetConfig) (fromUrl : Option UrlTarget) : Address :=
  match fromUrl with
  | some u => u.address
  | none => ⟨config.host.getD "", config.port.getD 0⟩

def protocolOf (files : FileReader) (config : TargetConfig) (fromUrl : Option UrlTarget) : Except ConfigError Protocol :=
  match config.protocol with
  | .tcp => .ok .tcp
  | .tls => .tls <$> tlsPolicy files config.id config.tls
  | .http => do
    let tls ← optionalTls files config.id ((httpOptions config).tls || fromUrl.any (·.tls)) config.tls
    .http <$> httpCheck config.id (httpOptions config) (fromUrl.map (·.pathAndQuery)) tls
  | .webSocket => do
    let tls ← optionalTls files config.id ((webSocketOptions config).tls || fromUrl.any (·.tls)) config.tls
    .webSocket <$> webSocketCheck config.id (webSocketOptions config) (fromUrl.map (·.pathAndQuery)) tls

theorem ofConfig_eq : ofConfig files config = (do
    config.validate
    let fromUrl ← fromUrl? config
    let protocol ← protocolOf files config fromUrl
    .ok ⟨config.id, addressOf config fromUrl, protocol, config.interval, config.timeout⟩) := by
  unfold ofConfig fromUrl? protocolOf
  refine bind_congr fun _ => ?_
  dsimp only
  -- the same steps on both sides, but for the brackets around the policy of a check and the check itself
  cases config.url
  all_goals
    refine bind_congr fun fromUrl => ?_
    cases config.protocol
    case tcp | tls => rfl
    case http | webSocket =>
      dsimp only
      rw [bind_assoc]
      rfl

end Target

def Blames {α : Type} (id : String) (x : Except ConfigError α) : Prop :=
  ∀ e, x = .error e → ∃ reason, e = .invalidTarget id reason

namespace Blames

variable {α β : Type} {id : String}

@[simp] theorem ok (a : α) : Blames id (.ok a) := nofun

@[simp] theorem error (reason : String) : Blames id (.error (.invalidTarget id reason) : Except ConfigError α) :=
  fun _ h => ⟨reason, (Except.error.inj h).symm⟩

@[simp] theorem refuse (reason : String) : Blames id (Target.refuse id reason : Except ConfigError α) := error reason

theorem bind {x : Except ConfigError α} {f : α → Except ConfigError β} (hx : Blames id x) (hf : ∀ a, Blames id (f a)) :
    Blames id (x >>= f) := by
  cases x with
  | error e =>
    intro _ h
    cases h
    exact hx e rfl
  | ok a => exact hf a

theorem map {x : Except ConfigError α} {f : α → β} (hx : Blames id x) : Blames id (f <$> x) := by
  cases x with
  | error e =>
    intro _ h
    cases h
    exact hx e rfl
  | ok a => nofun

end Blames

theorem TargetConfig.blames_validate (t : TargetConfig) : Blames t.id t.validate := by
  unfold validate
  dsimp only
  repeat' split
  all_goals simp

namespace Target

variable {files : FileReader} {config : TargetConfig} {target : Target} {id : String} {fromUrl : Option UrlTarget}

theorem blames_ofUrl (kind : ProtocolKind) (url : Url) : Blames id (ofUrl id kind url) := by
  unfold ofUrl
  repeat' split
  all_goals simp

theorem blames_tlsPolicy (block : Option TlsConfig) : Blames id (tlsPolicy files id block) := by
  cases block with
  | none => exact Blames.ok ({} : TlsPolicy)
  | some block =>
    rw [tlsPolicy_some]
    refine Blames.bind ?_ fun _ => Blames.bind ?_ fun _ => Blames.ok _
    · unfold caCertOf
      repeat' split
      all_goals simp
    · unfold pinOf
      repeat' split
      all_goals simp

theorem blames_optionalTls (used : Bool) (block : Option TlsConfig) : Blames id (optionalTls files id used block) := by
  unfold optionalTls
  split
  · exact (blames_tlsPolicy block).map
  · exact Blames.ok none

theorem blames_httpCheck (options : HttpConfig) (urlPath : Option String) (tls : Option TlsPolicy) :
    Blames id (httpCheck id options urlPath tls) := by
  unfold httpCheck
  dsimp only
  repeat' split
  all_goals simp

theorem blames_webSocketCheck (options : WebSocketConfig) (urlPath : Option String) (tls : Option TlsPolicy) :
    Blames id (webSocketCheck id options urlPath tls) := by
  unfold webSocketCheck
  dsimp only
  split <;> simp

theorem blames_ofConfig : Blames config.id (ofConfig files config) := by
  rw [ofConfig_eq]
  refine config.blames_validate.bind fun _ => Blames.bind ?_ fun fromUrl => Blames.bind ?_ fun _ => Blames.ok _
  · unfold fromUrl?
    split
    next url _ => exact (blames_ofUrl config.protocol url).map
    next => exact Blames.ok none
  · unfold protocolOf
    split
    next => exact Blames.ok _
    next => exact (blames_tlsPolicy config.tls).map
    next => exact (blames_optionalTls _ _).bind fun tls => (blames_httpCheck _ _ tls).map
    next => exact (blames_optionalTls _ _).bind fun tls => (blames_webSocketCheck _ _ tls).map

structure Made (files : FileReader) (config : TargetConfig) (fromUrl : Option UrlTarget) (target : Target) : Prop where
  valid : config.validate = .ok ()
  url : fromUrl? config = .ok fromUrl
  protocol : protocolOf files config fromUrl = .ok target.protocol
  address : target.address = addressOf config fromUrl
  id : target.id = config.id
  interval : target.interval = config.interval
  timeout : target.timeout = config.timeout

theorem exists_made (h : ofConfig files config = .ok target) : ∃ fromUrl, Made files config fromUrl target := by
  rw [ofConfig_eq] at h
  obtain ⟨_, hvalid, h⟩ := exists_of_bind_eq_ok h
  obtain ⟨fromUrl, hurl, h⟩ := exists_of_bind_eq_ok h
  obtain ⟨protocol, hprotocol, h⟩ := exists_of_bind_eq_ok h
  cases h
  exact ⟨fromUrl, hvalid, hurl, hprotocol, rfl, rfl, rfl, rfl⟩

theorem exists_of_ofUrl {kind : ProtocolKind} {url : Url} {u : UrlTarget} (h : ofUrl id kind url = .ok u) :
    ∃ host port tls, url.host? = some host ∧ url.port? = some port ∧ schemeTls? kind url.scheme = some tls ∧
      u = ⟨⟨host.text, port⟩, url.pathAndQuery, tls⟩ := by
  unfold ofUrl at h
  split at h
  next => cases h
  next host hhost =>
    split at h
    next => cases h
    next port hport =>
      split at h
      next => cases h
      next tls htls =>
        cases h
        exact ⟨host, port, tls, hhost, hport, htls, rfl⟩

theorem fromUrl?_of_url {url : Url} (hurl : config.url = some url) (h : fromUrl? config = .ok fromUrl) :
    ∃ host port tls, url.host? = some host ∧ url.port? = some port ∧
      schemeTls? config.protocol url.scheme = some tls ∧
      fromUrl = some ⟨⟨host.text, port⟩, url.pathAndQuery, tls⟩ := by
  simp only [fromUrl?, hurl] at h
  obtain ⟨u, hu, rfl⟩ := exists_of_map_eq_ok h
  obtain ⟨host, port, tls, hhost, hport, hscheme, rfl⟩ := exists_of_ofUrl hu
  exact ⟨host, port, tls, hhost, hport, hscheme, rfl⟩

theorem fromUrl?_of_none (hurl : config.url = none) (h : fromUrl? config = .ok fromUrl) : fromUrl = none := by
  simp only [fromUrl?, hurl] at h
  cases h
  rfl

theorem of_httpCheck {options : HttpConfig} {urlPath : Option String} {tls : Option TlsPolicy} {check : HttpCheck}
    (h : httpCheck id options urlPath tls = .ok check) :
    check.path = choosePath options.path urlPath ∧ check.hostHeader = options.hostHeader ∧ check.tls = tls ∧
      check.path.toList.head? = some '/' := by
  unfold httpCheck at h
  split at h
  next => cases h
  next =>
    dsimp only at h
    split at h
    next => cases h
    next =>
      split at h
      next => cases h
      next hslash =>
        cases h
        exact ⟨rfl, rfl, rfl, by simpa [startsWithSlash] using hslash⟩

theorem of_webSocketCheck {options : WebSocketConfig} {urlPath : Option String} {tls : Option TlsPolicy}
    {check : WebSocketCheck} (h : webSocketCheck id options urlPath tls = .ok check) :
    check.path = choosePath options.path urlPath ∧ check.hostHeader = options.hostHeader ∧ check.tls = tls ∧
      check.path.toList.head? = some '/' := by
  unfold webSocketCheck at h
  dsimp only at h
  split at h
  next => cases h
  next hslash =>
    cases h
    exact ⟨rfl, rfl, rfl, by simpa [startsWithSlash] using hslash⟩

theorem http_of_protocolOf {check : HttpCheck} (h : protocolOf files config fromUrl = .ok (.http check)) :
    config.protocol = .http ∧ ∃ tls,
      httpCheck config.id (httpOptions config) (fromUrl.map (·.pathAndQuery)) tls = .ok check := by
  unfold protocolOf at h
  split at h
  next => cases h
  next =>
    obtain ⟨policy, -, hpolicy⟩ := exists_of_map_eq_ok h
    cases hpolicy
  next hkind =>
    obtain ⟨tls, -, h⟩ := exists_of_bind_eq_ok h
    obtain ⟨check', hcheck, heq⟩ := exists_of_map_eq_ok h
    cases heq
    exact ⟨hkind, tls, hcheck⟩
  next =>
    obtain ⟨tls, -, h⟩ := exists_of_bind_eq_ok h
    obtain ⟨check', -, heq⟩ := exists_of_map_eq_ok h
    cases heq

/-- The schemes that a protocol takes are well-known ones, whose URLs have a host. -/
theorem special_of_schemeTls? {kind : ProtocolKind} {scheme : String} (h : (schemeTls? kind scheme).isSome) :
    Url.isSpecial scheme ∧ scheme ≠ "file" := by
  unfold schemeTls? at h
  split at h
  case h_1 | h_2 | h_3 | h_4 => decide
  case h_5 => cases h

theorem of_read? {kind : ProtocolKind} {text : String} {url : Url} (hread : Url.read? text = some url)
    (hscheme : (schemeTls? kind url.scheme).isSome) :
    (∃ path, url.path = Url.normalPath true false path) ∧ (∃ behind, url.query = (Url.tail true behind).1) ∧
      ∀ host, url.host? = some host → ∃ text, Host.read? text = some host := by
  obtain ⟨hspecial, hfile⟩ := special_of_schemeTls? hscheme
  obtain ⟨rest, hrest⟩ := Url.readSpecial?_of_read? hread hspecial hfile
  exact Url.of_readSpecial? hspecial hrest

end Target

end TargetHealth
