import Mathlib.Data.List.Dedup
import Mathlib.Data.List.Perm.Basic
import TargetHealth.Tls.Connectors

namespace TargetHealth.Tls

variable {γ κ : Type} {library : Library γ κ}

/-- Server name and pin, and whether it is the pin or not that makes chains acceptable, have no part in a connector. -/
theorem build_eq_of_key_eq {p q : TlsPolicy} (h : TrustKey.ofPolicy p = TrustKey.ofPolicy q) :
    library.build p = library.build q := by
  obtain ⟨hpem, haccepts⟩ := TrustKey.mk.inj h
  have hbuilder : library.builder p = library.builder q := by
    rw [Library.builder, Library.builder, hpem, haccepts]
  rw [Library.build, Library.build, hbuilder]

theorem exists_builder_of_build {p : TlsPolicy} {connector : κ} (h : library.build p = .ok connector) :
    ∃ builder, library.connector builder = .ok connector ∧
      builder.trusted.map .ok = p.caCertPem.map library.certificate ∧
      builder.acceptsInvalidChains = p.acceptsInvalidChain ∧ builder.acceptsInvalidNames = p.acceptsInvalidChain := by
  unfold Library.build at h
  split at h
  next => cases h
  next builder hbuilder =>
    have hmade : library.connector builder = .ok connector := by
      split at h
      next hmade =>
        cases h
        exact hmade
      next => cases h
    refine ⟨builder, hmade, ?_⟩
    unfold Library.builder at hbuilder
    split at hbuilder
    next hpem =>
      cases hbuilder
      exact ⟨by rw [hpem]; rfl, rfl, rfl⟩
    next pem hpem =>
      split at hbuilder
      next certificate hread =>
        cases hbuilder
        exact ⟨by rw [hpem, Option.map_some, Option.map_some, hread], rfl, rfl⟩
      next => cases hbuilder

def builds (library : Library γ κ) (p : TlsPolicy) : Bool := (library.build p).isOk

namespace Cache

/-- The answers to policies that are asked for one after the other, and what is kept in the end. -/
def getAll (library : Library γ κ) : Cache κ → List TlsPolicy → List (Except ProbeError κ) × Cache κ
  | c, [] => ([], c)
  | c, p :: policies =>
    let (answer, c) := c.getFrom library p
    let (answers, c) := c.getAll library policies
    (answer :: answers, c)

/-- What is kept is what would be built, and there is one connector for each key of a policy asked for that has one. -/
structure Faithful (library : Library γ κ) (asked : List TlsPolicy) (c : Cache κ) : Prop where
  built : ∀ p connector, (TrustKey.ofPolicy p, connector) ∈ c.made → library.build p = .ok connector
  distinct : (c.made.map Prod.fst).Nodup
  keys : ∀ key, key ∈ c.made.map Prod.fst ↔ ∃ p ∈ asked, TrustKey.ofPolicy p = key ∧ builds library p

theorem faithful_empty : Faithful library [] {} where
  built := nofun
  distinct := List.nodup_nil
  keys key := iff_of_false List.not_mem_nil (by rintro ⟨p, hp, -⟩; cases hp)

namespace Faithful

variable {asked : List TlsPolicy} {c : Cache κ} (h : c.Faithful library asked) (p : TlsPolicy)

include h

theorem asks_again (hkept : TrustKey.ofPolicy p ∈ c.made.map Prod.fst) : c.Faithful library (asked ++ [p]) := by
  refine ⟨h.built, h.distinct, fun key => ?_⟩
  rw [h.keys key]
  refine ⟨fun ⟨q, hq, hkey⟩ => ⟨q, List.mem_append_left _ hq, hkey⟩, fun ⟨q, hq, hkey, hbuilds⟩ => ?_⟩
  rcases List.mem_append.mp hq with hq | hq
  · exact ⟨q, hq, hkey, hbuilds⟩
  · rw [List.mem_singleton.mp hq] at hkey
    exact (h.keys key).mp (hkey ▸ hkept)

theorem fails (hbuild : builds library p = false) : c.Faithful library (asked ++ [p]) := by
  refine ⟨h.built, h.distinct, fun key => ?_⟩
  rw [h.keys key]
  refine ⟨fun ⟨q, hq, hkey⟩ => ⟨q, List.mem_append_left _ hq, hkey⟩, fun ⟨q, hq, hkey, hbuilds⟩ => ?_⟩
  rcases List.mem_append.mp hq with hq | hq
  · exact ⟨q, hq, hkey, hbuilds⟩
  · rw [List.mem_singleton.mp hq, hbuild] at hbuilds
    cases hbuilds

theorem keeps {connector : κ} (hnew : TrustKey.ofPolicy p ∉ c.made.map Prod.fst)
    (hbuild : library.build p = .ok connector) :
    Faithful library (asked ++ [p]) ⟨(TrustKey.ofPolicy p, connector) :: c.made⟩ where
  built q made hmade := by
    rcases List.mem_cons.mp hmade with heq | hmade
    · obtain ⟨hkey, rfl⟩ := Prod.mk.inj heq
      rw [build_eq_of_key_eq hkey, hbuild]
    · exact h.built q made hmade
  distinct := List.nodup_cons.mpr ⟨hnew, h.distinct⟩
  keys key := by
    rw [List.map_cons, List.mem_cons, h.keys key]
    constructor
    · rintro (rfl | ⟨q, hq, hkey⟩)
      · exact ⟨p, List.mem_append_right _ (List.mem_singleton.mpr rfl), rfl, by rw [builds, hbuild]; rfl⟩
      · exact ⟨q, List.mem_append_left _ hq, hkey⟩
    · rintro ⟨q, hq, hkey, hbuilds⟩
      rcases List.mem_append.mp hq with hq | hq
      · exact .inr ⟨q, hq, hkey, hbuilds⟩
      · rw [List.mem_singleton.mp hq] at hkey
        exact .inl hkey.symm

theorem getFrom : (c.getFrom library p).1 = library.build p ∧ (c.getFrom library p).2.Faithful library (asked ++ [p]) := by
  unfold Cache.getFrom
  dsimp only
  split
  next connector hkept =>
    obtain ⟨before, after, hmade, -⟩ := List.lookup_eq_some_iff.mp hkept
    have hmem : (TrustKey.ofPolicy p, connector) ∈ c.made := by
      rw [hmade]
      exact List.mem_append_right _ List.mem_cons_self
    exact ⟨(h.built p connector hmem).symm, h.asks_again p (List.mem_map_of_mem hmem)⟩
  next hmissing =>
    have hnew : TrustKey.ofPolicy p ∉ c.made.map Prod.fst := fun hmem => by
      obtain ⟨entry, hentry, hkey⟩ := List.mem_map.mp hmem
      have hother := List.lookup_eq_none_iff.mp hmissing entry hentry
      rw [hkey] at hother
      simp at hother
    split
    next connector hbuild => exact ⟨hbuild.symm, h.keeps p hnew hbuild⟩
    next e hbuild => exact ⟨hbuild.symm, h.fails p (by rw [builds, hbuild]; rfl)⟩

theorem getAll (policies : List TlsPolicy) :
    (c.getAll library policies).1 = policies.map library.build ∧
      (c.getAll library policies).2.Faithful library (asked ++ policies) := by
  induction policies generalizing c asked with
  | nil => exact ⟨rfl, by rw [List.append_nil]; exact h⟩
  | cons p policies ih =>
    obtain ⟨hanswer, hkept⟩ := h.getFrom p
    obtain ⟨hanswers, hend⟩ := ih hkept
    refine ⟨congrArg₂ List.cons hanswer hanswers, ?_⟩
    rw [List.append_assoc] at hend
    exact hend

omit p in
theorem size_eq : c.size = ((asked.filter (builds library)).map TrustKey.ofPolicy).dedup.length := by
  have hperm : (c.made.map Prod.fst).Perm ((asked.filter (builds library)).map TrustKey.ofPolicy).dedup := by
    refine (List.perm_ext_iff_of_nodup h.distinct (List.nodup_dedup _)).mpr fun key => ?_
    rw [h.keys key, List.mem_dedup, List.mem_map]
    simp only [List.mem_filter, and_assoc, and_comm]
  rw [size, ← hperm.length_eq, List.length_map]

end Faithful

end Cache

/-- Whatever is asked for in whatever order, each answer is that of a build of its own: with the certificate of its own
policy, and accepting chains and names that are not valid if that policy does and only then. As many connectors are kept as
there are keys with which one could be built. -/
theorem answers_as_built (library : Library γ κ) (policies : List TlsPolicy) :
    (Cache.getAll library {} policies).1 = policies.map library.build ∧
    (∀ (i : Nat) (p : TlsPolicy) (connector : κ), policies[i]? = some p →
      (Cache.getAll library {} policies).1[i]? = some (.ok connector) →
      ∃ builder, library.connector builder = .ok connector ∧
        builder.trusted.map .ok = p.caCertPem.map library.certificate ∧
        builder.acceptsInvalidChains = (p.skipVerify || p.pin.isSome) ∧
        builder.acceptsInvalidNames = (p.skipVerify || p.pin.isSome)) ∧
    (Cache.getAll library {} policies).2.size =
      ((policies.filter (builds library)).map TrustKey.ofPolicy).dedup.length := by
  have hempty : Cache.Faithful library [] {} := Cache.faithful_empty
  obtain ⟨hanswers, hkept⟩ := hempty.getAll policies
  refine ⟨hanswers, fun i p connector hp hanswer => ?_, hkept.size_eq⟩
  rw [hanswers, List.getElem?_map, hp] at hanswer
  exact exists_builder_of_build (Option.some.inj hanswer)

def barest : Bytes := Utf8.ofString
  ("-----BEGIN CERTIFICATE-----\n" ++
    "MEMwOAIBATAEBgIqAzAAMB4XDTI2MDEwMTAwMDAwMFoXDTM2MDEwMTAwMDAwMFowADAJMAQGAioDAwEAMAQGAioDAwEA\n" ++
    "-----END CERTIFICATE-----\n")

def mixed : List TlsPolicy :=
  let pin : Digest := ⟨List.replicate 32 0xab, by decide⟩
  [{ caCertPem := some barest, pin := some pin }, {}, { skipVerify := true }, { pin := some pin },
    { serverName := some "a" }, { caCertPem := some [0x62, 0x61, 0x64] }, { caCertPem := some barest },
    { caCertPem := some [0x62, 0x61, 0x64] }]

/-- A pin and a name that are asked for share connectors with policies without them, a file that holds no certificate is
refused each time, and the same certificate is trusted in one connector that verifies and in one that does not. -/
theorem answers_as_built_mixed :
    (Cache.getAll Library.standard {} mixed).1.map (·.isOk) = [true, true, true, true, true, false, true, false] ∧
    (Cache.getAll Library.standard {} mixed).2.size = 4 ∧
    ∃ connector, mixed[6]? = some { caCertPem := some barest } ∧
      (Cache.getAll Library.standard {} mixed).1[6]? = some (.ok connector) ∧
      connector.trusted.isSome ∧ connector.acceptsInvalidChains = false := by
  obtain ⟨hanswers, hsettings, hsize⟩ := answers_as_built Library.standard mixed
  have hoks : (mixed.map Library.standard.build).map (·.isOk) =
      [true, true, true, true, true, false, true, false] := by decide +kernel
  have hkeys : ((mixed.filter (builds Library.standard)).map TrustKey.ofPolicy).dedup.length = 4 := by
    decide +kernel
  have hanswer : (Cache.getAll Library.standard {} mixed).1[6]? = some (Library.standard.build { caCertPem := some barest }) := by
    rw [hanswers, List.getElem?_map]
    rfl
  rw [← hanswers] at hoks
  have hsixth := congrArg (fun oks => oks[6]?) hoks
  rw [List.getElem?_map, hanswer, Option.map_some] at hsixth
  cases hbuild : Library.standard.build { caCertPem := some barest } with
  | error e =>
    rw [hbuild] at hsixth
    cases Option.some.inj hsixth
  | ok connector =>
    rw [hbuild] at hanswer
    obtain ⟨builder, hmade, htrusted, hchains, -⟩ := hsettings 6 _ connector rfl hanswer
    cases hmade
    have hsome := congrArg Option.isSome htrusted
    rw [Option.isSome_map] at hsome
    exact ⟨hoks, hsize.trans hkeys, connector, rfl, hanswer, hsome, hchains⟩

end TargetHealth.Tls
