import TargetHealth.Proofs.Config.Variables
import TargetHealth.Proofs.Config.Words
import TargetHealth.Proofs.Text.Utf8

namespace TargetHealth

/-- Zero is refused in these fields. -/
def SettingsField.mustBePositive : SettingsField → Bool
  | maxConcurrency | failureThreshold | backoffFactor | backoffCap | maxIntervalSecs | latencyWindow => true
  | _ => false

namespace Settings

variable {s s' : Settings}

theorem ext_get (h : ∀ f, s.get f = s'.get f) : s = s' := by
  have hof (s : Settings) : ofValues s.get = s := rfl
  rw [← hof s, ← hof s', funext h]

theorem get_override (s : Settings) (o : SettingsOverrides) (f : SettingsField) :
    (s.override o).get f = (o f).getD (s.get f) := by
  rw [override, get_ofValues]

/-- What the checks of a configuration ask of its settings. -/
def vet (s : Settings) : Except ConfigError Unit := do
  s.validate
  if s.maxConcurrency = 0 then .error (.invalidSettings "max_concurrency must be at least 1") else .ok ()

theorem validate_eq_ok_iff :
    s.validate = .ok () ↔ s.failureThreshold ≠ 0 ∧ s.backoffFactor ≠ 0 ∧ s.backoffCap ≠ 0 ∧ s.latencyWindow ≠ 0 ∧
      s.maxIntervalSecs ≠ 0 := by
  have hif {p : Prop} [Decidable p] {e : ConfigError} {x : Except ConfigError Unit} :
      (if p then .error e else x) = .ok () ↔ ¬ p ∧ x = .ok () := by
    split <;> simp [*]
  simp only [validate, hif, not_or, and_assoc, and_true, ne_eq]

theorem vet_eq_ok_iff : s.vet = .ok () ↔ ∀ f : SettingsField, f.mustBePositive = true → s.get f ≠ 0 := by
  have hvet : s.vet = .ok () ↔ s.validate = .ok () ∧ s.maxConcurrency ≠ 0 := by
    constructor
    · intro h
      obtain ⟨_, hvalid, h⟩ := exists_of_bind_eq_ok h
      split at h
      · cases h
      · rename_i hpermits
        exact ⟨hvalid, hpermits⟩
    · rintro ⟨hvalid, hpermits⟩
      rw [vet, hvalid]
      exact if_neg hpermits
  rw [hvet, validate_eq_ok_iff]
  constructor
  · rintro ⟨⟨hthreshold, hfactor, hcap, hwindow, hinterval⟩, hpermits⟩ f hf
    cases f <;> first | assumption | cases hf
  · intro h
    exact ⟨⟨h .failureThreshold rfl, h .backoffFactor rfl, h .backoffCap rfl, h .latencyWindow rfl,
      h .maxIntervalSecs rfl⟩, h .maxConcurrency rfl⟩

end Settings

namespace Config

variable {c c₀ : Config} {o : SettingsOverrides}

/-- A configuration with the overridden settings replaced, and all else kept. -/
structure Overridden (o : SettingsOverrides) (c₀ c : Config) : Prop where
  replaced : ∀ f n, o f = some n → c.settings.get f = n
  kept : ∀ f, o f = none → c.settings.get f = c₀.settings.get f
  metrics : c.metrics = c₀.metrics
  reportIntervalSecs : c.reportIntervalSecs = c₀.reportIntervalSecs
  targets : c.targets = c₀.targets

theorem overridden_override (o : SettingsOverrides) (c₀ : Config) : Overridden o c₀ (c₀.override o) where
  replaced f n h := by rw [override, Settings.get_override, h, Option.getD_some]
  kept f h := by rw [override, Settings.get_override, h, Option.getD_none]
  metrics := rfl
  reportIntervalSecs := rfl
  targets := rfl

theorem overridden_iff : Overridden o c₀ c ↔ c = c₀.override o := by
  constructor
  · intro h
    have hsettings : c.settings = c₀.settings.override o := Settings.ext_get fun f => by
      rw [Settings.get_override]
      cases hf : o f with
      | none => exact h.kept f hf
      | some n => exact h.replaced f n hf
    obtain ⟨settings, metrics, reportIntervalSecs, targets⟩ := c
    cases h.metrics
    cases h.reportIntervalSecs
    cases h.targets
    cases hsettings
    rfl
  · rintro rfl
    exact overridden_override o c₀

def vetRest (c : Config) : Except ConfigError Unit :=
  if c.targets.isEmpty then .error .noTargets
  else do
    validateTargets [] c.targets
    if c.metrics.enabled ∧ c.metrics.path.toList.head? ≠ some '/' then
      .error (.invalidSettings ("metrics path must start with '/': " ++ c.metrics.path))
    else .ok ()

theorem validate_eq (c : Config) : c.validate = c.settings.vet >>= fun _ => c.vetRest := by
  unfold validate Settings.vet
  cases c.settings.validate with
  | error e => rfl
  | ok _ =>
    change (if _ then _ else _) = (if _ then _ else _) >>= _
    split <;> rfl

theorem validate_eq_ok_iff : c.validate = .ok () ↔ c.settings.vet = .ok () ∧ c.vetRest = .ok () := by
  rw [validate_eq]
  constructor
  · intro h
    obtain ⟨_, hsettings, hrest⟩ := exists_of_bind_eq_ok h
    exact ⟨hsettings, hrest⟩
  · rintro ⟨hsettings, hrest⟩
    rw [hsettings]
    exact hrest

theorem validate_iff_of_override (hc : (c₀.override o).validate = .ok ()) :
    c₀.validate = .ok () ↔ ∀ f : SettingsField, f.mustBePositive = true → c₀.settings.get f ≠ 0 := by
  have hrest : c₀.vetRest = .ok () := (validate_eq_ok_iff.mp hc).2
  rw [validate_eq_ok_iff, Settings.vet_eq_ok_iff]
  exact ⟨fun h => h.1, fun h => ⟨h, hrest⟩⟩

theorem check_eq_ok_iff {c' : Config} : c.check = .ok c' ↔ c.validate = .ok () ∧ c' = c := by
  unfold check
  split
  · rename_i hvalid
    exact ⟨fun h => ⟨hvalid, (Except.ok.inj h).symm⟩, fun h => congrArg Except.ok h.2.symm⟩
  · rename_i e herror
    exact iff_of_false (fun h => nomatch h) fun h => nomatch herror.symm.trans h.1

theorem parse_eq_ok_iff {format : ConfigFormat} {text : String} :
    parse format text = .ok c ↔ ofText? format text = some c ∧ c.validate = .ok () := by
  rw [parse]
  cases ofText? format text with
  | none => exact iff_of_false (fun h => nomatch h) fun h => nomatch h.1
  | some c' =>
    change c'.check = .ok c ↔ _
    rw [check_eq_ok_iff, Option.some.injEq]
    constructor
    · rintro ⟨hvalid, rfl⟩
      exact ⟨rfl, hvalid⟩
    · rintro ⟨rfl, hvalid⟩
      exact ⟨hvalid, rfl⟩

theorem check_override_eq_ok_iff : (c₀.override o).check = .ok c ↔ Overridden o c₀ c ∧ c.validate = .ok () := by
  rw [check_eq_ok_iff, overridden_iff]
  constructor
  · rintro ⟨hvalid, rfl⟩
    exact ⟨rfl, hvalid⟩
  · rintro ⟨rfl, hvalid⟩
    exact ⟨hvalid, rfl⟩

theorem check_eq_error_iff {e : ConfigError} : c.check = .error (.invalid e) ↔ c.validate = .error e := by
  unfold check
  split
  · rename_i hvalid
    exact iff_of_false (fun h => nomatch h) fun h => nomatch hvalid.symm.trans h
  · rename_i e' herror
    rw [herror, Except.error.injEq, Except.error.injEq, LoadError.invalid.injEq]

/-- The checks of a file: of the configuration as it stands, and then of that under overrides. -/
def checkTwice (c₀ : Config) (o : SettingsOverrides) : Except LoadError Config :=
  c₀.check >>= fun c => (c.override o).check

theorem checkTwice_of_valid (h : c₀.validate = .ok ()) : c₀.checkTwice o = (c₀.override o).check := by
  rw [checkTwice, check_eq_ok_iff.mpr ⟨h, rfl⟩]
  rfl

theorem checkTwice_of_error {e : ConfigError} (h : c₀.validate = .error e) : c₀.checkTwice o = .error (.invalid e) := by
  rw [checkTwice, check_eq_error_iff.mpr h]
  rfl

theorem checkTwice_eq_ok_iff :
    c₀.checkTwice o = .ok c ↔ c₀.validate = .ok () ∧ Overridden o c₀ c ∧ c.validate = .ok () := by
  cases hvalid : c₀.validate with
  | ok _ =>
    rw [checkTwice_of_valid hvalid, check_override_eq_ok_iff, eq_self, true_and]
  | error e =>
    rw [checkTwice_of_error hvalid]
    exact iff_of_false (fun h => nomatch h) fun h => nomatch h.1

theorem checkTwice_eq_check_iff : c₀.checkTwice o = (c₀.override o).check ↔
    ∀ e, c₀.validate = .error e → (c₀.override o).validate = .error e := by
  cases hvalid : c₀.validate with
  | ok _ => exact iff_of_true (checkTwice_of_valid hvalid) fun _ h => nomatch h
  | error e =>
    rw [checkTwice_of_error hvalid]
    constructor
    · intro h e' he'
      rw [← Except.error.inj he']
      exact check_eq_error_iff.mp h.symm
    · intro h
      exact (check_eq_error_iff.mpr (h e rfl)).symm

/-- The second check alone accepts the same exactly if no override repairs a field. -/
theorem checkTwice_accepts_iff : (∀ c, c₀.checkTwice o = .ok c ↔ (c₀.override o).check = .ok c) ↔
    ((c₀.override o).validate = .ok () → ∀ f : SettingsField, f.mustBePositive = true → c₀.settings.get f ≠ 0) := by
  constructor
  · intro h hc
    have htwice := (h (c₀.override o)).mpr (check_eq_ok_iff.mpr ⟨hc, rfl⟩)
    exact (validate_iff_of_override hc).mp (checkTwice_eq_ok_iff.mp htwice).1
  · intro h c
    rw [checkTwice_eq_ok_iff, check_override_eq_ok_iff]
    constructor
    · exact fun hc => hc.2
    · rintro ⟨hover, hvalid⟩
      have hc : (c₀.override o).validate = .ok () := overridden_iff.mp hover ▸ hvalid
      exact ⟨(validate_iff_of_override hc).mpr (h hc), hover, hvalid⟩

/-- A text under overrides, checked only when they are in place. -/
def ofTextUnder (format : ConfigFormat) (text : String) (o : SettingsOverrides) : Except LoadError Config :=
  match ofText? format text with
  | some c₀ => (c₀.override o).check
  | none => .error (.unparsable format)

theorem load_eq {files : FileReader} {path text : String} {bytes : Bytes} (environment : List (String × String))
    (hbytes : files path = .ok bytes) (htext : Utf8.toString? bytes = some text) :
    load files environment path = parse (.ofPath path) text >>= fun c₀ =>
      match Environment.overrides? environment with
      | none => .error .badEnvironment
      | some o => (c₀.override o).check := by
  rw [load, hbytes]
  dsimp only
  rw [htext]
  rfl

/-- What is loaded under overrides is the text's configuration with them, if the checks find no fault with either. It is
what a single check under the overrides gives exactly if every fault of the text alone is still found then; and the two
accept the same exactly if no override repairs a field that must be positive and is zero in the text. -/
theorem load_of_overrides (files : FileReader) (environment : List (String × String)) (path text : String) (bytes : Bytes)
    (o : SettingsOverrides) (hbytes : files path = .ok bytes) (htext : Utf8.toString? bytes = some text)
    (ho : Environment.overrides? environment = some o) :
    (∀ c, load files environment path = .ok c ↔ ∃ c₀, ofText? (.ofPath path) text = some c₀ ∧ c₀.validate = .ok () ∧
      Overridden o c₀ c ∧ c.validate = .ok ()) ∧
    (load files environment path = ofTextUnder (.ofPath path) text o ↔
      ∀ c₀, ofText? (.ofPath path) text = some c₀ → ∀ e, c₀.validate = .error e →
        (c₀.override o).validate = .error e) ∧
    ((∀ c, load files environment path = .ok c ↔ ofTextUnder (.ofPath path) text o = .ok c) ↔
      ∀ c₀, ofText? (.ofPath path) text = some c₀ → (c₀.override o).validate = .ok () →
        ∀ f : SettingsField, f.mustBePositive = true → c₀.settings.get f ≠ 0) := by
  rw [load_eq environment hbytes htext, ho, parse, ofTextUnder]
  cases ofText? (.ofPath path) text with
  | none =>
    refine ⟨fun c => iff_of_false (fun h => nomatch h) ?_, iff_of_true rfl ?_, iff_of_true (fun _ => Iff.rfl) ?_⟩
    · rintro ⟨_, h, -⟩
      cases h
    · intro _ h
      cases h
    · intro _ h
      cases h
  | some c₀ =>
    simp only [Option.some.injEq, exists_eq_left', forall_eq']
    exact ⟨fun c => checkTwice_eq_ok_iff, checkTwice_eq_check_iff, checkTwice_accepts_iff⟩

def thresholdText (threshold : String) : String :=
  "\x7b\"settings\":\x7b\"failure_threshold\":" ++ threshold ++
    "\x7d,\"targets\":[\x7b\"id\":\"a\",\"host\":\"h\",\"port\":1,\"protocol\":\"tcp\"\x7d]\x7d"

def thresholdConfig (threshold : Nat) : Config where
  settings := { failureThreshold := threshold }
  targets := [{ id := "a", host := some "h", port := some 1, protocol := .tcp }]

def thresholdFile (threshold : String) : FileReader := fun _ => .ok (Utf8.encode (thresholdText threshold).toList)

theorem toString?_encode (s : String) : Utf8.toString? (Utf8.encode s.toList) = some s := by
  rw [Utf8.toString?, Utf8.decode?_encode, Option.map_some, String.ofList_toList]

theorem overrides?_threshold :
    Environment.overrides? [(SettingsField.failureThreshold.variableName, "2")] = some (.only .failureThreshold 2) := by
  have hvalue : Environment.fieldValue? .failureThreshold (Environment.readValue "2") = some 2 := by decide +kernel
  rw [Environment.overrides?_single, hvalue, Option.map_some]

/-- A threshold of five, and two in its place. -/
theorem load_of_overrides_threshold :
    load (thresholdFile "5") [(SettingsField.failureThreshold.variableName, "2")] "c.json" = .ok (thresholdConfig 2) := by
  have h := load_of_overrides (thresholdFile "5") _ "c.json" (thresholdText "5") _ (.only .failureThreshold 2) rfl
    (toString?_encode _) overrides?_threshold
  refine (h.1 _).mpr ⟨thresholdConfig 5, by decide +kernel, by decide +kernel, ?_, by decide +kernel⟩
  exact overridden_iff.mpr (by decide +kernel)

/-- A file whose threshold is zero, under an override of the threshold: what it stands for then would be accepted, and
the file is refused for the threshold that is written in it. -/
theorem load_of_repaired_threshold :
    Environment.overrides? [(SettingsField.failureThreshold.variableName, "2")] = some (.only .failureThreshold 2) ∧
      ofTextUnder (.ofPath "c.json") (thresholdText "0") (.only .failureThreshold 2) = .ok (thresholdConfig 2) ∧
      load (thresholdFile "0") [(SettingsField.failureThreshold.variableName, "2")] "c.json" =
        .error (.invalid (.invalidSettings "failure_threshold must be at least 1")) := by
  refine ⟨overrides?_threshold, by decide +kernel, ?_⟩
  have hparse : parse (.ofPath "c.json") (thresholdText "0") =
      .error (.invalid (.invalidSettings "failure_threshold must be at least 1")) := by decide +kernel
  rw [load_eq _ rfl (toString?_encode _), hparse]
  rfl

theorem validate_only_iff {f : SettingsField} {n : Nat} (h : c₀.validate = .ok ()) :
    (c₀.override (.only f n)).validate = .ok () ↔ (f.mustBePositive = true → n ≠ 0) := by
  obtain ⟨hsettings, hrest⟩ := validate_eq_ok_iff.mp h
  rw [Settings.vet_eq_ok_iff] at hsettings
  have hget (g : SettingsField) : (c₀.override (.only f n)).settings.get g = if g = f then n else c₀.settings.get g := by
    rw [override, Settings.get_override, SettingsOverrides.only]
    split <;> rfl
  rw [validate_eq_ok_iff, Settings.vet_eq_ok_iff]
  constructor
  · rintro ⟨hpositive, -⟩ hf
    have hn := hpositive f hf
    rwa [hget, if_pos rfl] at hn
  · intro hn
    refine ⟨fun g hg => ?_, hrest⟩
    rw [hget]
    split
    · rename_i hgf
      exact hn (hgf ▸ hg)
    · exact hsettings g hg

theorem mustBePositive_of_too_large {f : SettingsField} {n : Nat} (h : Nat.pow 2 f.bits ≤ n) (hn : n < Nat.pow 2 63) :
    f.mustBePositive = true := by
  have hbits : f.bits < 63 := (Nat.pow_lt_pow_iff_right (by decide)).mp (Nat.lt_of_le_of_lt h hn)
  cases f <;> first | rfl | exact absurd hbits (by decide)

/-- What is kept of a number that is not refused for it is the number itself, exactly if it fits or nothing is kept of a
larger one. -/
theorem face_value_iff {f : SettingsField} {n : Nat} (hn : n < Nat.pow 2 63) :
    ((f.mustBePositive = true → n % Nat.pow 2 f.bits ≠ 0) → n % Nat.pow 2 f.bits = n) ↔
      n < Nat.pow 2 f.bits ∨ Nat.pow 2 f.bits ∣ n := by
  constructor
  · intro h
    by_cases hzero : n % Nat.pow 2 f.bits = 0
    · exact .inr (Nat.dvd_of_mod_eq_zero hzero)
    · rw [← h fun _ => hzero]
      exact .inl (Nat.mod_lt n (Nat.two_pow_pos _))
  · intro h hkept
    by_cases hfits : n < Nat.pow 2 f.bits
    · exact Nat.mod_eq_of_lt hfits
    · have hpositive := mustBePositive_of_too_large (Nat.not_lt.mp hfits) hn
      exact absurd (Nat.mod_eq_zero_of_dvd (h.resolve_left hfits)) (hkept hpositive)

theorem only_self (f : SettingsField) (n : Nat) : SettingsOverrides.only f n f = some n := if_pos rfl

theorem forall_overridden_only_iff {f : SettingsField} {n m : Nat} {p : Prop} :
    (∀ c, p ∧ Overridden (.only f n) c₀ c → (c.settings.get f : Int) = m) ↔ (p → n = m) := by
  constructor
  · intro h hp
    have hover := overridden_override (.only f n) c₀
    have hm := h _ ⟨hp, hover⟩
    rw [hover.replaced f n (only_self f n)] at hm
    exact Int.ofNat.inj hm
  · rintro h c ⟨hp, hover⟩
    rw [hover.replaced f n (only_self f n), h hp]

/-- An accepted file, and one variable besides that holds a decimal text of an integer. Below zero the environment is
refused. Otherwise the field gets the low bits of the number, unless they are zero where zero is refused. So the field
is the number itself, or nothing is loaded, exactly if the number fits or the low bits of a larger one are zero. -/
theorem load_of_integer (files : FileReader) (path text : String) (bytes : Bytes) (c₀ : Config)
    (before after : List (String × String)) (f : SettingsField) (value : String) (n : Int)
    (hbytes : files path = .ok bytes) (htext : Utf8.toString? bytes = some text)
    (hc₀ : parse (.ofPath path) text = .ok c₀)
    (hrest : Environment.overrides? (before ++ after) = some fun _ => none)
    (hvalue : Decimal.IsText value.toList n) (hlow : -(Nat.pow 2 63 : Int) ≤ n) (hhigh : n < Nat.pow 2 63) :
    let environment := before ++ (f.variableName, value) :: after
    let low := n.toNat % Nat.pow 2 f.bits
    (n < 0 → load files environment path = .error .badEnvironment) ∧
    (0 ≤ n → ∀ c, load files environment path = .ok c ↔
      (f.mustBePositive = true → low ≠ 0) ∧ Overridden (.only f low) c₀ c) ∧
    ((∀ c, load files environment path = .ok c → (c.settings.get f : Int) = n) ↔
      n < Nat.pow 2 f.bits ∨ (Nat.pow 2 f.bits : Int) ∣ n) := by
  intro environment low
  have hvalid : c₀.validate = .ok () := (parse_eq_ok_iff.mp hc₀).2
  have hoverrides : Environment.overrides? environment = if 0 ≤ n then some (.only f low) else none := by
    rw [Environment.overrides?_insert hrest, Environment.readValue_of_isText hvalue hlow hhigh,
      Environment.fieldValue?_integer]
    split <;> rfl
  have hload : load files environment path =
      if 0 ≤ n then (c₀.override (.only f low)).check else .error .badEnvironment := by
    rw [load_eq environment hbytes htext, hc₀, hoverrides]
    by_cases hn : 0 ≤ n
    · rw [if_pos hn, if_pos hn]
      rfl
    · rw [if_neg hn, if_neg hn]
      rfl
  have haccept (hn : 0 ≤ n) (c : Config) : load files environment path = .ok c ↔
      (f.mustBePositive = true → low ≠ 0) ∧ Overridden (.only f low) c₀ c := by
    rw [hload, if_pos hn, check_eq_ok_iff, validate_only_iff hvalid, overridden_iff]
  refine ⟨fun hn => by rw [hload, if_neg (Int.not_le.mpr hn)], haccept, ?_⟩
  by_cases hn : 0 ≤ n
  · obtain ⟨m, rfl⟩ := Int.eq_ofNat_of_zero_le hn
    rw [forall_congr' fun c => imp_congr_left (haccept hn c), forall_overridden_only_iff, Int.ofNat_lt,
      Int.natCast_dvd_natCast]
    exact face_value_iff (Int.ofNat_lt.mp hhigh)
  · have hnone : load files environment path = .error .badEnvironment := by rw [hload, if_neg hn]
    refine iff_of_true (fun c hc => nomatch hnone.symm.trans hc) (.inl ?_)
    exact Int.lt_of_lt_of_le (Int.not_le.mp hn) (Int.natCast_nonneg _)

/-- A threshold of five, and seven in its place with a sign in front. -/
theorem load_of_integer_threshold :
    load (thresholdFile "5") [(SettingsField.failureThreshold.variableName, "+7")] "c.json" = .ok (thresholdConfig 7) := by
  have h := load_of_integer (thresholdFile "5") "c.json" (thresholdText "5") _ (thresholdConfig 5) [] []
    .failureThreshold "+7" 7 rfl (toString?_encode _) (by decide +kernel) rfl
    (Decimal.int?_eq_some_iff.mp (by decide)) (by decide) (by decide)
  refine (h.2.1 (by decide) _).mpr ⟨by decide, ?_⟩
  exact overridden_iff.mpr (by decide +kernel)

/-- A threshold of one more than 32 bits can hold is cut down to one in the environment, and refused in a file. -/
theorem load_of_long_threshold :
    Decimal.IsText "4294967297".toList 4294967297 ∧
      parse (.ofPath "c.json") (thresholdText "5") = .ok (thresholdConfig 5) ∧
      load (thresholdFile "5") [(SettingsField.failureThreshold.variableName, "4294967297")] "c.json" =
        .ok (thresholdConfig 1) ∧
      (thresholdConfig 1).settings.get .failureThreshold ≠ 4294967297 ∧
      parse (.ofPath "c.json") (thresholdText "4294967297") = .error (.unparsable .json) := by
  have hparse : parse (.ofPath "c.json") (thresholdText "5") = .ok (thresholdConfig 5) := by decide +kernel
  have hvalue : Environment.fieldValue? .failureThreshold (Environment.readValue "4294967297") = some 1 := by
    decide +kernel
  refine ⟨Decimal.isText_toString 4294967297, hparse, ?_, by decide, by decide +kernel⟩
  rw [load_eq _ rfl (toString?_encode _), hparse, Environment.overrides?_single, hvalue]
  decide +kernel

end Config

end TargetHealth
