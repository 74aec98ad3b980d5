import TargetHealth.Config.Environment
import TargetHealth.Proofs.Decimal.Reading

namespace TargetHealth

/-- The name of a field's variable: the path in capital letters. -/
def SettingsField.variableName (f : SettingsField) : String :=
  String.ofList ("NETMON__SETTINGS__".toList ++ f.name.toList.map Char.toUpper)

def SettingsOverrides.only (f : SettingsField) (n : Nat) : SettingsOverrides := fun g => if g = f then some n else none

namespace Environment

variable {environment before after : List (String × String)} {o : SettingsOverrides}

theorem path?_variableName (f : SettingsField) : path? f.variableName = some ["settings", f.name] := by
  cases f <;> decide +kernel

theorem name_injective {f g : SettingsField} (h : f.name = g.name) : f = g := by
  revert h
  cases f <;> cases g <;> decide

theorem lowerAll_cons {c : Char} (h : c.toNat < 'A'.toNat) (rest : List Char) :
    Text.lowerAll (c :: rest) = c :: Text.lowerAll rest := by
  have hdotted : c ≠ '\u0130' := by
    rintro rfl
    exact absurd h (by decide)
  have hascii : c.toNat < 0x80 := Nat.lt_trans h (by decide)
  have hsmall : ¬ (c.val ≥ 'A'.val ∧ c.val ≤ 'Z'.val) := fun hcapital => absurd hcapital.1 (Nat.not_le.mpr h)
  have hsame : c.toLower = c := dif_neg hsmall
  rw [Text.lowerAll, List.flatMap_cons, if_neg hdotted, Text.lowerChar, if_pos hascii, hsame]
  rfl

theorem exists_first_of_isText {cs : List Char} {n : Int} (h : Decimal.IsText cs n) :
    ∃ c rest, cs = c :: rest ∧ c.toNat < 'A'.toNat := by
  cases h with
  | unsigned hdigits =>
    obtain ⟨d, rest, rfl, hd⟩ := Decimal.exists_digit_of_allDigits hdigits
    refine ⟨d, rest, rfl, ?_⟩
    rw [Char.isDigit, Bool.and_eq_true, decide_eq_true_eq, decide_eq_true_eq] at hd
    exact Nat.lt_of_le_of_lt hd.2 (by decide)
  | plus => exact ⟨'+', _, rfl, by decide⟩
  | minus => exact ⟨'-', _, rfl, by decide⟩

theorem lower_ne_of_isText {value : String} {n : Int} (h : Decimal.IsText value.toList n) {word : String} {c : Char}
    (hword : word.toList.head? = some c) (hc : 'A'.toNat ≤ c.toNat) : lower value ≠ word := by
  obtain ⟨d, rest, hvalue, hd⟩ := exists_first_of_isText h
  rintro rfl
  rw [lower, hvalue, lowerAll_cons hd, String.toList_ofList, List.head?_cons] at hword
  cases hword
  exact absurd hc (Nat.not_le.mpr hd)

theorem readValue_of_isText {value : String} {n : Int} (h : Decimal.IsText value.toList n)
    (hlow : -(Nat.pow 2 63 : Int) ≤ n) (hhigh : n < Nat.pow 2 63) : readValue value = .integer n := by
  have htrue : lower value ≠ "true" := lower_ne_of_isText h (c := 't') (by decide) (by decide)
  have hfalse : lower value ≠ "false" := lower_ne_of_isText h (c := 'f') (by decide) (by decide)
  rw [readValue, if_neg htrue, if_neg hfalse, Decimal.int?_of_isText h]
  exact if_pos ⟨hlow, hhigh⟩

theorem fieldValue?_integer (f : SettingsField) (n : Int) :
    fieldValue? f (.integer n) = if 0 ≤ n then some (n.toNat % Nat.pow 2 f.bits) else none := by
  rw [fieldValue?, Value.word?]
  split <;> rfl

def isMisplaced (path : List String) : Bool :=
  path.isEmpty || (1 < path.length && SettingsField.all.any (fun f => f.name == path.headD ""))

/-- What the variables say of a field: nothing at all, a number to put in its place, or none where one is needed. -/
def entryOf? (f : SettingsField) (entries : List (List String × Value)) : Option (Option Nat) :=
  match entries.reverse.find? (fun e => e.1 == [f.name]) with
  | some e => (fieldValue? f e.2).map some
  | none => some none

theorem overrides?_eq_some_iff : overrides? environment = some o ↔
    (∀ e ∈ ofSettings environment, isMisplaced e.1 = false) ∧
      ∀ f, entryOf? f (ofSettings environment) = some (o f) := by
  have hall (f : SettingsField) : f ∈ SettingsField.all := by cases f <;> decide
  change (if (ofSettings environment).any (fun e => isMisplaced e.1) then none
    else if SettingsField.all.all (fun f => (entryOf? f (ofSettings environment)).isSome) then
      some (fun f => (entryOf? f (ofSettings environment)).join) else none) = some o ↔ _
  split
  · rename_i hany
    obtain ⟨e, he, hplace⟩ := List.any_eq_true.mp hany
    exact iff_of_false (fun h => nomatch h) fun h => absurd (h.1 e he) (by rw [hplace]; decide)
  · rename_i hany
    have hplaced : ∀ e ∈ ofSettings environment, isMisplaced e.1 = false := fun e he =>
      Bool.eq_false_iff.mpr fun h => hany (List.any_eq_true.mpr ⟨e, he, h⟩)
    constructor
    · intro h
      split at h
      · rename_i hsome
        cases h
        refine ⟨hplaced, fun f => ?_⟩
        obtain ⟨value, hvalue⟩ := Option.isSome_iff_exists.mp (List.all_eq_true.mp hsome f (hall f))
        dsimp only
        rw [hvalue]
        rfl
      · cases h
    · rintro ⟨-, h⟩
      rw [if_pos (List.all_eq_true.mpr fun f _ => by rw [h f]; rfl)]
      exact congrArg some (funext fun f => by rw [h f]; rfl)

theorem ofSettings_append : ofSettings (before ++ after) = ofSettings before ++ ofSettings after := List.filterMap_append

theorem ofSettings_insert (f : SettingsField) (value : String) :
    ofSettings (before ++ (f.variableName, value) :: after) =
      ofSettings before ++ ([f.name], readValue value) :: ofSettings after := by
  rw [ofSettings_append]
  simp only [ofSettings, List.filterMap_cons, path?_variableName]

theorem ne_of_entryOf? {f : SettingsField} {entries : List (List String × Value)} (h : entryOf? f entries = some none) :
    ∀ e ∈ entries, e.1 ≠ [f.name] := by
  unfold entryOf? at h
  split at h
  · rename_i e he
    obtain ⟨_, -, hnone⟩ := Option.map_eq_some_iff.mp h
    cases hnone
  · rename_i hfind
    intro e he heq
    exact List.find?_eq_none.mp hfind e (List.mem_reverse.mpr he) (beq_iff_eq.mpr heq)

theorem entryOf?_insert {first rest : List (List String × Value)} {g : SettingsField}
    (h : ∀ e ∈ first ++ rest, e.1 ≠ [g.name]) (f : SettingsField) (v : Value) :
    entryOf? g (first ++ ([f.name], v) :: rest) = if g = f then (fieldValue? f v).map some else some none := by
  have hnone : (rest.reverse ++ first.reverse).find? (fun e => e.1 == [g.name]) = none :=
    List.find?_eq_none.mpr fun e he heq => h e (List.mem_reverse.mp (List.reverse_append ▸ he)) (beq_iff_eq.mp heq)
  rw [List.find?_append, Option.or_eq_none_iff] at hnone
  rw [entryOf?, List.reverse_append, List.reverse_cons, List.append_assoc, List.find?_append, hnone.1, Option.none_or,
    List.singleton_append, List.find?_cons]
  by_cases hg : g = f
  · cases hg
    simp
  · have hkey : (f.name == g.name) = false := beq_eq_false_iff_ne.mpr fun hname => hg (name_injective hname.symm)
    simp [hg, hkey, hnone.2]

theorem overrides?_insert (h : overrides? (before ++ after) = some fun _ => none) (f : SettingsField) (value : String) :
    overrides? (before ++ (f.variableName, value) :: after) =
      (fieldValue? f (readValue value)).map (SettingsOverrides.only f) := by
  rw [overrides?_eq_some_iff, ofSettings_append] at h
  have hentry (g : SettingsField) := entryOf?_insert (ne_of_entryOf? (h.2 g)) f (readValue value)
  rw [← ofSettings_insert] at hentry
  cases hvalue : fieldValue? f (readValue value) with
  | none =>
    rw [Option.map_none, Option.eq_none_iff_forall_ne_some]
    intro o ho
    have hf := (overrides?_eq_some_iff.mp ho).2 f
    rw [hentry f, if_pos rfl, hvalue] at hf
    cases hf
  | some n =>
    rw [Option.map_some, overrides?_eq_some_iff]
    refine ⟨fun e he => ?_, fun g => ?_⟩
    · rw [ofSettings_insert, List.mem_append, List.mem_cons] at he
      rcases he with hfirst | rfl | hrest
      · exact h.1 e (List.mem_append_left _ hfirst)
      · rfl
      · exact h.1 e (List.mem_append_right _ hrest)
    · rw [hentry g, hvalue, SettingsOverrides.only]
      split <;> rfl

theorem overrides?_single (f : SettingsField) (value : String) :
    overrides? [(f.variableName, value)] = (fieldValue? f (readValue value)).map (SettingsOverrides.only f) :=
  @overrides?_insert [] [] rfl f value

end Environment

end TargetHealth
