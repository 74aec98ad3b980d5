import TargetHealth.Decimal.Reading

namespace TargetHealth.Decimal

theorem allDigits_toString (n : Nat) : allDigits (toString n).toList := by
  rw [Nat.toString_eq_repr, Nat.toList_repr]
  simp only [allDigits, Bool.and_eq_true, Bool.not_eq_true', List.isEmpty_eq_false_iff, List.all_eq_true]
  exact ⟨Nat.toDigits_ne_nil, fun c hc => Nat.isDigit_of_mem_toDigits (by decide) (by decide) hc⟩

theorem ofDigits_toString (n : Nat) : ofDigits (toString n).toList = n := by
  rw [Nat.toString_eq_repr, Nat.toList_repr]
  exact Nat.ofDigitChars_toDigits (by decide) (by decide)

theorem exists_digit_of_allDigits {ds : List Char} (h : allDigits ds) :
    ∃ d rest, ds = d :: rest ∧ d.isDigit = true := by
  cases ds with
  | nil => cases h
  | cons d rest =>
    rw [allDigits, Bool.and_eq_true, List.all_cons, Bool.and_eq_true] at h
    exact ⟨d, rest, rfl, h.2.1⟩

/-- A decimal text of an integer. -/
inductive IsText : List Char → Int → Prop where
  | unsigned {ds : List Char} : allDigits ds → IsText ds (ofDigits ds)
  | plus {ds : List Char} : allDigits ds → IsText ('+' :: ds) (ofDigits ds)
  | minus {ds : List Char} : allDigits ds → IsText ('-' :: ds) (-(ofDigits ds : Int))

theorem isText_toString (n : Int) : IsText (toString n).toList n := by
  cases n with
  | ofNat n =>
    have h := IsText.unsigned (allDigits_toString n)
    rwa [ofDigits_toString] at h
  | negSucc n =>
    have h := IsText.minus (allDigits_toString (n + 1))
    rw [ofDigits_toString] at h
    have htext : (toString (Int.negSucc n)).toList = '-' :: (toString (n + 1)).toList := String.toList_append
    rwa [htext]

theorem nat?_of_isDigit {d : Char} {rest : List Char} (hd : d.isDigit = true) (hdigits : allDigits (d :: rest)) :
    nat? (d :: rest) = some (ofDigits (d :: rest)) := by
  rw [nat?.eq_2 _ fun ds h => ?_, if_pos hdigits]
  cases h
  exact absurd hd (by decide)

theorem int?_of_isText {cs : List Char} {n : Int} (h : IsText cs n) : int? cs = some n := by
  cases h with
  | unsigned hdigits =>
    obtain ⟨d, rest, rfl, hd⟩ := exists_digit_of_allDigits hdigits
    rw [int?.eq_2 _ fun ds h => ?_, nat?_of_isDigit hd hdigits]
    · rfl
    · cases h
      exact absurd hd (by decide)
  | plus hdigits =>
    rw [int?.eq_2 _ fun ds h => ?_, nat?, if_pos hdigits]
    · rfl
    · simp at h
  | minus hdigits => rw [int?, if_pos hdigits]

theorem int?_eq_some_iff {cs : List Char} {n : Int} : int? cs = some n ↔ IsText cs n := by
  refine ⟨fun h => ?_, int?_of_isText⟩
  unfold int? nat? at h
  split at h
  · split at h
    · rename_i hdigits
      cases h
      exact .minus hdigits
    · cases h
  · split at h
    all_goals
      split at h
      · rename_i hdigits
        cases h
        first | exact .plus hdigits | exact .unsigned hdigits
      · cases h

end TargetHealth.Decimal
