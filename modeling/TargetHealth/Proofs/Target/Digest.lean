import TargetHealth.Target.Digest

namespace TargetHealth

namespace Hex

def isDigit (c : Char) : Bool := ('0' ≤ c && c ≤ '9') || ('a' ≤ c && c ≤ 'f') || ('A' ≤ c && c ≤ 'F')

theorem isSome_value?_iff {c : Char} : (value? c).isSome ↔ isDigit c := by
  simp only [value?, isDigit, Bool.or_eq_true, Bool.and_eq_true, decide_eq_true_eq]
  grind

theorem toNat_le_of_isDigit {c : Char} (h : isDigit c) : c.toNat ≤ 102 := by
  simp only [isDigit, Bool.or_eq_true, Bool.and_eq_true, decide_eq_true_eq, Char.le_def, UInt32.le_iff_toNat_le,
    Char.reduceVal, UInt32.reduceToNat] at h
  rw [Char.toNat]
  omega

theorem value?_digit {n : Nat} (h : n < 16) : value? (digit n) = some n := by
  have hall : ∀ m ∈ List.range 16, value? (digit m) = some m := by decide
  exact hall n (List.mem_range.mpr h)

theorem digit_of_value? {c : Char} {n : Nat} (h : value? c = some n) : n < 16 ∧ digit n = c.toLower := by
  have hall : ∀ code ∈ List.range 103,
      (value? (Char.ofNat code)).all fun m => m < 16 && digit m == (Char.ofNat code).toLower := by decide
  have hdigit : isDigit c := isSome_value?_iff.mp (by rw [h]; rfl)
  have hc := hall c.toNat (List.mem_range.mpr (Nat.lt_succ_of_le (toNat_le_of_isDigit hdigit)))
  rw [Char.ofNat_toNat, h] at hc
  simpa using hc

theorem ofByte_ofNat {high low : Nat} (hhigh : high < 16) (hlow : low < 16) :
    ofByte (UInt8.ofNat (16 * high + low)) = [digit high, digit low] := by
  have hvalue : (UInt8.ofNat (16 * high + low)).toNat = 16 * high + low := by
    rw [UInt8.toNat_ofNat']
    exact Nat.mod_eq_of_lt (by omega)
  rw [ofByte, hvalue, show (16 * high + low) / 16 = high by omega, show (16 * high + low) % 16 = low by omega]

end Hex

namespace Digest

def digits (s : String) : List Char := s.toList.filter (· != ':')

/-- A digit in lower case. A plus sign counts as zero. -/
def lowered (c : Char) : Char := if c = '+' then '0' else c.toLower

def isPair (a b : Char) : Bool := (Hex.isDigit a || a == '+') && Hex.isDigit b

def isPaired : List Char → Bool
  | [] => true
  | [_] => false
  | a :: b :: rest => isPair a b && isPaired rest

theorem lowered_of_isDigit {c : Char} (h : Hex.isDigit c) : lowered c = c.toLower :=
  if_neg (by rintro rfl; exact absurd h (by decide))

theorem isSome_byte?_iff {a b : Char} : (byte? a b).isSome ↔ isPair a b := by
  unfold byte? isPair
  by_cases hplus : a = '+'
  · simp [hplus, Hex.isSome_value?_iff]
  · have ha := @Hex.isSome_value?_iff a
    have hb := @Hex.isSome_value?_iff b
    simp only [beq_iff_eq, Bool.and_eq_true, Bool.or_eq_true, hplus, or_false, ← ha, ← hb]
    cases Hex.value? a <;> cases Hex.value? b <;> simp

theorem digit_eq_lowered {c : Char} {n : Nat} (h : Hex.value? c = some n) : Hex.digit n = lowered c := by
  rw [lowered_of_isDigit (Hex.isSome_value?_iff.mp (by rw [h]; rfl)), (Hex.digit_of_value? h).2]

theorem ofByte_of_byte? {a b : Char} {x : UInt8} (h : byte? a b = some x) : Hex.ofByte x = [lowered a, lowered b] := by
  unfold byte? at h
  split at h
  next hplus =>
    obtain ⟨n, hn, rfl⟩ := Option.map_eq_some_iff.mp h
    have hbyte := Hex.ofByte_ofNat (by decide : 0 < 16) (Hex.digit_of_value? hn).1
    rw [Nat.mul_zero, Nat.zero_add] at hbyte
    rw [hbyte, hplus, digit_eq_lowered hn]
    rfl
  next =>
    simp only [Option.bind_eq_bind, Option.bind_eq_some_iff] at h
    obtain ⟨m, hm, n, hn, hx⟩ := h
    cases hx
    rw [Hex.ofByte_ofNat (Hex.digit_of_value? hm).1 (Hex.digit_of_value? hn).1, digit_eq_lowered hm,
      digit_eq_lowered hn]

theorem byte?_ofByte (x : UInt8) : byte? (Hex.digit (x.toNat / 16)) (Hex.digit (x.toNat % 16)) = some x := by
  have hx := x.toNat_lt
  have hhigh := Hex.value?_digit (n := x.toNat / 16) (by omega)
  have hplus : Hex.digit (x.toNat / 16) ≠ '+' := fun heq => by
    rw [heq] at hhigh
    cases hhigh
  rw [byte?, if_neg hplus, hhigh, Hex.value?_digit (by omega)]
  simp only [Option.bind_eq_bind, Option.bind_some, show 16 * (x.toNat / 16) + x.toNat % 16 = x.toNat by omega,
    UInt8.ofNat_toNat]

theorem isSome_pairs?_iff {cs : List Char} : (pairs? cs).isSome ↔ isPaired cs := by
  fun_induction pairs? cs with
  | case1 => simp [isPaired]
  | case2 => simp [isPaired]
  | case3 a b rest ih =>
    rw [isPaired, Bool.and_eq_true, ← isSome_byte?_iff, ← ih]
    cases byte? a b <;> simp

theorem of_pairs? {cs : List Char} {bytes : List UInt8} (h : pairs? cs = some bytes) :
    bytes.flatMap Hex.ofByte = cs.map lowered ∧ cs.length = 2 * bytes.length := by
  fun_induction pairs? cs generalizing bytes with
  | case1 =>
    cases h
    exact ⟨rfl, rfl⟩
  | case2 => cases h
  | case3 a b rest ih =>
    simp only [Option.bind_eq_bind, Option.bind_eq_some_iff] at h
    obtain ⟨x, hx, h⟩ := h
    obtain ⟨more, hmore, rfl⟩ := Option.map_eq_some_iff.mp h
    obtain ⟨htext, hlength⟩ := ih hmore
    refine ⟨?_, by rw [List.length_cons, List.length_cons, List.length_cons, hlength, Nat.mul_add]⟩
    rw [List.flatMap_cons, ofByte_of_byte? hx, htext]
    rfl

theorem pairs?_flatMap_ofByte (bytes : List UInt8) : pairs? (bytes.flatMap Hex.ofByte) = some bytes := by
  induction bytes with
  | nil => rfl
  | cons x bytes ih =>
    rw [List.flatMap_cons, Hex.ofByte, List.cons_append, List.cons_append, List.nil_append, pairs?, byte?_ofByte]
    simp [ih]

/-- Where no plus sign stands, a digit is a digit wherever it stands. -/
theorem isPaired_iff {cs : List Char} (h : '+' ∉ cs) : isPaired cs ↔ cs.all Hex.isDigit ∧ cs.length % 2 = 0 := by
  fun_induction isPaired cs with
  | case1 => simp
  | case2 => simp
  | case3 a b rest ih =>
    simp only [List.mem_cons, not_or] at h
    have hplus : (a == '+') = false := beq_eq_false_iff_ne.mpr (Ne.symm h.1)
    have hlength : (a :: b :: rest).length % 2 = rest.length % 2 := Nat.add_mod_right rest.length 2
    simp only [Bool.and_eq_true, ih h.2.2, isPair, hplus, Bool.or_false, List.all_cons, hlength, and_assoc]

theorem text_of_read? {s : String} {d : Digest} (h : read? s = some d) :
    d.text = String.ofList ((digits s).map lowered) := by
  simp only [read?, ofDigits?, Option.bind_eq_bind, Option.bind_eq_some_iff] at h
  obtain ⟨bytes, hbytes, h⟩ := h
  split at h
  next =>
    cases h
    rw [text, (of_pairs? hbytes).1, digits]
  next => cases h

theorem isSome_read?_iff {s : String} : (read? s).isSome ↔ (digits s).length = 64 ∧ isPaired (digits s) := by
  simp only [read?, ofDigits?, Option.bind_eq_bind]
  rw [← isSome_pairs?_iff, ← digits]
  cases hbytes : pairs? (digits s) with
  | none => simp
  | some bytes =>
    rw [(of_pairs? hbytes).2]
    simp only [Option.bind_some, Option.isSome_some, and_true]
    split <;> simp <;> omega

theorem read?_of_digits_eq {s : String} {d : Digest} (h : digits s = d.text.toList) : read? s = some d := by
  rw [text, String.toList_ofList, digits] at h
  simp only [read?, ofDigits?, h, pairs?_flatMap_ofByte, Option.bind_eq_bind, Option.bind_some, dif_pos d.size]

/-- A text is a digest if it is 64 hexadecimal digits, colons apart, of which the first of a pair may be a plus sign. Then it
has these digits in lower case. Without plus signs nothing but hexadecimal digits is read, and each digest is read from its
own digits. -/
theorem read?_grammar (s : String) :
    ((read? s).isSome ↔ (digits s).length = 64 ∧ isPaired (digits s)) ∧
    (∀ d, read? s = some d → d.text = String.ofList ((digits s).map lowered)) ∧
    ('+' ∉ digits s →
      ((read? s).isSome ↔ (digits s).length = 64 ∧ (digits s).all Hex.isDigit) ∧
      ∀ d, read? s = some d → d.text = String.ofList ((digits s).map Char.toLower)) ∧
    ∀ d, digits s = d.text.toList → read? s = some d := by
  refine ⟨isSome_read?_iff, fun d => text_of_read?, fun hplus => ⟨?_, fun d hd => ?_⟩, fun d => read?_of_digits_eq⟩
  · rw [isSome_read?_iff, isPaired_iff hplus]
    refine and_congr_right fun hlength => ?_
    rw [hlength]
    exact and_iff_left rfl
  · rw [text_of_read? hd]
    refine congrArg String.ofList (List.map_congr_left fun c hc => if_neg ?_)
    rintro rfl
    exact hplus hc

/-- A digest with colons in it, in lower case and in upper case. -/
theorem read?_grammar_colons :
    let d : Digest := ⟨List.replicate 31 0x0c ++ [0xab], by decide⟩
    let lower := String.ofList ((List.replicate 31 "0c:".toList).flatten ++ "::ab".toList)
    let upper := String.ofList ((List.replicate 31 ":0C".toList).flatten ++ "A:B".toList)
    (digits lower = d.text.toList ∧ read? lower = some d) ∧
    ('+' ∉ digits upper ∧ read? upper = some d ∧ (digits upper).all Hex.isDigit ∧
      d.text = String.ofList ((digits upper).map Char.toLower)) := by
  intro d lower upper
  have hlower : digits lower = d.text.toList := by decide +kernel
  have hplus : '+' ∉ digits upper := by decide +kernel
  have hupper : read? upper = some d := by decide +kernel
  obtain ⟨-, -, hplain, -⟩ := read?_grammar upper
  obtain ⟨hread, htext⟩ := hplain hplus
  exact ⟨⟨hlower, (read?_grammar lower).2.2.2 d hlower⟩, hplus, hupper,
    (hread.mp (by rw [hupper]; rfl)).2, htext d hupper⟩

/-- A text of 32 digits, each behind a plus sign, is read as a digest. -/
theorem read?_of_signs :
    ∃ s, digits s = (List.replicate 32 ['+', 'f']).flatten ∧
      ((read? s).map text) = some (String.ofList (List.replicate 32 ['0', 'f']).flatten) ∧
      ¬ ((read? s).isSome ↔ (digits s).length = 64 ∧ (digits s).all Hex.isDigit) :=
  ⟨String.ofList (List.replicate 32 ['+', 'f']).flatten, by decide +kernel⟩

end Digest

end TargetHealth
