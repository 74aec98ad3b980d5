import TargetHealth.Proofs.Stomp.Head

namespace TargetHealth.Stomp

/-- A head that is written to its end: a command, any lines behind it, and an empty line. -/
structure IsHead (text : List Char) : Prop where
  ends : ∃ start e, text = start ++ '\n' :: line [] e
  command : ¬ text.all isLineEnd

theorem headersOf?_append (ls behind : List (List Char)) :
    Frame.headersOf? (ls ++ [] :: behind) = Frame.headersOf? (ls ++ [[]]) := by
  induction ls with
  | nil => rfl
  | cons l ls ih => simp only [List.cons_append, Frame.headersOf?, ih]

namespace IsHead

variable {head : Bytes} {text : List Char}

theorem lines_append (h : IsHead text) :
    ∃ command ls, ∀ body, lines (text ++ body) =
      command :: (ls ++ [] :: (Text.pieces '\n' body).map Frame.trimReturns) := by
  obtain ⟨⟨start, e, rfl⟩, hcommand⟩ := h
  have hstart : start.dropWhile isLineEnd ≠ [] := fun hnil => hcommand (by
    rw [List.all_append, List.all_eq_true.mpr (List.dropWhile_eq_nil_iff.mp hnil)]
    cases e <;> rfl)
  obtain ⟨command, ls, hpieces⟩ :=
    List.exists_cons_of_ne_nil (Text.pieces_ne_nil '\n' (start.dropWhile isLineEnd))
  refine ⟨Frame.trimReturns command, ls.map Frame.trimReturns, fun body => ?_⟩
  rw [lines, List.append_assoc, List.dropWhile_append, if_neg (by simpa using hstart), List.cons_append,
    Text.pieces_append_separator, List.map_append, pieces_line rfl, hpieces]
  rfl

theorem ofChars?_append (h : IsHead text) (body : List Char) :
    Frame.ofChars? (text ++ body) = Frame.ofChars? text := by
  obtain ⟨command, ls, hlines⟩ := h.lines_append
  have hbody := hlines body
  have hnone := hlines []
  rw [List.append_nil] at hnone
  simp only [lines] at hbody hnone
  simp only [Frame.ofChars?, hbody, hnone, headersOf?_append ls ((Text.pieces '\n' _).map Frame.trimReturns)]

theorem parse?_append (h : IsHead text) (hhead : Utf8.decode? head = some text) (body : Bytes) :
    Frame.parse? (head ++ body) = (Utf8.decode? body).bind fun _ => Frame.parse? head := by
  rw [Frame.parse?, Frame.parse?, Utf8.decode?_append hhead, hhead]
  cases Utf8.decode? body with
  | none => rfl
  | some rest => exact h.ofChars?_append rest

theorem expectConnected_append (h : IsHead text) (hhead : Utf8.decode? head = some text) (body : Bytes) :
    expectConnected (head ++ body) =
      if (Utf8.decode? body).isSome then expectConnected head else .error malformed := by
  rw [expectConnected, h.parse?_append hhead]
  cases Utf8.decode? body <;> rfl

end IsHead

/-- Behind one head, a body that is text changes nothing, and all other bodies are answered alike. So two bodies are told
apart if one of them only is text, unless the head itself is malformed. -/
theorem bodies_agree_iff {head : Bytes} {text : List Char} (hhead : Utf8.decode? head = some text) (hends : IsHead text)
    (body other : Bytes) :
    expectConnected (head ++ body) =
        (if (Utf8.decode? body).isSome then expectConnected head else .error malformed) ∧
    (expectConnected (head ++ body) = expectConnected (head ++ other) ↔
      ((Utf8.decode? body).isSome ↔ (Utf8.decode? other).isSome) ∨ expectConnected head = .error malformed) := by
  refine ⟨hends.expectConnected_append hhead body, ?_⟩
  rw [hends.expectConnected_append hhead body, hends.expectConnected_append hhead other]
  cases Utf8.decode? body <;> cases Utf8.decode? other <;> simp [eq_comm]

/-- A refusal, with a body that looks like a header and one that is cut within a character. -/
theorem bodies_agree_iff_refused :
    let text := "\r\nERROR\r\nmessage:no\r\n\r\n".toList
    (Utf8.decode? (Utf8.encode text) = some text ∧ IsHead text) ∧
    expectConnected (Utf8.encode text ++ Utf8.ofString "message:yes\n") =
      .error (.protocol "STOMP login refused: no") ∧
    expectConnected (Utf8.encode text ++ [0xe2, 0x82]) = .error malformed ∧
    expectConnected (Utf8.encode text ++ Utf8.ofString "message:yes\n") ≠
      expectConnected (Utf8.encode text ++ [0xe2, 0x82]) := by
  intro text
  have hread : Utf8.decode? (Utf8.encode text) = some text := Utf8.decode?_encode text
  have hends : IsHead text := ⟨⟨"\r\nERROR\r\nmessage:no\r".toList, .returnFeed, by decide⟩, by decide⟩
  have htext : (Utf8.decode? (Utf8.ofString "message:yes\n")).isSome := by rw [Utf8.ofString, Utf8.decode?_encode]; rfl
  have hcut : (Utf8.decode? [0xe2, 0x82]).isSome = false := by decide +kernel
  have hrefused : expectConnected (Utf8.encode text) = .error (.protocol "STOMP login refused: no") := by decide +kernel
  obtain ⟨hbody, hagree⟩ := bodies_agree_iff hread hends (Utf8.ofString "message:yes\n") [0xe2, 0x82]
  obtain ⟨hother, -⟩ := bodies_agree_iff hread hends [0xe2, 0x82] []
  rw [if_pos htext, hrefused] at hbody
  rw [if_neg (by rw [hcut]; decide)] at hother
  refine ⟨⟨hread, hends⟩, hbody, hother, fun heq => ?_⟩
  rw [hagree, hcut, hrefused] at heq
  rcases heq with hsame | hmalformed
  · exact absurd (hsame.mp htext) (by decide)
  · exact absurd hmalformed (by decide)

/-- A login that is granted counts as malformed if the body behind its head is not text. -/
theorem malformed_of_binary_body :
    ∃ head text body other, Utf8.decode? head = some text ∧ IsHead text ∧
      expectConnected (head ++ body) = .ok () ∧ expectConnected (head ++ other) = .error malformed ∧
      malformed.message = "malformed STOMP frame" := by
  let text := "CONNECTED\nversion:1.2\n\n".toList
  exact ⟨Utf8.encode text, text, [0x00], [0xff, 0x00], Utf8.decode?_encode text,
    ⟨⟨"CONNECTED\nversion:1.2".toList, .feed, by decide⟩, by decide⟩, by decide +kernel, by decide +kernel, rfl⟩

end TargetHealth.Stomp
