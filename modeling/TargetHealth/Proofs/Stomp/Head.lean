import Mathlib.Data.List.TakeWhile
import TargetHealth.Proofs.Text.Utf8
import TargetHealth.Stomp.Frame

namespace TargetHealth.Stomp

inductive LineEnd where
  | feed
  | returnFeed
deriving DecidableEq, Repr

def LineEnd.returns : LineEnd → List Char
  | feed => []
  | returnFeed => ['\r']

def line (cs : List Char) (e : LineEnd) : List Char := cs ++ e.returns ++ ['\n']

def isOneLine (cs : List Char) : Bool := cs.all (fun c => !isLineEnd c)

/-- A header that reads back: it is on one line, its name ends at the first colon, and no NUL in front ends the head. -/
def isHeader (h : List Char × List Char) : Bool :=
  isOneLine h.1 && isOneLine h.2 && !h.1.contains ':' && h.1.head? != some '\x00'

def headerText (h : List Char × List Char) : List Char := h.1 ++ ':' :: h.2

/-- A frame as it is written. There may be line ends in front of it, and any text behind its head. -/
structure Written where
  lead : List Char
  command : List Char
  commandEnd : LineEnd
  headers : List ((List Char × List Char) × LineEnd)
  headEnd : LineEnd
  behind : List Char
  lead_ends : lead.all isLineEnd
  command_ne_nil : command ≠ []
  command_oneLine : isOneLine command
  headers_read : headers.all (fun h => isHeader h.1)

namespace Written

def chars (w : Written) : List Char :=
  w.lead ++ line w.command w.commandEnd ++ w.headers.flatMap (fun h => line (headerText h.1) h.2) ++
    line [] w.headEnd ++ w.behind

def frame (w : Written) : Frame := ⟨w.command, w.headers.map (·.1)⟩

end Written

theorem return_of_mem_returns {e : LineEnd} {c : Char} (h : c ∈ e.returns) : (c == '\r') = true := by
  cases e with
  | feed => cases h
  | returnFeed => rw [List.mem_singleton.mp h]; rfl

theorem isLineEnd_of_isOneLine {cs : List Char} (h : isOneLine cs) {c : Char} (hc : c ∈ cs) : isLineEnd c = false := by
  rw [isOneLine, List.all_eq_true] at h
  simpa using h c hc

theorem feed_not_mem {cs : List Char} (h : isOneLine cs) : '\n' ∉ cs :=
  fun hfeed => absurd (isLineEnd_of_isOneLine h hfeed) (by decide)

theorem trimReturns_append {cs : List Char} (h : isOneLine cs) (e : LineEnd) :
    Frame.trimReturns (cs ++ e.returns) = cs := by
  have hreturns : ∀ c ∈ e.returns.reverse, (c == '\r') = true :=
    fun c hc => return_of_mem_returns (List.mem_reverse.mp hc)
  have hkeep : cs.reverse.dropWhile (· == '\r') = cs.reverse := by
    cases hrev : cs.reverse with
    | nil => rfl
    | cons c rest =>
      have hc : isLineEnd c = false :=
        isLineEnd_of_isOneLine h (List.mem_reverse.mp (hrev ▸ List.mem_cons_self))
      have hreturn : (c == '\r') = false := by
        simp only [isLineEnd, Bool.or_eq_false_iff] at hc
        exact hc.1
      simp [hreturn]
  rw [Frame.trimReturns, List.reverse_append, List.dropWhile_append_of_pos hreturns, hkeep, List.reverse_reverse]

theorem pieces_line {cs : List Char} (h : isOneLine cs) (e : LineEnd) (rest : List Char) :
    (Text.pieces '\n' (line cs e ++ rest)).map Frame.trimReturns =
      cs :: (Text.pieces '\n' rest).map Frame.trimReturns := by
  have hfeed : '\n' ∉ cs ++ e.returns := by
    rw [List.mem_append, not_or]
    exact ⟨feed_not_mem h, fun hmem => absurd (return_of_mem_returns hmem) (by decide)⟩
  rw [line, List.append_assoc, List.singleton_append, Text.pieces_append hfeed, List.map_cons, trimReturns_append h]

theorem isHeader_iff {h : List Char × List Char} :
    isHeader h ↔ isOneLine h.1 ∧ isOneLine h.2 ∧ ':' ∉ h.1 ∧ h.1.head? ≠ some '\x00' := by
  simp [isHeader, and_assoc]

theorem isOneLine_headerText {h : List Char × List Char} (hheader : isHeader h) : isOneLine (headerText h) := by
  obtain ⟨hname, hvalue, -, -⟩ := isHeader_iff.mp hheader
  rw [isOneLine, headerText, List.all_append, List.all_cons]
  simp only [Bool.and_eq_true]
  exact ⟨hname, by decide, hvalue⟩

theorem endsHead_headerText {h : List Char × List Char} (hheader : isHeader h) :
    Frame.endsHead (headerText h) = false := by
  obtain ⟨-, -, -, hmark⟩ := isHeader_iff.mp hheader
  obtain ⟨name, value⟩ := h
  cases name with
  | nil => rfl
  | cons c name =>
    rw [List.head?_cons] at hmark
    simpa [Frame.endsHead, headerText] using hmark

theorem pieces_headers {headers : List ((List Char × List Char) × LineEnd)} (h : headers.all (fun h => isHeader h.1))
    (rest : List Char) :
    (Text.pieces '\n' (headers.flatMap (fun h => line (headerText h.1) h.2) ++ rest)).map Frame.trimReturns =
      headers.map (fun h => headerText h.1) ++ (Text.pieces '\n' rest).map Frame.trimReturns := by
  induction headers with
  | nil => rfl
  | cons first headers ih =>
    rw [List.all_cons, Bool.and_eq_true] at h
    rw [List.flatMap_cons, List.append_assoc, pieces_line (isOneLine_headerText h.1), ih h.2]
    rfl

theorem headersOf?_written {headers : List ((List Char × List Char) × LineEnd)}
    (h : headers.all (fun h => isHeader h.1)) (rest : List (List Char)) :
    Frame.headersOf? (headers.map (fun h => headerText h.1) ++ [] :: rest) = some (headers.map (·.1)) := by
  induction headers with
  | nil => rfl
  | cons first headers ih =>
    rw [List.all_cons, Bool.and_eq_true] at h
    have hcolon := (isHeader_iff.mp h.1).2.2.1
    have hcut : Text.cut ':' (headerText first.1) = (first.1.1, some first.1.2) := Text.cut_append hcolon _
    simp only [List.map_cons, List.cons_append, Frame.headersOf?, endsHead_headerText h.1, hcut, ih h.2]
    rfl

theorem header?_eq_some_iff {f : Frame} {name value : String} :
    f.header? name = some value ↔
      ∃ before after, f.headers = before ++ (name.toList, value.toList) :: after ∧ name.toList ∉ before.map Prod.fst := by
  have hvalue : f.header? name = some value ↔ f.headers.lookup name.toList = some value.toList := by
    rw [Frame.header?, Option.map_eq_some_iff]
    constructor
    · rintro ⟨cs, hcs, rfl⟩
      rw [hcs, String.toList_ofList]
    · exact fun h => ⟨_, h, String.ofList_toList⟩
  rw [hvalue, List.lookup_eq_some_iff]
  refine exists_congr fun before => exists_congr fun after => and_congr_right fun _ => ?_
  simp only [List.mem_map, not_exists, not_and, bne_iff_ne]
  exact forall₂_congr fun p _ => ⟨fun h heq => h heq.symm, fun h heq => h heq.symm⟩

namespace Written

theorem ofChars?_chars (w : Written) : Frame.ofChars? w.chars = some w.frame := by
  have hstart : w.chars.dropWhile isLineEnd = line w.command w.commandEnd ++
      (w.headers.flatMap (fun h => line (headerText h.1) h.2) ++ (line [] w.headEnd ++ w.behind)) := by
    have hcommand := w.command_oneLine
    rw [chars, List.append_assoc, List.append_assoc, List.append_assoc,
      List.dropWhile_append_of_pos (List.all_eq_true.mp w.lead_ends)]
    cases hcs : w.command with
    | nil => exact absurd hcs w.command_ne_nil
    | cons c rest =>
      rw [hcs] at hcommand
      simp [line, isLineEnd_of_isOneLine hcommand List.mem_cons_self]
  have hlines : (Text.pieces '\n' (w.chars.dropWhile isLineEnd)).map Frame.trimReturns = w.command ::
      (w.headers.map (fun h => headerText h.1) ++ [] :: (Text.pieces '\n' w.behind).map Frame.trimReturns) := by
    rw [hstart, pieces_line w.command_oneLine, pieces_headers w.headers_read, pieces_line rfl]
  have hcommand : w.command.isEmpty = false := List.isEmpty_eq_false_iff.mpr w.command_ne_nil
  simp only [Frame.ofChars?, hlines, hcommand, headersOf?_written w.headers_read]
  rfl

theorem parse?_chars (w : Written) : Frame.parse? (Utf8.encode w.chars) = some w.frame := by
  rw [Frame.parse?, Utf8.decode?_encode]
  exact w.ofChars?_chars

end Written

/-- The lines of a text, without the line ends in front of it and the carriage returns at the end of a line. -/
def lines (text : List Char) : List (List Char) :=
  (Text.pieces '\n' (text.dropWhile isLineEnd)).map Frame.trimReturns

/-- The lines behind the command, up to the first that is empty or begins with a NUL. -/
def headLines (text : List Char) : List (List Char) :=
  (lines text).tail.takeWhile (fun l => !(l.isEmpty || l.head? == some '\x00'))

theorem headersOf?_eq_none_iff {ls : List (List Char)} :
    Frame.headersOf? ls = none ↔ ∃ l ∈ ls.takeWhile (fun l => !Frame.endsHead l), ':' ∉ l := by
  induction ls with
  | nil => simp [Frame.headersOf?]
  | cons l ls ih =>
    cases hends : Frame.endsHead l with
    | true => simp [Frame.headersOf?, hends]
    | false =>
      have hcolon : (Text.cut ':' l).2 = none ↔ ':' ∉ l := Text.cut_snd_eq_none_iff
      cases hcut : Text.cut ':' l with
      | mk name value =>
        rw [hcut] at hcolon
        cases value with
        | none => simp [Frame.headersOf?, hends, hcut, hcolon.mp rfl]
        | some value =>
          have hmem : ':' ∈ l := by simpa using hcolon
          simp [Frame.headersOf?, hends, hcut, hmem, ih]

theorem trimReturns_eq_nil_iff {cs : List Char} : Frame.trimReturns cs = [] ↔ ∀ c ∈ cs, c = '\r' := by
  rw [Frame.trimReturns, List.reverse_eq_nil_iff, List.dropWhile_eq_nil_iff]
  simp

/-- The first line is the command. It is empty only if the text is line ends. -/
theorem lines_eq_cons (text : List Char) :
    ∃ command rest, lines text = command :: rest ∧ (command = [] ↔ text.all isLineEnd) := by
  cases hdrop : text.dropWhile isLineEnd with
  | nil =>
    refine ⟨[], [], by rw [lines, hdrop]; rfl, iff_of_true rfl ?_⟩
    exact List.all_eq_true.mpr (List.dropWhile_eq_nil_iff.mp hdrop)
  | cons c rest =>
    have hc : isLineEnd c = false := by
      have hhead := List.head?_dropWhile_not isLineEnd text
      rw [hdrop] at hhead
      simpa using hhead
    have hplain : ¬ text.all isLineEnd := fun hall => by
      rw [List.dropWhile_eq_nil_iff.mpr (List.all_eq_true.mp hall)] at hdrop
      cases hdrop
    rw [isLineEnd, Bool.or_eq_false_iff, beq_eq_false_iff_ne, beq_eq_false_iff_ne] at hc
    obtain ⟨piece, more, hpieces⟩ : ∃ piece more, Text.pieces '\n' (c :: rest) = (c :: piece) :: more := by
      simp only [Text.pieces, hc.2, if_false]
      cases Text.pieces '\n' rest with
      | nil => exact ⟨[], [], rfl⟩
      | cons piece more => exact ⟨piece, more, rfl⟩
    refine ⟨Frame.trimReturns (c :: piece), more.map Frame.trimReturns, by rw [lines, hdrop, hpieces]; rfl,
      iff_of_false (fun hnil => hc.1 ?_) hplain⟩
    exact trimReturns_eq_nil_iff.mp hnil c List.mem_cons_self

/-- A text is malformed if it holds no command or if a line of its head has no colon, and only then. -/
theorem ofChars?_eq_none_iff {text : List Char} :
    Frame.ofChars? text = none ↔ text.all isLineEnd ∨ ∃ l ∈ headLines text, ':' ∉ l := by
  obtain ⟨command, rest, hlines, hcommand⟩ := lines_eq_cons text
  have hhead : headLines text = rest.takeWhile (fun l => !Frame.endsHead l) := by
    rw [headLines, hlines]
    rfl
  rw [hhead, ← headersOf?_eq_none_iff, ← hcommand]
  simp only [lines] at hlines
  simp only [Frame.ofChars?, hlines]
  by_cases hempty : command = []
  · simp [hempty]
  · simp [hempty]

theorem judge_eq_ok_iff {f : Frame} : judge f = .ok () ↔ f.command = "CONNECTED".toList := by
  unfold judge
  split
  next h => exact iff_of_true rfl h
  next h =>
    split
    next => exact iff_of_false nofun h
    next => exact iff_of_false nofun h

theorem judge_eq_refused_iff {f : Frame} :
    judge f = .error (.protocol ("STOMP login refused: " ++ (f.header? "message").getD "no reason given")) ↔
      f.command = "ERROR".toList := by
  unfold judge
  split
  next h => simp [h]
  next =>
    split
    next h => simp [h]
    next h =>
      refine iff_of_false (fun heq => ?_) h
      have htexts := congrArg String.toList (ProbeError.protocol.inj (Except.error.inj heq))
      rw [String.toList_append, String.toList_append] at htexts
      exact absurd (List.head_eq_of_cons_eq htexts) (by decide)

theorem judge_of_other {f : Frame} (hconnected : f.command ≠ "CONNECTED".toList) (herror : f.command ≠ "ERROR".toList) :
    judge f = .error (.protocol ("expected CONNECTED, got " ++ String.ofList f.command)) := by
  rw [judge, if_neg hconnected, if_neg herror]

theorem Written.expectConnected_chars (w : Written) : expectConnected (Utf8.encode w.chars) = judge w.frame := by
  rw [expectConnected, w.parse?_chars]

/-- A written head reads back: the command, the headers in their order, and of several with one name the first. The answer
is judged by its command. A text with a line without a colon in its head is malformed. -/
theorem head_read_back (w : Written) :
    Frame.parse? (Utf8.encode w.chars) = some ⟨w.command, w.headers.map (·.1)⟩ ∧
    (∀ name value, w.frame.header? name = some value ↔ ∃ before after,
      w.headers.map (·.1) = before ++ (name.toList, value.toList) :: after ∧ name.toList ∉ before.map Prod.fst) ∧
    (expectConnected (Utf8.encode w.chars) = .ok () ↔ w.command = "CONNECTED".toList) ∧
    (expectConnected (Utf8.encode w.chars) =
        .error (.protocol ("STOMP login refused: " ++ (w.frame.header? "message").getD "no reason given")) ↔
      w.command = "ERROR".toList) ∧
    (w.command ≠ "CONNECTED".toList → w.command ≠ "ERROR".toList → expectConnected (Utf8.encode w.chars) =
      .error (.protocol ("expected CONNECTED, got " ++ String.ofList w.command))) ∧
    ∀ text, (∃ l ∈ headLines text, ':' ∉ l) →
      expectConnected (Utf8.encode text) = .error (.protocol "malformed STOMP frame") := by
  rw [w.expectConnected_chars]
  refine ⟨w.parse?_chars, fun _ _ => header?_eq_some_iff, judge_eq_ok_iff, judge_eq_refused_iff,
    judge_of_other (f := w.frame), fun text hcolonless => ?_⟩
  rw [expectConnected, Frame.parse?, Utf8.decode?_encode, Option.bind_some,
    ofChars?_eq_none_iff.mpr (.inr hcolonless)]
  rfl

/-- Two reasons are given, of which the first counts, with a colon in it and with line ends of both kinds around it. -/
theorem head_read_back_refused :
    let w : Written := {
      lead := "\n\r".toList, command := "ERROR".toList, commandEnd := .returnFeed
      headers := [(("message".toList, "bad: name".toList), .feed), (("message".toList, "ignored".toList), .returnFeed)]
      headEnd := .feed, behind := "body".toList
      lead_ends := by decide, command_ne_nil := by decide, command_oneLine := by decide, headers_read := by decide }
    let other : Written :=
      { w with command := "MESSAGE".toList, command_ne_nil := by decide, command_oneLine := by decide }
    Frame.parse? (Utf8.encode w.chars) = some w.frame ∧ w.frame.header? "message" = some "bad: name" ∧
    expectConnected (Utf8.encode w.chars) = .error (.protocol "STOMP login refused: bad: name") ∧
    expectConnected (Utf8.encode other.chars) = .error (.protocol "expected CONNECTED, got MESSAGE") ∧
    expectConnected (Utf8.encode "ERROR\nmessage:bad\nno reason\r\n\n".toList) =
      .error (.protocol "malformed STOMP frame") := by
  intro w other
  obtain ⟨hparse, hheader, -, hrefused, -, hmalformed⟩ := head_read_back w
  obtain ⟨-, -, -, -, hother, -⟩ := head_read_back other
  have hmessage : w.frame.header? "message" = some "bad: name" :=
    (hheader "message" "bad: name").mpr ⟨[], _, rfl, List.not_mem_nil⟩
  have hverdict := hrefused.mpr rfl
  rw [hmessage] at hverdict
  exact ⟨hparse, hmessage, hverdict, hother (by decide) (by decide),
    hmalformed _ ⟨"no reason".toList, by decide, by decide⟩⟩

def withoutLineEnds (value : String) : List Char := value.toList.filter (fun c => c != '\r' && c != '\n')

/-- What a login says: two headers at least, and a name and a passcode as far as they are configured. -/
def loginHeaders (vhost : String) (login : StompLogin) : List (List Char × List Char) :=
  [("accept-version".toList, "1.2".toList), ("host".toList, withoutLineEnds vhost)] ++
    login.login.toList.map (fun name => ("login".toList, withoutLineEnds name)) ++
    login.passcode.toList.map (fun passcode => ("passcode".toList, withoutLineEnds passcode))

theorem withoutLineEnds_eq (value : String) : withoutLineEnds value = singleLine value.toList := by
  refine List.filter_congr fun c _ => ?_
  rw [isLineEnd, Bool.not_or]
  rfl

theorem isOneLine_withoutLineEnds (value : String) : isOneLine (withoutLineEnds value) := by
  rw [withoutLineEnds_eq, singleLine, isOneLine, List.all_filter]
  simp

theorem isHeader_login {name : List Char} (hname : isHeader (name, [])) (value : String) :
    isHeader (name, withoutLineEnds value) := by
  rw [isHeader_iff] at hname ⊢
  exact ⟨hname.1, isOneLine_withoutLineEnds value, hname.2.2⟩

theorem isHeader_of_mem_loginHeaders {vhost : String} {login : StompLogin} {h : List Char × List Char}
    (hmem : h ∈ loginHeaders vhost login) : isHeader h := by
  simp only [loginHeaders, List.mem_append, List.mem_cons, List.not_mem_nil, or_false, List.mem_map] at hmem
  rcases hmem with ((rfl | rfl) | ⟨name, -, rfl⟩) | ⟨passcode, -, rfl⟩
  · decide
  · exact isHeader_login (by decide) vhost
  · exact isHeader_login (by decide) name
  · exact isHeader_login (by decide) passcode

def writtenLogin (vhost : String) (login : StompLogin) : Written where
  lead := []
  command := "STOMP".toList
  commandEnd := .feed
  headers := (loginHeaders vhost login).map (·, .feed)
  headEnd := .feed
  behind := ['\x00']
  lead_ends := rfl
  command_ne_nil := by decide
  command_oneLine := by decide
  headers_read := by
    rw [List.all_map, List.all_eq_true]
    exact fun h hmem => isHeader_of_mem_loginHeaders hmem

theorem line_headerText (name value : String) :
    line (headerText (name.toList, withoutLineEnds value)) .feed = headerLine name value := by
  rw [withoutLineEnds_eq, line, headerText, headerLine, LineEnd.returns, List.append_nil]

theorem flatMap_optional (name : String) (value : Option String) :
    (value.toList.map (fun v => (name.toList, withoutLineEnds v))).flatMap (fun h => line (headerText h) .feed) =
      optionalLine name value := by
  cases value with
  | none => rfl
  | some value =>
    rw [Option.toList_some, List.map_singleton, List.flatMap_singleton, line_headerText]
    rfl

theorem flatMap_loginHeaders (vhost : String) (login : StompLogin) :
    (loginHeaders vhost login).flatMap (fun h => line (headerText h) .feed) =
      line (headerText ("accept-version".toList, "1.2".toList)) .feed ++ headerLine "host" vhost ++
        optionalLine "login" login.login ++ optionalLine "passcode" login.passcode := by
  rw [loginHeaders, List.flatMap_append, List.flatMap_append, flatMap_optional, flatMap_optional, List.flatMap_cons,
    List.flatMap_singleton, line_headerText]

theorem chars_writtenLogin (vhost : String) (login : StompLogin) :
    (writtenLogin vhost login).chars = connectChars vhost login := by
  have hstart : line "STOMP".toList .feed ++ line (headerText ("accept-version".toList, "1.2".toList)) .feed =
      "STOMP\naccept-version:1.2\n".toList := by decide +kernel
  have hheaders : (writtenLogin vhost login).headers.flatMap (fun h => line (headerText h.1) h.2) =
      (loginHeaders vhost login).flatMap (fun h => line (headerText h) .feed) := List.flatMap_map ..
  calc (writtenLogin vhost login).chars
    _ = line "STOMP".toList .feed ++ (loginHeaders vhost login).flatMap (fun h => line (headerText h) .feed) ++
          line [] .feed ++ ['\x00'] := by
      rw [Written.chars, hheaders]
      rfl
    _ = line "STOMP".toList .feed ++ line (headerText ("accept-version".toList, "1.2".toList)) .feed ++
          headerLine "host" vhost ++ optionalLine "login" login.login ++ optionalLine "passcode" login.passcode ++
          (line [] .feed ++ ['\x00']) := by
      rw [flatMap_loginHeaders]
      simp only [List.append_assoc]
    _ = connectChars vhost login := congrArg (fun start => start ++ headerLine "host" vhost ++
          optionalLine "login" login.login ++ optionalLine "passcode" login.passcode ++ ['\n', '\x00']) hstart

/-- The frame that logs in reads back as what is configured, whatever characters that holds. -/
theorem login_read_back (vhost : String) (login : StompLogin) :
    Frame.parse? (Utf8.ofString (connectFrame vhost login)) = some ⟨"STOMP".toList, loginHeaders vhost login⟩ := by
  have hread := (writtenLogin vhost login).parse?_chars
  rw [chars_writtenLogin] at hread
  rw [Utf8.ofString, connectFrame, String.toList_ofList, hread]
  simp [Written.frame, writtenLogin, Function.comp_def]

end TargetHealth.Stomp
