import Meshloom.Redaction.FrameText

/-! The log text of secret frames. At the start of a line the rule of its site decides, and what
is left is the same for every frame of the code. Behind the time, the name and the level of a
line the rules are searched for, also in the text of the frame itself: what is left is the same
exactly when nothing in that text sets off another rule first. -/
namespace Meshloom.LogRedaction
open Bytes BytesLiteral Text TextSearch
variable (python : Python)

def eventTypeOf (code : UInt8) : List Char :=
  if code = 0x1D then cliReplyType else privateKeyType

/-- What is left of a frame in the log: the site and the code say all. -/
def shown (site : Site) (code : UInt8) : List Char :=
  match site with
  | .sendingRawData => codeHex code ++ ['.', '.', '.'] ++ redacted
  | .sendingPkt => redactedFrame ++ codeHex code ++ [']']
  | .dispatchingEvent => eventTypeOf code ++ [',', ' '] ++ redacted
  | _ => redacted

def Site.showsCode (site : Site) : Prop := site = .sendingRawData ∨ site = .sendingPkt

instance (site : Site) : Decidable site.showsCode := inferInstanceAs (Decidable (_ ∨ _))

/-- The sites whose rules stand before the site's own in the table. -/
def earlier (site : Site) : List Site := lineRules.takeWhile (· ≠ site)

/-- The letters that a rule begins with, and the line break. -/
def startLetters : List Char := ['S', 's', 'R', 'U', 'D', 'h', 'E', '\n']

def levels : List (List Char) :=
  ["DEBUG".toList, "INFO".toList, "WARNING".toList, "ERROR".toList, "CRITICAL".toList]

/-- What the fixed texts of the rules and of the log lines are checked for, one after the other. -/
structure FixedTexts : Prop where
  starts : ∀ site : Site, (∀ other ∈ earlier site, clearOf other.start site.start = true) ∧
    clearOf "Error in event handler for ".toList site.start = true ∧
    clearOf parseErrorStart site.start = true ∧ '\n' ∉ site.start ∧ site.start ≠ []
  types : ∀ type ∈ [cliReplyType, privateKeyType], '\n' ∉ type ∧
    clearOf "Error in event handler for ".toList (type ++ [',', ' ']) = true ∧
    clearOf parseErrorStart (type ++ [',', ' ']) = true
  typesApart : (cliReplyType ++ [',']).isPrefixOf privateKeyType = false ∧
    privateKeyType.isPrefixOf (cliReplyType ++ [',']) = false
  shown : ∀ site : Site, ∀ code ∈ secretOut ++ secretIn,
    (site.showsCode → shown site code ≠ redacted) ∧
      ∀ other ∈ earlier site, search (literal other.start) (shown site code) = none
  marks : ∀ site : Site, ∀ mark ∈ " - meshcore - ".toList :: levels.map (· ++ " - ".toList),
    clearOf site.start mark = true ∧ clearOf "Error in event handler for ".toList mark = true ∧
      clearOf parseErrorStart mark = true ∧ '\n' ∉ mark

theorem eventTypeOf_mem (code : UInt8) : eventTypeOf code ∈ [cliReplyType, privateKeyType] := by
  unfold eventTypeOf
  split
  · exact List.mem_cons_self
  · exact List.mem_cons_of_mem _ List.mem_cons_self

theorem fixedTexts : FixedTexts := by
  -- Each text as a list of its letters, as decoding it is what takes long in an evaluation.
  have cli : Site.start .sendingCliCommand = _ := String.toList_ofList
  have raw : Site.start .sendingRawData = _ := String.toList_ofList
  have pkt : Site.start .sendingPkt = _ := String.toList_ofList
  have data : Site.start .receivedData = _ := String.toList_ofList
  have key : Site.start .receivedPrivateKey = _ := String.toList_ofList
  have unhandled : Site.start .unhandledData = _ := String.toList_ofList
  have event : Site.start .dispatchingEvent = _ := String.toList_ofList
  have handler : "Error in event handler for ".toList = _ := String.toList_ofList
  have parse : parseErrorStart = _ := String.toList_ofList
  have reply : cliReplyType = _ := String.toList_ofList
  have exported : privateKeyType = _ := String.toList_ofList
  have hidden : redacted = _ := String.toList_ofList
  have frame : redactedFrame = _ := String.toList_ofList
  have name : " - meshcore - ".toList = _ := String.toList_ofList
  have debug : "DEBUG".toList = _ := String.toList_ofList
  have info : "INFO".toList = _ := String.toList_ofList
  have warning : "WARNING".toList = _ := String.toList_ofList
  have error : "ERROR".toList = _ := String.toList_ofList
  have critical : "CRITICAL".toList = _ := String.toList_ofList
  have dash : " - ".toList = _ := String.toList_ofList
  constructor
  case starts =>
    intro site
    cases site
    all_goals
      simp only [earlier, lineRules, List.takeWhile_cons, decide_not, List.forall_mem_cons, reduceCtorEq,
        decide_false, decide_true, Bool.not_false, Bool.not_true, if_true, Bool.false_eq_true, if_false,
        List.not_mem_nil, false_implies, implies_true, cli, raw, pkt, data, key, unhandled, event,
        handler, parse]
      decide +kernel
  case types =>
    simp only [reply, exported, handler, parse]
    decide +kernel
  case typesApart =>
    simp only [reply, exported]
    decide +kernel
  case shown =>
    intro site code member
    -- Only the digits of the code and the type of the event depend on the code.
    have digits : codeHex code ∈ [['4', '2'], ['1', '8'], ['1', 'd'], ['0', 'e']] := by
      revert code
      decide +kernel
    have named : eventTypeOf code ∈ [cliReplyType, privateKeyType] := eventTypeOf_mem code
    simp only [reply, exported] at named
    cases site
    all_goals
      simp only [earlier, lineRules, List.takeWhile_cons, decide_not, List.forall_mem_cons, reduceCtorEq,
        decide_false, decide_true, Bool.not_false, Bool.not_true, if_true, Bool.false_eq_true, if_false,
        List.not_mem_nil, false_implies, implies_true, shown, cli, raw, pkt, data, key, unhandled,
        hidden, frame]
      revert named
      generalize eventTypeOf code = type
      revert type
      revert digits
      generalize codeHex code = hex
      clear member code
      revert hex
      decide +kernel
  case marks =>
    intro site
    cases site
    all_goals
      simp only [levels, name, debug, info, warning, error, critical, dash, cli, raw, pkt, data, key,
        unhandled, event, handler, parse]
      decide +kernel

/-- A frame as it is logged: its digits, or its `repr`. -/
def Written (frame : List UInt8) (text : List Char) : Prop :=
  text = toHex frame ∨ text = bytesRepr frame ∨ text = bytearrayRepr frame

/-- What a site logs behind its start for a frame of the code. -/
inductive Logged : Site → UInt8 → List Char → Prop where
  /-- A command that is accepted has no line break. -/
  | cliCommand : '\n' ∉ text → Logged .sendingCliCommand 0x42 text
  | rawData : code ∈ secretOut → Written (code :: payload) text →
      Logged .sendingRawData code text
  /-- The serial header is a mark and the length. -/
  | pkt : code ∈ secretOut →
      text = bytesRepr (mark :: low :: high :: code :: payload) ∨
        text = bytearrayRepr (mark :: low :: high :: code :: payload) →
      Logged .sendingPkt code text
  | received : code ∈ secretIn → Logged .receivedData code (toHex (code :: payload))
  | privateKey : Logged .receivedPrivateKey 0x0E (toHex data)
  | unhandled : code ∈ secretIn → Written (code :: payload) text →
      Logged .unhandledData code text
  /-- The `repr` of a payload has no line break. -/
  | dispatching : code ∈ secretIn → '\n' ∉ rest →
      Logged .dispatchingEvent code (eventTypeOf code ++ [',', ' '] ++ rest)

/-- What the rule of a site puts behind the first occurrence of its start in a text. -/
def replacement (site : Site) (text : List Char) : Option (List Char) :=
  (search (literal site.start) text).bind fun n => site.rule python (text.drop n)

/-- Nothing in the logged text sets off another rule: no earlier rule of the table replaces
anything in what the rules over several lines leave of it, and where the code is shown they
leave it whole. -/
def Undisturbed (site : Site) (text : List Char) : Prop :=
  (site.showsCode → Uncut python text) ∧
    ∀ other ∈ earlier site, replacement python other (applyMultilineRules python true text) = none

theorem start_plain (site : Site) : (∀ other ∈ earlier site, clearOf other.start site.start = true) ∧
    clearOf "Error in event handler for ".toList site.start = true ∧
    clearOf parseErrorStart site.start = true ∧ '\n' ∉ site.start ∧ site.start ≠ [] :=
  fixedTexts.starts site

variable {python}

theorem lineRules_split (site : Site) : ∃ later, lineRules = earlier site ++ site :: later := by
  cases site
  all_goals exact ⟨_, rfl⟩

/-- A rule that replaces nothing is passed over. -/
theorem applyLineRules_skip {line : List Char} {before rest : List Site}
    (quiet : ∀ site ∈ before, replacement python site line = none) :
    applyLineRules python true line (before ++ rest) = applyLineRules python true line rest := by
  induction before with
  | nil => rfl
  | cons site before ih =>
      have skipped := ih fun other member => quiet other (List.mem_cons_of_mem _ member)
      have none := quiet site List.mem_cons_self
      simp only [List.cons_append, applyLineRules, occurrence, if_true]
      split
      · exact skipped
      · rename_i start found
        rw [replacement, found, Option.bind_some] at none
        rw [none]
        exact skipped

/-- Otherwise the line goes on to the start of one of them. -/
theorem applyLineRules_fire {line : List Char} {before rest : List Site}
    (loud : ∃ site ∈ before, replacement python site line ≠ none) :
    ∃ site ∈ before, ∃ n tail, search (literal site.start) line = some n ∧
      applyLineRules python true line (before ++ rest) = line.take n ++ tail := by
  induction before with
  | nil =>
      obtain ⟨_, member, _⟩ := loud
      contradiction
  | cons site before ih =>
      cases quiet : replacement python site line with
      | none =>
          have later : ∃ site ∈ before, replacement python site line ≠ none := by
            obtain ⟨other, member, fires⟩ := loud
            obtain rfl | member := List.mem_cons.mp member
            · exact absurd quiet fires
            · exact ⟨other, member, fires⟩
          obtain ⟨other, member, n, tail, found, result⟩ := ih later
          refine ⟨other, List.mem_cons_of_mem _ member, n, tail, found, ?_⟩
          have passed : applyLineRules python true line ([site] ++ (before ++ rest)) =
              applyLineRules python true line (before ++ rest) :=
            applyLineRules_skip (by simpa using quiet)
          rw [← result, ← passed]
          rfl
      | some tail =>
          obtain ⟨n, found, ruled⟩ := Option.bind_eq_some_iff.mp quiet
          refine ⟨site, List.mem_cons_self, n, tail, found, ?_⟩
          simp only [List.cons_append, applyLineRules, occurrence, if_true, found, ruled]

theorem replacement_append (clear : clearOf site.start head = true) (text : List Char) :
    replacement python site (head ++ text) = replacement python site text := by
  simp only [replacement, search_append (begins_literal site.start) clear]
  cases search (literal site.start) text with
  | none => rfl
  | some n => simp only [Option.map_some, Option.bind_some, drop_shift]

theorem applyMultilineRules_line (line : '\n' ∉ text) :
    '\n' ∉ applyMultilineRules python true text := by
  obtain same | cut := applyMultilineRules_shape python text
  · rwa [same]
  · exact (cut.tailed line).1

theorem redactText_line {message text : List Char} {unanchored : Bool} {site : Site}
    (kept : applyMultilineRules python unanchored message = text)
    (found : search (literal site.start) text ≠ none) (line : '\n' ∉ text) (snapshot : Snapshot) :
    redactText python snapshot unanchored message =
      scrubLiterals snapshot (applyLineRules python unanchored text lineRules) := by
  have some_rule : (lineRules.any fun site => (search (literal site.start) text).isSome) = true := by
    refine List.any_eq_true.mpr ⟨site, ?_, Option.isSome_iff_ne_none.mpr found⟩
    cases site <;> decide
  simp only [redactText, kept, some_rule, if_true, List.splitOn_eq_singleton line, List.map_cons,
    List.map_nil, List.intercalate_singleton]

/-- Behind a plain head the rules see what is left of the logged text. -/
theorem redactText_unanchored (plain : Plain head) (line : '\n' ∉ text) (site : Site)
    (snapshot : Snapshot) :
    redactText python snapshot true (head ++ site.start ++ text) = scrubLiterals snapshot
      (applyLineRules python true (head ++ site.start ++ applyMultilineRules python true text)
        lineRules) := by
  obtain ⟨_, handler, parse, start_line, _⟩ := start_plain site
  have found : search (literal site.start)
      (head ++ site.start ++ applyMultilineRules python true text) ≠ none := by
    rw [search_literal_append (plain.sites site)]
    nofun
  refine redactText_line (applyMultilineRules_append
    (clearOf_append plain.handlerError handler) (clearOf_append plain.parseError parse) text)
    found ?_ _
  simp only [List.mem_append, not_or]
  exact ⟨⟨plain.line, start_line⟩, applyMultilineRules_line line⟩

theorem earlier_clear (plain : Plain head) (member : other ∈ earlier site) :
    clearOf other.start (head ++ site.start) = true :=
  clearOf_append (plain.sites other) ((start_plain site).1 other member)

/-- If no earlier rule replaces anything, the rule of the site does. -/
theorem applyLineRules_own (plain : Plain head)
    (quiet : ∀ other ∈ earlier site, replacement python other kept = none)
    (ruled : site.rule python kept = some tail) :
    applyLineRules python true (head ++ site.start ++ kept) lineRules =
      head ++ site.start ++ tail := by
  obtain ⟨later, split⟩ := lineRules_split site
  have own := search_literal_append (plain.sites site) kept
  rw [← List.length_append] at own
  rw [split, applyLineRules_skip fun other member => by
    rw [replacement_append (earlier_clear plain member), quiet other member]]
  simp only [applyLineRules, occurrence, if_true, own, List.drop_left, ruled, List.take_left]

/-- If one does, its start is left in the line. -/
theorem applyLineRules_other (plain : Plain head)
    (loud : ∃ other ∈ earlier site, replacement python other kept ≠ none) :
    ∃ other ∈ earlier site, ∃ before tail,
      applyLineRules python true (head ++ site.start ++ kept) lineRules =
        head ++ site.start ++ (before ++ other.start ++ tail) := by
  obtain ⟨later, split⟩ := lineRules_split site
  have fires : ∃ other ∈ earlier site,
      replacement python other (head ++ site.start ++ kept) ≠ none := by
    obtain ⟨other, member, fires⟩ := loud
    exact ⟨other, member, by rwa [replacement_append (earlier_clear plain member)]⟩
  obtain ⟨other, member, n, tail, found, result⟩ := applyLineRules_fire fires
  rw [search_append (begins_literal other.start) (earlier_clear plain member)] at found
  obtain ⟨m, inner, rfl⟩ := Option.map_eq_some_iff.mp found
  obtain ⟨before, eq⟩ := take_search_literal inner
  refine ⟨other, member, before, tail, ?_⟩
  rw [split, result, take_shift, eq]
  simp

theorem blank_not_mem_toHex (data : List UInt8) : ' ' ∉ toHex data := fun member =>
  absurd (isHex_toHex data ' ' member).2 (by decide)

/-- Every match of the patterns over several lines has a blank. -/
theorem uncut_of_no_blank (solid : ' ' ∉ text) : Uncut python text := by
  have quiet {atStart : List Char → Option Nat}
      (blank : ∀ text n, atStart text = some n → ∃ before, text.take n = before ++ [' ']) :
      search atStart text = none := by
    cases found : search atStart text with
    | none => rfl
    | some n =>
        obtain ⟨before, eq⟩ := search_blank blank found
        have member : ' ' ∈ text.take n := by simp [eq]
        exact absurd (List.mem_of_mem_take member) solid
  exact ⟨quiet fun _ _ => handlerError_blank, quiet fun _ _ => parseError_blank⟩

theorem Cut.blank_mem (cut : Cut text kept) : ' ' ∈ text := by
  obtain ⟨before, begins, _⟩ := cut
  exact begins.subset (by simp)

theorem Written.parse (written : Written (code :: rest) text) :
    parseFrame python text = some (code :: rest) := by
  obtain rfl | rfl | rfl := written
  · simp only [parseFrame, parseHex_toHex]
  · simp only [parseFrame, (framed_bytesRepr _).parseHex, parseBytesLiteral_bytesRepr]
  · simp only [parseFrame, (framed_bytearrayRepr _).parseHex, parseBytesLiteral_bytearrayRepr]

theorem Written.parse_cut (written : Written frame text) (cut : Cut text kept) :
    parseFrame python kept = none := by
  obtain rfl | rfl | rfl := written
  · exact absurd cut.blank_mem (blank_not_mem_toHex frame)
  · obtain ⟨hex, literal⟩ := parse_cut_bytesRepr python cut
    simp only [parseFrame, hex, literal]
  · obtain ⟨hex, literal⟩ := parse_cut_bytearrayRepr python cut
    simp only [parseFrame, hex, literal]

/-- A pattern that occurs in a written frame cuts it. -/
theorem Written.cut (written : Written frame text) (pattern : ¬ Uncut python text) :
    Cut text (applyMultilineRules python true text) := by
  obtain rfl | rfl | rfl := written
  · exact absurd (uncut_of_no_blank (blank_not_mem_toHex frame)) pattern
  · exact cut_of_not_uncut (tailed_bytesRepr frame) pattern
  · exact cut_of_not_uncut (tailed_bytearrayRepr frame) pattern

theorem newline_not_mem_toHex (data : List UInt8) : '\n' ∉ toHex data := fun member =>
  absurd (isHex_toHex data '\n' member).2 (by decide)

theorem Written.line (written : Written frame text) : '\n' ∉ text := by
  obtain rfl | rfl | rfl := written
  · exact newline_not_mem_toHex frame
  · exact (tailed_bytesRepr frame).1
  · exact (tailed_bytearrayRepr frame).1

theorem Logged.line (logged : Logged site code text) : '\n' ∉ text := by
  cases logged with
  | cliCommand line => exact line
  | rawData _ written => exact written.line
  | pkt _ written => exact Written.line (.inr written)
  | received _ => exact newline_not_mem_toHex _
  | privateKey => exact newline_not_mem_toHex _
  | unhandled _ written => exact written.line
  | dispatching _ line =>
      have named : '\n' ∉ eventTypeOf code := (fixedTexts.types _ (eventTypeOf_mem code)).1
      simp [named, line]

theorem ruleDispatch_named (secret : code ∈ secretIn) (rest : List Char) :
    ruleDispatch (eventTypeOf code ++ [',', ' '] ++ rest) = some (shown .dispatchingEvent code) := by
  have reply : (cliReplyType ++ [',']).isPrefixOf
      (cliReplyType ++ [',', ' '] ++ rest) = true :=
    List.isPrefixOf_iff_prefix.mpr ⟨' ' :: rest, by simp⟩
  have key : (privateKeyType ++ [',']).isPrefixOf
      (privateKeyType ++ [',', ' '] ++ rest) = true :=
    List.isPrefixOf_iff_prefix.mpr ⟨' ' :: rest, by simp⟩
  have apart : (cliReplyType ++ [',']).isPrefixOf
      (privateKeyType ++ [',', ' '] ++ rest) = false := by
    obtain ⟨forward, backward⟩ := fixedTexts.typesApart
    have other := not_prefix_append forward backward ([',', ' '] ++ rest)
    rwa [← List.append_assoc, ← List.isPrefixOf_iff_prefix, Bool.not_eq_true] at other
  simp only [secretIn, List.mem_cons, List.not_mem_nil, or_false] at secret
  obtain rfl | rfl := secret
  · have named : eventTypeOf 0x1D = cliReplyType := if_pos rfl
    simp only [ruleDispatch, secretEventTypes, shown, named, List.find?_cons, reply, Option.map_some]
  · have named : eventTypeOf 0x0E = privateKeyType := if_neg (by decide)
    simp only [ruleDispatch, secretEventTypes, shown, named, List.find?_cons, apart, key,
      Option.map_some]

/-- The rule of the site, on the text as it is logged. -/
theorem Logged.rule (logged : Logged site code text) :
    site.rule python text = some (shown site code) := by
  cases logged with
  | cliCommand _ => simp only [Site.rule, ruleCliCommand, shown]
  | rawData secret written =>
      simp only [Site.rule, ruleRawData, written.parse, if_pos secret, shown]
  | pkt secret written =>
      obtain rfl | rfl := written
      · simp only [Site.rule, ruleSendingPkt, parseBytesLiteral_bytesRepr, if_pos secret, shown]
      · simp only [Site.rule, ruleSendingPkt, parseBytesLiteral_bytearrayRepr, if_pos secret, shown]
  | received secret =>
      simp only [Site.rule, ruleReceivedHex, parseHex_toHex, if_pos secret, shown]
  | privateKey => simp only [Site.rule, ruleReceivedPrivateKey, shown]
  | unhandled secret written =>
      simp only [Site.rule, ruleUnhandled, written.parse, if_pos secret, shown]
  | dispatching secret _ => exact ruleDispatch_named secret _

/-- And on what the rules over several lines leave of it, which shows less at the most. -/
theorem Logged.rule_kept (logged : Logged site code text) (whole : site.showsCode → Uncut python text) :
    site.rule python (applyMultilineRules python true text) = some (shown site code) := by
  obtain same | cut := applyMultilineRules_shape python text
  · rw [same]
    exact logged.rule
  · cases logged with
    | cliCommand _ => simp only [Site.rule, ruleCliCommand, shown]
    | rawData secret written =>
        rw [(whole (.inl rfl)).kept]
        exact (Logged.rawData secret written).rule
    | pkt secret written =>
        rw [(whole (.inr rfl)).kept]
        exact (Logged.pkt secret written).rule
    | received _ => exact absurd cut.blank_mem (blank_not_mem_toHex _)
    | privateKey => simp only [Site.rule, ruleReceivedPrivateKey, shown]
    | unhandled _ written => simp only [Site.rule, ruleUnhandled, written.parse_cut cut, shown]
    | dispatching secret _ =>
        have clear := (fixedTexts.types _ (eventTypeOf_mem code)).2
        rw [applyMultilineRules_append clear.1 clear.2]
        exact ruleDispatch_named secret _

/-- Where the code is shown, a frame that is cut cannot be read any more. -/
theorem Logged.rule_cut (logged : Logged site code text) (shows : site.showsCode)
    (pattern : ¬ Uncut python text) :
    site.rule python (applyMultilineRules python true text) = some redacted := by
  obtain rfl | rfl := shows
  · cases logged with
    | rawData _ written =>
        simp only [Site.rule, ruleRawData, written.parse_cut (written.cut pattern)]
  · cases logged with
    | pkt _ written =>
        have cut := Written.cut (.inr written) pattern
        have unread : parseBytesLiteral python (applyMultilineRules python true text) = none := by
          obtain rfl | rfl := written
          · exact (parse_cut_bytesRepr python cut).2
          · exact (parse_cut_bytearrayRepr python cut).2
        simp only [Site.rule, ruleSendingPkt, unread]

theorem Logged.secret (logged : Logged site code text) : code ∈ secretOut ++ secretIn := by
  cases logged with
  | cliCommand _ | privateKey => decide
  | rawData secret _ | pkt secret _ => exact List.mem_append_left _ secret
  | received secret | unhandled secret _ | dispatching secret _ =>
      exact List.mem_append_right _ secret

/-- What is shown tells such a frame apart, and has no start of an earlier rule in it. -/
theorem shown_apart (site : Site) : ∀ code ∈ secretOut ++ secretIn,
    (site.showsCode → shown site code ≠ redacted) ∧
      ∀ other ∈ earlier site, search (literal other.start) (shown site code) = none :=
  fixedTexts.shown site

theorem plain_of_letters (absent : ∀ c ∈ head, c ∉ startLetters) : Plain head := by
  have lacks {c : Char} (letter : c ∈ startLetters) : c ∉ head := fun member =>
    absent c member letter
  have clear {start : List Char} (letter : ∃ c rest, start = c :: rest ∧ c ∈ startLetters) :
      clearOf start head = true := by
    obtain ⟨c, rest, rfl, letter⟩ := letter
    exact clearOf_of_head (lacks letter)
  refine ⟨fun site => clear ?_, clear ?_, clear ?_, lacks (by decide)⟩
  · cases site <;> exact ⟨_, _, String.toList_ofList, by decide⟩
  · exact ⟨_, _, String.toList_ofList, by decide⟩
  · exact ⟨_, _, String.toList_ofList, by decide⟩

theorem Plain.append (first : Plain a) (second : Plain b) : Plain (a ++ b) where
  sites site := clearOf_append (first.sites site) (second.sites site)
  handlerError := clearOf_append first.handlerError second.handlerError
  parseError := clearOf_append first.parseError second.parseError
  line := by
    simp only [List.mem_append, not_or]
    exact ⟨first.line, second.line⟩

/-- The head of a line of the `meshcore` logger: the time is digits and marks. -/
theorem plain_stamp (time : List Char) (marks : ∀ c ∈ time, c ∉ startLetters)
    (level : List Char) (known : level ∈ levels) :
    Plain (time ++ " - meshcore - ".toList ++ (level ++ " - ".toList)) := by
  have plain {mark : List Char}
      (fixed : mark ∈ " - meshcore - ".toList :: levels.map (· ++ " - ".toList)) : Plain mark := by
    have each (site : Site) := fixedTexts.marks site mark fixed
    exact ⟨fun site => (each site).1, (each .sendingPkt).2.1, (each .sendingPkt).2.2.1,
      (each .sendingPkt).2.2.2⟩
  have name : Plain " - meshcore - ".toList := plain List.mem_cons_self
  have leveled : Plain (level ++ " - ".toList) :=
    plain (List.mem_cons_of_mem _ (List.mem_map_of_mem known))
  exact ((plain_of_letters marks).append name).append leveled

/-- At the start of a message the rule of the site is the only one that matches. -/
theorem redactText_anchored (logged : Logged site code text) (snapshot : Snapshot) :
    redactText python snapshot false (site.start ++ text) =
      scrubLiterals snapshot (site.start ++ shown site code) := by
  obtain ⟨others, handler, parse, start_line, nonempty⟩ := start_plain site
  have kept : applyMultilineRules python false (site.start ++ text) = site.start ++ text := by
    have unhandled := atStart_append begins_handlerError handler nonempty text
    have unparsed := atStart_append (@begins_parseError python) parse nonempty text
    simp [applyMultilineRules, cutHandlerError, cutParseError, occurrence, unhandled, unparsed]
  have found : search (literal site.start) (site.start ++ text) ≠ none := by
    have here := search_literal_append (show clearOf site.start [] = true from rfl) text
    rw [List.nil_append] at here
    rw [here]
    exact Option.some_ne_none _
  have line : '\n' ∉ site.start ++ text := by
    simp only [List.mem_append, not_or]
    exact ⟨start_line, logged.line⟩
  have passed : ∀ before : List Site, (∀ other ∈ before, other ∈ earlier site) → ∀ later,
      applyLineRules python false (site.start ++ text) (before ++ site :: later) =
        site.start ++ shown site code := by
    intro before member later
    induction before with
    | nil =>
        simp [applyLineRules, occurrence, literal_append, logged.rule]
    | cons other before ih =>
        have apart := atStart_append (begins_literal other.start)
          (others other (member other List.mem_cons_self)) nonempty text
        simp only [List.cons_append, applyLineRules, occurrence, Bool.false_eq_true, if_false, apart]
        exact ih fun inner inside => member inner (List.mem_cons_of_mem _ inside)
  obtain ⟨later, split⟩ := lineRules_split site
  rw [redactText_line kept found line, split, passed _ (fun _ member => member)]

theorem scrubLiterals_nil (text : List Char) : scrubLiterals [] text = text := rfl

/-- Undisturbed, the line shows the site and the code only. -/
theorem redactText_undisturbed (plain : Plain head) (logged : Logged site code text)
    (quiet : Undisturbed python site text) (snapshot : Snapshot) :
    redactText python snapshot true (head ++ site.start ++ text) =
      scrubLiterals snapshot (head ++ site.start ++ shown site code) := by
  rw [redactText_unanchored plain logged.line,
    applyLineRules_own plain quiet.2 (logged.rule_kept quiet.1)]

/-- Disturbed, it shows something else. -/
theorem undisturbed_of_redactText (plain : Plain head) (logged : Logged site code text)
    (same : redactText python [] true (head ++ site.start ++ text) =
      head ++ site.start ++ shown site code) : Undisturbed python site text := by
  rw [redactText_unanchored plain logged.line, scrubLiterals_nil] at same
  obtain ⟨apart, unnamed⟩ := shown_apart site code logged.secret
  have quiet : ∀ other ∈ earlier site,
      replacement python other (applyMultilineRules python true text) = none := by
    by_contra loud
    push Not at loud
    obtain ⟨other, member, before, tail, result⟩ := applyLineRules_other plain loud
    rw [result, List.append_right_inj] at same
    have suffix : other.start ++ tail <:+ shown site code :=
      ⟨before, by rw [← same, List.append_assoc]⟩
    have here := search_eq_none (unnamed other member) suffix
    rw [literal_append] at here
    contradiction
  refine ⟨fun shows => ?_, quiet⟩
  by_contra pattern
  rw [applyLineRules_own plain quiet (logged.rule_cut shows pattern), List.append_right_inj] at same
  exact apart shows same.symm

/-- What is left of a secret frame in the log depends on the site and the code only: at the
start of a message always, and behind a plain head exactly when nothing in the logged text sets
off another rule. -/
theorem redacted_same_iff (python : Python) (plain : Plain head) (logged : Logged site code text) :
    (∀ snapshot, redactText python snapshot false (site.start ++ text) =
      scrubLiterals snapshot (site.start ++ shown site code)) ∧
    ((∀ snapshot, redactText python snapshot true (head ++ site.start ++ text) =
      scrubLiterals snapshot (head ++ site.start ++ shown site code)) ↔
        Undisturbed python site text) :=
  ⟨redactText_anchored logged,
    fun same => undisturbed_of_redactText plain logged (same []),
    redactText_undisturbed plain logged⟩

def asciiPython : Python := ⟨.asciiOnly, .plain⟩

def stamp : List Char :=
  "2026-01-01 12:00:00".toList ++ " - meshcore - ".toList ++ ("DEBUG".toList ++ " - ".toList)

theorem stamp_plain : Plain stamp := by
  have marks : "2026-01-01 12:00:00".toList.all (fun c => decide (c ∉ startLetters)) = true := by
    decide +kernel
  refine plain_stamp _ (fun c member => ?_) _ (by decide +kernel)
  exact of_decide_eq_true (List.all_eq_true.mp marks c member)

/-- The frame of a command with its tag. -/
def commandFrame (text : String) : List UInt8 :=
  0x42 :: text.toList.map fun c => UInt8.ofNat c.toNat

theorem commandFrame_logged (text : String) :
    Logged .sendingRawData 0x42 (bytearrayRepr (commandFrame text)) :=
  .rawData (by decide) (.inr (.inr rfl))

/-- The password is not shown. -/
theorem password_hidden :
    redactText asciiPython [] true (stamp ++ Site.start .sendingRawData ++
      bytearrayRepr (commandFrame "ab|set wifi.pwd hunter2")) =
    stamp ++ Site.start .sendingRawData ++ shown .sendingRawData 0x42 := by
  have undisturbed : Undisturbed asciiPython .sendingRawData
      (bytearrayRepr (commandFrame "ab|set wifi.pwd hunter2")) :=
    ⟨fun _ => ⟨by decide +kernel, by decide +kernel⟩, by decide +kernel⟩
  exact (redacted_same_iff asciiPython stamp_plain (commandFrame_logged _)).2.mpr undisturbed []

/-- A password with the start of an earlier rule in it is shown up to there, unlike another. -/
theorem password_leaks : Plain stamp ∧
    Logged .sendingRawData 0x42 (bytearrayRepr
      (commandFrame "ab|set wifi.pwd hunter2Sending cli command: ")) ∧
    Logged .sendingRawData 0x42 (bytearrayRepr (commandFrame "ab|set wifi.pwd hunter2")) ∧
    redactText asciiPython [] true (stamp ++ Site.start .sendingRawData ++ bytearrayRepr
      (commandFrame "ab|set wifi.pwd hunter2Sending cli command: ")) =
      stamp ++ Site.start .sendingRawData ++
        "bytearray(b'Bab|set wifi.pwd hunter2Sending cli command: [redacted]".toList ∧
    redactText asciiPython [] true (stamp ++ Site.start .sendingRawData ++ bytearrayRepr
      (commandFrame "ab|set wifi.pwd hunter2")) =
      stamp ++ Site.start .sendingRawData ++ "42...[redacted]".toList :=
  ⟨stamp_plain, commandFrame_logged _, commandFrame_logged _, by decide +kernel, by decide +kernel⟩

end Meshloom.LogRedaction
