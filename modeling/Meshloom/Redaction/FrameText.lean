import Meshloom.Redaction.LogRedactionProofs

/-! The texts of a frame, its digits and its `repr`, and what the parsers of the rules say of
them and of such a text that a rule over several lines has cut. -/
namespace Meshloom.LogRedaction
open Bytes BytesLiteral Text TextSearch
variable {python : Python}

theorem isHex_hexDigit : ∀ n < 16, isHex (hexDigit n) = true ∧ isSpace (hexDigit n) = false := by
  decide

theorem isHex_toHex (data : List UInt8) :
    ∀ c ∈ Bytes.toHex data, isHex c = true ∧ isSpace c = false := by
  intro c member
  obtain ⟨byte, _, member⟩ := List.mem_flatMap.mp member
  have bound := byte.toNat_lt
  simp only [List.mem_cons, List.not_mem_nil, or_false] at member
  obtain rfl | rfl := member
  · exact isHex_hexDigit _ (by omega)
  · exact isHex_hexDigit _ (by omega)

theorem parseHex_toHex (code : UInt8) (rest : List UInt8) :
    parseHex (Bytes.toHex (code :: rest)) = some (code :: rest) := by
  have solid := isHex_toHex (code :: rest)
  have stripped : strip (Bytes.toHex (code :: rest)) = Bytes.toHex (code :: rest) :=
    strip_fixed (fun c first => (solid c (List.mem_of_head? first)).2)
      (fun c last => (solid c (List.mem_of_getLast? last)).2)
  have hex : (Bytes.toHex (code :: rest)).all isHex = true :=
    List.all_eq_true.mpr fun c member => (solid c member).1
  have nonempty : Bytes.toHex (code :: rest) ≠ [] := by
    rw [Bytes.toHex_cons]
    nofun
  simp only [parseHex, stripped]
  rw [if_neg (by simp [nonempty, hex]), Bytes.fromHex_toHex]

/-- A text from a letter to a character that is neither a digit nor a blank. -/
structure Framed (text : List Char) (first last : Char) : Prop where
  head : text.head? = some first
  tail : text.getLast? = some last
  solid : isSpace first = false ∧ isSpace last = false
  other : isHex last = false

theorem Framed.strip (framed : Framed text first last) : Text.strip text = text := by
  refine strip_fixed (fun c found => ?_) (fun c found => ?_)
  · rw [framed.head] at found
    cases found
    exact framed.solid.1
  · rw [framed.tail] at found
    cases found
    exact framed.solid.2

theorem Framed.parseHex (framed : Framed text first last) : parseHex text = none := by
  have mixed : text.all isHex = false := by
    rw [Bool.eq_false_iff, ne_eq, List.all_eq_true]
    intro digits
    have digit := digits last (List.mem_of_getLast? framed.tail)
    rw [framed.other] at digit
    contradiction
  simp only [LogRedaction.parseHex, framed.strip, mixed, or_true, if_true]

theorem framed_bytesRepr (data : List UInt8) : Framed (bytesRepr data) 'b' (quoteOf data) := by
  refine ⟨rfl, ?_, ⟨by decide, ?_⟩, ?_⟩
  · simp only [bytesRepr]
    rw [← List.cons_append, ← List.cons_append, List.getLast?_concat]
  all_goals
    obtain quote | quote := isQuote_quoteOf data
    all_goals
      rw [quote]
      decide

theorem framed_bytearrayRepr (data : List UInt8) : Framed (bytearrayRepr data) 'b' ')' := by
  refine ⟨rfl, ?_, by decide, by decide⟩
  rw [bytearrayRepr, List.getLast?_concat]

theorem unwrap_other (other : bytearrayOpening.isPrefixOf text = false) :
    unwrapBytearray text = text := by
  simp only [unwrapBytearray, other, Bool.false_eq_true, false_and, if_false]

theorem not_bytearray_quote (quoted : IsQuote quote) (rest : List Char) :
    bytearrayOpening.isPrefixOf ('b' :: quote :: rest) = false := by
  obtain rfl | rfl := quoted <;> rfl

/-- A literal is what is evaluated. -/
theorem opens_literal (quoted : IsQuote quote) (rest : List Char) :
    ['b', '\''].isPrefixOf ('b' :: quote :: rest) = true ∨
      ['b', '"'].isPrefixOf ('b' :: quote :: rest) = true := by
  obtain rfl | rfl := quoted
  · exact .inl rfl
  · exact .inr rfl

theorem parseBytesLiteral_bytesRepr (data : List UInt8) :
    parseBytesLiteral python (bytesRepr data) = some data := by
  have quoted := isQuote_quoteOf data
  have unwrapped : unwrapBytearray (bytesRepr data) = bytesRepr data :=
    unwrap_other (not_bytearray_quote quoted _)
  simp only [parseBytesLiteral, (framed_bytesRepr data).strip, unwrapped]
  rw [bytesRepr, if_pos (opens_literal quoted _)]
  exact python.literalEval.reads data

theorem parseBytesLiteral_bytearrayRepr (data : List UInt8) :
    parseBytesLiteral python (bytearrayRepr data) = some data := by
  have unwrapped : unwrapBytearray (bytearrayRepr data) = bytesRepr data := by
    have opened : bytearrayOpening.isPrefixOf (bytearrayRepr data) = true := by
      rw [List.isPrefixOf_iff_prefix, bytearrayRepr, List.append_assoc]
      exact List.prefix_append _ _
    simp only [unwrapBytearray, opened, (framed_bytearrayRepr data).tail, and_self, if_true]
    rw [bytearrayRepr, List.append_assoc, List.drop_left, List.dropLast_concat]
  simp only [parseBytesLiteral, (framed_bytearrayRepr data).strip, unwrapped]
  rw [bytesRepr, if_pos (opens_literal (isQuote_quoteOf data) _)]
  exact python.literalEval.reads data

theorem tailed_bytesRepr (data : List UInt8) : Tailed (bytesRepr data) := by
  have quoted := isQuote_quoteOf data
  have plain : '\n' ≠ quoteOf data := by obtain quote | quote := quoted <;> rw [quote] <;> decide
  refine ⟨?_, fun c last => ?_⟩
  · simp [bytesRepr, plain, newline_not_mem_body quoted data]
  · rw [(framed_bytesRepr data).tail] at last
    cases last
    obtain quote | quote := quoted <;> rw [quote] <;> decide

theorem tailed_bytearrayRepr (data : List UInt8) : Tailed (bytearrayRepr data) := by
  refine ⟨?_, fun c last => ?_⟩
  · have inner := (tailed_bytesRepr data).1
    have outer : '\n' ∉ bytearrayOpening := by decide
    simp only [bytearrayRepr, List.mem_append, not_or]
    exact ⟨⟨outer, inner⟩, by decide⟩
  · rw [(framed_bytearrayRepr data).tail] at last
    cases last
    decide

/-- What is left of a cut text still begins as it did, and ends with the mark. -/
theorem Cut.framed (cut : Cut (c :: d :: text) kept) (blank : c ≠ ' ' ∧ d ≠ ' ')
    (solid : isSpace c = false) : Framed kept c ']' ∧ ∃ before, before ++ [' '] <+: text ∧
      kept = c :: d :: (before ++ [' '] ++ redacted) := by
  obtain ⟨before, begins, rfl⟩ := cut
  cases before with
  | nil =>
      obtain ⟨tail, eq⟩ := begins
      cases eq
      exact absurd rfl blank.1
  | cons c' before =>
      cases before with
      | nil =>
          obtain ⟨tail, eq⟩ := begins
          cases eq
          exact absurd rfl blank.2
      | cons d' before =>
          simp only [List.cons_append, List.cons_prefix_cons] at begins
          obtain ⟨rfl, rfl, begins⟩ := begins
          refine ⟨⟨rfl, ?_, ⟨solid, by decide⟩, by decide⟩, before, begins, rfl⟩
          have ends : redacted.getLast? = some ']' := by decide +kernel
          rw [List.getLast?_append, ends, Option.some_or]

/-- A literal that is cut is not read. -/
theorem parse_cut_bytesRepr (python : Python) (cut : Cut (bytesRepr data) kept) :
    parseHex kept = none ∧ parseBytesLiteral python kept = none := by
  have quoted := isQuote_quoteOf data
  have solid : quoteOf data ≠ ' ' := by obtain quote | quote := quoted <;> rw [quote] <;> decide
  have quiet : quoteOf data ∉ redacted := by
    obtain quote | quote := quoted <;> rw [quote] <;> decide +kernel
  obtain ⟨framed, before, begins, rfl⟩ := cut.framed ⟨by decide, solid⟩ (by decide)
  refine ⟨framed.parseHex, ?_⟩
  obtain ⟨tail, eq⟩ := prefix_of_quiet begins (by simpa using Ne.symm solid)
  have whole : unclosed (quoteOf data) (before ++ [' '] ++ tail) = true := by
    have open_ := unclosed_body quoted data []
    rwa [List.append_nil, ← eq] at open_
  have unwrapped := unwrap_other (not_bytearray_quote quoted (before ++ [' '] ++ redacted))
  simp only [parseBytesLiteral, framed.strip, unwrapped]
  rw [if_pos (opens_literal quoted _)]
  exact python.literalEval.unterminated _ _ quoted (unclosed_cut quoted whole quiet)

theorem parse_cut_bytearrayRepr (python : Python) (cut : Cut (bytearrayRepr data) kept) :
    parseHex kept = none ∧ parseBytesLiteral python kept = none := by
  have opening : bytearrayRepr data =
      'b' :: 'y' :: (bytearrayOpening.drop 2 ++ bytesRepr data ++ [')']) := rfl
  rw [opening] at cut
  obtain ⟨framed, before, _, rfl⟩ := cut.framed (by decide) (by decide)
  refine ⟨framed.parseHex, ?_⟩
  have unwrapped : unwrapBytearray ('b' :: 'y' :: (before ++ [' '] ++ redacted)) =
      'b' :: 'y' :: (before ++ [' '] ++ redacted) := by
    simp only [unwrapBytearray, framed.tail]
    rw [if_neg]
    rintro ⟨_, same⟩
    cases same
  simp only [parseBytesLiteral, framed.strip, unwrapped]
  rw [if_neg (by simp [List.isPrefixOf])]

end Meshloom.LogRedaction
