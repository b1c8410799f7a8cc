import Mathlib.Data.List.Basic

/-! Format strings: text with replacement fields in braces and doubled braces for single ones, read
as `string.Formatter().parse` and `str.format` read them. The reader takes one character at a
time; what it has read of the literal text stands in its mode until the chunk is complete. -/
namespace Meshloom.FormatString

/-- A replacement field: a name, the character behind `!` and the text behind `:`. -/
structure Field where
  name : List Char
  conversion : Option Char
  spec : List Char
  deriving DecidableEq, Repr

/-- Literal text and the field that ends it. A doubled brace ends a chunk without a field. -/
structure Chunk where
  literal : List Char
  field : Option Field
  deriving DecidableEq, Repr

inductive Mode where
  | literal (text : List Char)
  | opened (text : List Char)
  | closed (text : List Char)
  | name (text name : List Char)
  | bracket (text name : List Char)
  | conversion (text name : List Char)
  | converted (text name : List Char) (conversion : Char)
  | spec (text name : List Char) (conversion : Option Char) (depth : Nat) (spec : List Char)

/-- A character of a field name. -/
def nameStep (text name : List Char) (c : Char) : Except String (Option Chunk × Mode) :=
  if c = '\x7b' then .error "unexpected '\x7b' in field name"
  else if c = '[' then .ok (none, .bracket text (name ++ [c]))
  else if c = '\x7d' then .ok (some ⟨text, some ⟨name, none, []⟩⟩, .literal [])
  else if c = ':' then .ok (none, .spec text name none 1 [])
  else if c = '!' then .ok (none, .conversion text name)
  else .ok (none, .name text (name ++ [c]))

def step (mode : Mode) (c : Char) : Except String (Option Chunk × Mode) :=
  match mode with
  | .literal text =>
    if c = '\x7b' then .ok (none, .opened text)
    else if c = '\x7d' then .ok (none, .closed text)
    else .ok (none, .literal (text ++ [c]))
  | .opened text =>
    if c = '\x7b' then .ok (some ⟨text ++ ['\x7b'], none⟩, .literal [])
    else nameStep text [] c
  | .closed text =>
    if c = '\x7d' then .ok (some ⟨text ++ ['\x7d'], none⟩, .literal [])
    else .error "Single '\x7d' encountered in format string"
  | .name text name => nameStep text name c
  | .bracket text name =>
    if c = ']' then .ok (none, .name text (name ++ [c]))
    else .ok (none, .bracket text (name ++ [c]))
  | .conversion text name => .ok (none, .converted text name c)
  | .converted text name conversion =>
    if c = '\x7d' then .ok (some ⟨text, some ⟨name, some conversion, []⟩⟩, .literal [])
    else if c = ':' then .ok (none, .spec text name (some conversion) 1 [])
    else .error "expected ':' after conversion specifier"
  | .spec text name conversion depth spec =>
    if c = '\x7b' then .ok (none, .spec text name conversion (depth + 1) (spec ++ [c]))
    else if c = '\x7d' then
      if depth = 1 then .ok (some ⟨text, some ⟨name, conversion, spec⟩⟩, .literal [])
      else .ok (none, .spec text name conversion (depth - 1) (spec ++ [c]))
    else .ok (none, .spec text name conversion depth (spec ++ [c]))

/-- What the end of the text leaves: a last chunk, or an error. -/
def atEnd : Mode → List Chunk × Option String
  | .literal [] => ([], none)
  | .literal text => ([⟨text, none⟩], none)
  | .opened _ => ([], some "Single '\x7b' encountered in format string")
  | .closed _ => ([], some "Single '\x7d' encountered in format string")
  | .name _ _ | .bracket _ _ => ([], some "expected '\x7d' before end of string")
  | .conversion _ _ => ([], some "end of string while looking for conversion specifier")
  | .converted _ _ _ | .spec _ _ _ _ _ => ([], some "unmatched '\x7b' in format spec")

/-- The chunks in order, with the error that ends them. -/
def read : Mode → List Char → List Chunk × Option String
  | mode, [] => atEnd mode
  | mode, c :: rest =>
    match step mode c with
    | .error message => ([], some message)
    | .ok (chunk, mode) =>
      let (chunks, failure) := read mode rest
      (chunk.toList ++ chunks, failure)

def parse (text : List Char) : List Chunk × Option String := read (.literal []) text

/-- The text of the chunks with a text for each field. -/
def fill (replace : Field → Except String (List Char)) : List Chunk → Except String (List Char)
  | [] => .ok []
  | ⟨literal, none⟩ :: rest => (fill replace rest).map (literal ++ ·)
  | ⟨literal, some field⟩ :: rest => do
    let value ← replace field
    let more ← fill replace rest
    return literal ++ value ++ more

/-- A loop over the chunks: the first field that fails ends it, else the error of the reader. -/
def expandFrom (replace : Field → Except String (List Char)) (mode : Mode) (text : List Char) :
    Except String (List Char) := do
  let filled ← fill replace (read mode text).1
  match (read mode text).2 with
  | none => return filled
  | some message => throw message

def expand (replace : Field → Except String (List Char)) (text : List Char) :
    Except String (List Char) :=
  expandFrom replace (.literal []) text

/-- A template: characters of literal text, and fields without a conversion or a spec. -/
inductive Piece where
  | char (c : Char)
  | field (name : List Char)
  deriving DecidableEq, Repr

/-- How a piece is written: a brace of the text is doubled. -/
def Piece.encode : Piece → List Char
  | .char c => if c = '\x7b' ∨ c = '\x7d' then [c, c] else [c]
  | .field name => '\x7b' :: name ++ ['\x7d']

def encode (pieces : List Piece) : List Char := pieces.flatMap Piece.encode

/-- A name that the reader takes as it stands. -/
def PlainName (name : List Char) : Prop := ∀ c ∈ name, c ∉ ['\x7b', '\x7d', '[', ':', '!']

/-- The text of a template with a text for each field. -/
def emit (replace : Field → Except String (List Char)) : List Piece → Except String (List Char)
  | [] => .ok []
  | .char c :: rest => (emit replace rest).map (c :: ·)
  | .field name :: rest => do
    let value ← replace ⟨name, none, []⟩
    let more ← emit replace rest
    return value ++ more

variable {replace : Field → Except String (List Char)} {mode next : Mode} {c : Char}
  {text rest : List Char}

/-- The same mode with more literal text before. -/
def Mode.front (before : List Char) : Mode → Mode
  | .literal text => .literal (before ++ text)
  | .opened text => .opened (before ++ text)
  | .closed text => .closed (before ++ text)
  | .name text read => .name (before ++ text) read
  | .bracket text read => .bracket (before ++ text) read
  | .conversion text read => .conversion (before ++ text) read
  | .converted text read c => .converted (before ++ text) read c
  | .spec text read c depth more => .spec (before ++ text) read c depth more

theorem expandFrom_error (stepped : step mode c = .error message) :
    expandFrom replace mode (c :: rest) = .error message := by
  simp only [expandFrom, read, stepped, fill]
  rfl

theorem expandFrom_none (stepped : step mode c = .ok (none, next)) :
    expandFrom replace mode (c :: rest) = expandFrom replace next rest := by
  simp only [expandFrom, read, stepped, Option.toList_none, List.nil_append]

theorem expandFrom_literal (stepped : step mode c = .ok (some ⟨text, none⟩, next)) :
    expandFrom replace mode (c :: rest) = (expandFrom replace next rest).map (text ++ ·) := by
  simp only [expandFrom, read, stepped, Option.toList_some, List.singleton_append, fill]
  cases fill replace (read next rest).1 with
  | error message => rfl
  | ok filled =>
      cases (read next rest).2 with
      | none => rfl
      | some message => rfl

theorem expandFrom_field (stepped : step mode c = .ok (some ⟨text, some field⟩, next)) :
    expandFrom replace mode (c :: rest) =
      (replace field).bind fun value => (expandFrom replace next rest).map (text ++ value ++ ·) := by
  simp only [expandFrom, read, stepped, Option.toList_some, List.singleton_append, fill]
  cases replace field with
  | error message => rfl
  | ok value =>
      cases fill replace (read next rest).1 with
      | error message => rfl
      | ok filled =>
          cases (read next rest).2 with
          | none => rfl
          | some message => rfl

/-- What a step gives with more literal text before. -/
def frontResult (before : List Char) : Option Chunk × Mode → Option Chunk × Mode
  | (none, next) => (none, next.front before)
  | (some chunk, next) => (some ⟨before ++ chunk.literal, chunk.field⟩, next)

theorem nameStep_front (before text name : List Char) (c : Char) :
    nameStep (before ++ text) name c = (nameStep text name c).map (frontResult before) := by
  unfold nameStep
  split_ifs <;> rfl

theorem step_front (before : List Char) (mode : Mode) (c : Char) :
    step (mode.front before) c = (step mode c).map (frontResult before) := by
  cases mode with
  | literal text =>
      simp only [step, Mode.front]
      split_ifs
      · rfl
      · rfl
      · rw [List.append_assoc]
        rfl
  | opened text =>
      simp only [step, Mode.front]
      split_ifs
      · rw [List.append_assoc]
        rfl
      · exact nameStep_front before text [] c
  | closed text =>
      simp only [step, Mode.front]
      split_ifs
      · rw [List.append_assoc]
        rfl
      · rfl
  | name text name => exact nameStep_front before text name c
  | conversion text name => rfl
  | bracket | converted | spec =>
      simp only [step, Mode.front]
      split_ifs <;> rfl

theorem expandFrom_front_end (before : List Char) (mode : Mode) :
    expandFrom replace (mode.front before) [] = (expandFrom replace mode []).map (before ++ ·) := by
  cases mode with
  | literal text =>
      cases text with
      | nil => cases before <;> simp [expandFrom, read, Mode.front, atEnd, fill, Except.map]
      | cons c text => cases before <;> simp [expandFrom, read, Mode.front, atEnd, fill, Except.map]
  | opened | closed | name | bracket | conversion | converted | spec => rfl

/-- Literal text that was read before comes out before. -/
theorem expandFrom_front (before : List Char) (mode : Mode) (text : List Char) :
    expandFrom replace (mode.front before) text =
      (expandFrom replace mode text).map (before ++ ·) := by
  induction text generalizing mode with
  | nil => exact expandFrom_front_end before mode
  | cons c rest ih =>
      have moved := step_front before mode c
      cases stepped : step mode c with
      | error message =>
          rw [stepped] at moved
          rw [expandFrom_error stepped, expandFrom_error moved]
          rfl
      | ok result =>
          obtain ⟨chunk, next⟩ := result
          rw [stepped] at moved
          cases chunk with
          | none => rw [expandFrom_none stepped, expandFrom_none moved, ih]
          | some chunk =>
              obtain ⟨text, field⟩ := chunk
              cases field with
              | none =>
                  rw [expandFrom_literal stepped, expandFrom_literal moved]
                  cases expandFrom replace next rest with
                  | error message => rfl
                  | ok filled => simp [Except.map]
              | some field =>
                  rw [expandFrom_field stepped, expandFrom_field moved]
                  cases replace field with
                  | error message => rfl
                  | ok value =>
                      cases expandFrom replace next rest with
                      | error message => rfl
                      | ok filled => simp [Except.map, Except.bind]

theorem expandFrom_name {name : List Char} (more : List Char) (plain : PlainName more) (rest : List Char) :
    expandFrom replace (.name [] name) (more ++ '\x7d' :: rest) =
      (replace ⟨name ++ more, none, []⟩).bind fun value =>
        (expandFrom replace (.literal []) rest).map (value ++ ·) := by
  induction more generalizing name with
  | nil =>
      have stepped : step (.name [] name) '\x7d' = .ok (some ⟨[], some ⟨name, none, []⟩⟩, .literal []) := by
        simp [step, nameStep]
      rw [List.nil_append, expandFrom_field stepped]
      simp
  | cons c more ih =>
      have special := plain c List.mem_cons_self
      simp only [List.mem_cons, List.not_mem_nil, or_false, not_or] at special
      obtain ⟨opening, closing, bracket, colon, bang⟩ := special
      have stepped : step (.name [] name) c = .ok (none, .name [] (name ++ [c])) := by
        simp [step, nameStep, *]
      rw [List.cons_append, expandFrom_none stepped, ih fun c later => plain c (List.mem_cons_of_mem _ later)]
      simp

/-- A written template is filled in piece by piece. -/
theorem expand_encode {pieces : List Piece} (plain : ∀ name, Piece.field name ∈ pieces → PlainName name) :
    expand replace (encode pieces) = emit replace pieces := by
  induction pieces with
  | nil => rfl
  | cons piece rest ih =>
      have ih := ih fun name later => plain name (List.mem_cons_of_mem _ later)
      rw [expand] at ih
      rw [encode, List.flatMap_cons, ← encode, expand]
      cases piece with
      | char c =>
          rw [Piece.encode, emit, ← ih]
          by_cases opening : c = '\x7b'
          · subst opening
            rw [if_pos (.inl rfl), List.cons_append, List.singleton_append, expandFrom_none rfl,
              expandFrom_literal rfl]
            rfl
          · by_cases closing : c = '\x7d'
            · subst closing
              rw [if_pos (.inr rfl), List.cons_append, List.singleton_append, expandFrom_none rfl,
                expandFrom_literal rfl]
              rfl
            · have stepped : step (.literal []) c = .ok (none, Mode.front [c] (.literal [])) := by
                simp [step, Mode.front, opening, closing]
              rw [if_neg (by simp [opening, closing]), List.singleton_append, expandFrom_none stepped,
                expandFrom_front]
              rfl
      | field name =>
          have plain := plain name List.mem_cons_self
          rw [Piece.encode, emit, ← ih, List.cons_append, List.cons_append, expandFrom_none rfl,
            List.append_assoc, List.singleton_append]
          cases name with
          | nil =>
              rw [List.nil_append, expandFrom_field rfl]
              rfl
          | cons c more =>
              have special := plain c List.mem_cons_self
              simp only [List.mem_cons, List.not_mem_nil, or_false, not_or] at special
              obtain ⟨opening, closing, bracket, colon, bang⟩ := special
              have stepped : step (.opened []) c = .ok (none, .name [] [c]) := by
                simp [step, nameStep, *]
              rw [List.cons_append, expandFrom_none stepped,
                expandFrom_name more fun c later => plain c (List.mem_cons_of_mem _ later)]
              rfl

end Meshloom.FormatString
