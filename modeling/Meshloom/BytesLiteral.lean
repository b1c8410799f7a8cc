import Meshloom.Bytes

/-! The text of a `bytes` object in Python, and the reading of such a text. -/
namespace Meshloom.BytesLiteral
open Bytes

/-- One byte inside the quotes. -/
def escape (quote : Char) (byte : UInt8) : List Char :=
  let char := Char.ofNat byte.toNat
  if char = '\\' ∨ char = quote then ['\\', char]
  else if char = '\t' then ['\\', 't']
  else if char = '\n' then ['\\', 'n']
  else if char = '\r' then ['\\', 'r']
  else if 0x20 ≤ byte.toNat ∧ byte.toNat < 0x7F then [char]
  else ['\\', 'x', hexDigit (byte.toNat / 16), hexDigit (byte.toNat % 16)]

def body (quote : Char) (data : List UInt8) : List Char := data.flatMap (escape quote)

/-- The quote that `repr` takes. -/
def quoteOf (data : List UInt8) : Char := if 39 ∈ data ∧ 34 ∉ data then '"' else '\''

/-- `repr(data)` of `bytes`. -/
def bytesRepr (data : List UInt8) : List Char :=
  'b' :: quoteOf data :: (body (quoteOf data) data ++ [quoteOf data])

def bytearrayOpening : List Char := ['b', 'y', 't', 'e', 'a', 'r', 'r', 'a', 'y', '(']

/-- `repr(data)` of a `bytearray`. -/
def bytearrayRepr (data : List UInt8) : List Char := bytearrayOpening ++ bytesRepr data ++ [')']

/-- The quote is never closed. -/
def unclosed (quote : Char) : List Char → Bool
  | [] => true
  | '\\' :: _ :: rest => unclosed quote rest
  | c :: rest => c ≠ quote && unclosed quote rest

def IsQuote (c : Char) : Prop := c = '\'' ∨ c = '"'

instance (c : Char) : Decidable (IsQuote c) := inferInstanceAs (Decidable (_ ∨ _))

theorem isQuote_quoteOf (data : List UInt8) : IsQuote (quoteOf data) := by
  unfold quoteOf
  split
  · exact .inr rfl
  · exact .inl rfl

/-- Every text of `bytes` is read back, and a text without its closing quote is not read. -/
structure LiteralEval where
  apply : List Char → Option (List UInt8)
  reads : ∀ data, apply (bytesRepr data) = some data
  unterminated : ∀ quote rest, IsQuote quote → unclosed quote rest = true →
    apply ('b' :: quote :: rest) = none

theorem escape_cases (quote : Char) (byte : UInt8) :
    (∃ c, escape quote byte = ['\\', c]) ∨
    (∃ c, escape quote byte = [c] ∧ c ≠ '\\' ∧ c ≠ quote) ∨
    ∃ a b, a < 16 ∧ b < 16 ∧ escape quote byte = ['\\', 'x', hexDigit a, hexDigit b] := by
  have bound := byte.toNat_lt
  simp only [escape]
  split
  · exact .inl ⟨_, rfl⟩
  · rename_i plain
    push Not at plain
    split
    · exact .inl ⟨_, rfl⟩
    · split
      · exact .inl ⟨_, rfl⟩
      · split
        · exact .inl ⟨_, rfl⟩
        · split
          · exact .inr (.inl ⟨_, rfl, plain⟩)
          · exact .inr (.inr ⟨_, _, by omega, by omega, rfl⟩)

theorem hexDigit_not_quote : ∀ n < 16,
    hexDigit n ≠ '\'' ∧ hexDigit n ≠ '"' ∧ hexDigit n ≠ '\\' ∧ hexDigit n ≠ '\n' := by
  decide

theorem unclosed_plain (other : c ≠ '\\') :
    unclosed quote (c :: rest) = (decide (c ≠ quote) && unclosed quote rest) := by
  rw [unclosed]
  exact fun _ _ same => absurd same other

theorem unclosed_body (quoted : IsQuote quote) (data : List UInt8) (rest : List Char) :
    unclosed quote (body quote data ++ rest) = unclosed quote rest := by
  induction data with
  | nil => rfl
  | cons byte tail ih =>
      rw [body, List.flatMap_cons, List.append_assoc]
      change unclosed quote (escape quote byte ++ (body quote tail ++ rest)) = _
      obtain ⟨c, eq⟩ | ⟨c, eq, other, plain⟩ | ⟨a, b, high, low, eq⟩ := escape_cases quote byte
      · simp [eq, unclosed, ih]
      · rw [eq, List.singleton_append, unclosed_plain other]
        simp [plain, ih]
      · obtain ⟨a1, a2, a3, _⟩ := hexDigit_not_quote a high
        obtain ⟨b1, b2, b3, _⟩ := hexDigit_not_quote b low
        have apart : hexDigit a ≠ quote ∧ hexDigit b ≠ quote := by
          obtain rfl | rfl := quoted
          · exact ⟨a1, b1⟩
          · exact ⟨a2, b2⟩
        rw [eq]
        simp only [List.cons_append, List.nil_append]
        rw [unclosed, unclosed_plain a3, unclosed_plain b3]
        simp [apart.1, apart.2, ih]

theorem newline_not_mem_body (quoted : IsQuote quote) (data : List UInt8) :
    '\n' ∉ body quote data := by
  rw [body, List.mem_flatMap]
  rintro ⟨byte, _, member⟩
  have bound := byte.toNat_lt
  simp only [escape] at member
  split at member
  · rename_i mark
    have same : '\n' = Char.ofNat byte.toNat := by simpa using member
    rw [← same] at mark
    obtain none | rfl := mark
    · contradiction
    · obtain none | none := quoted <;> contradiction
  · split at member
    · simp at member
    · split at member
      · simp at member
      · rename_i other
        split at member
        · simp at member
        · split at member
          · have same : '\n' = Char.ofNat byte.toNat := by simpa using member
            exact other same.symm
          · obtain ⟨_, _, _, a⟩ := hexDigit_not_quote (byte.toNat / 16) (by omega)
            obtain ⟨_, _, _, b⟩ := hexDigit_not_quote (byte.toNat % 16) (by omega)
            simp [a.symm, b.symm] at member

/-- A text that is cut before its closing quote stays open, if no quote follows. -/
theorem unclosed_cut (quoted : IsQuote quote) (whole : unclosed quote (a ++ b) = true) (quiet : quote ∉ r) :
    unclosed quote (a ++ r) = true := by
  have open_ : ∀ r : List Char, quote ∉ r → unclosed quote r = true := by
    intro r quiet
    fun_induction unclosed quote r with
    | case1 => rfl
    | case2 c rest ih => exact ih fun member => quiet (by simp [member])
    | case3 c rest _ ih =>
        simp only [List.mem_cons, not_or] at quiet
        simp [ih quiet.2, Ne.symm quiet.1]
  induction a using unclosed.induct with
  | case1 => exact open_ r quiet
  | case2 c rest ih =>
      simp only [List.cons_append, unclosed] at whole ⊢
      exact ih whole
  | case3 c rest single ih =>
      by_cases slash : c = '\\'
      · subst slash
        cases rest with
        | nil =>
            cases r with
            | nil => obtain rfl | rfl := quoted <;> rfl
            | cons d tail => exact open_ tail fun member => quiet (by simp [member])
        | cons d tail => exact absurd rfl (single d tail rfl)
      · rw [List.cons_append, unclosed_plain slash] at whole ⊢
        simp only [Bool.and_eq_true] at whole ⊢
        exact ⟨whole.1, ih whole.2⟩

/-- What follows a backslash. -/
def readEscape : List Char → Option (UInt8 × List Char)
  | 'x' :: a :: b :: rest => do
    let top ← hexValue a
    let bottom ← hexValue b
    return (UInt8.ofNat (16 * top + bottom), rest)
  | 't' :: rest => some (9, rest)
  | 'n' :: rest => some (10, rest)
  | 'r' :: rest => some (13, rest)
  | c :: rest => if c = '\\' ∨ IsQuote c then some (UInt8.ofNat c.toNat, rest) else none
  | [] => none

/-- The text behind the opening quote, up to the closing one; each round reads a byte. -/
def readBody (quote : Char) : Nat → List Char → Option (List UInt8)
  | 0, _ => none
  | _ + 1, [] => none
  | rounds + 1, c :: rest =>
    if c = quote then if rest = [] then some [] else none
    else if c = '\\' then do
      let (byte, rest) ← readEscape rest
      return byte :: (← readBody quote rounds rest)
    else if c.toNat < 128 then (readBody quote rounds rest).map (UInt8.ofNat c.toNat :: ·)
    else none

/-- Reads one literal as `repr` writes it, and nothing else. -/
def readLiteral : List Char → Option (List UInt8)
  | 'b' :: quote :: rest => if IsQuote quote then readBody quote (rest.length + 1) rest else none
  | _ => none

theorem byte_of_char {byte : UInt8} (same : Char.ofNat byte.toNat = c) :
    UInt8.ofNat c.toNat = byte := by
  have bound := byte.toNat_lt
  have valid : byte.toNat.isValidChar := .inl (by omega)
  rw [← same, Char.toNat_ofNat, if_pos valid, UInt8.ofNat_toNat]

theorem readEscape_mark (mark : c = '\\' ∨ IsQuote c) (rest : List Char) :
    readEscape (c :: rest) = some (UInt8.ofNat c.toNat, rest) := by
  obtain rfl | rfl | rfl := mark <;> rfl

theorem readEscape_hex (byte : UInt8) (rest : List Char) :
    readEscape ('x' :: hexDigit (byte.toNat / 16) :: hexDigit (byte.toNat % 16) :: rest) =
      some (byte, rest) := by
  have bound := byte.toNat_lt
  have value : UInt8.ofNat (16 * (byte.toNat / 16) + byte.toNat % 16) = byte := by
    rw [Nat.div_add_mod, UInt8.ofNat_toNat]
  have top := hexValue_hexDigit (byte.toNat / 16) (by omega)
  have bottom := hexValue_hexDigit (byte.toNat % 16) (by omega)
  simp only [readEscape, top, bottom, Option.bind_eq_bind, Option.bind_some, Option.pure_def, value]

theorem readBody_slash (quoted : IsQuote quote) (read : readEscape text = some (byte, rest)) :
    readBody quote (rounds + 1) ('\\' :: text) = (readBody quote rounds rest).map (byte :: ·) := by
  have apart : '\\' ≠ quote := by obtain rfl | rfl := quoted <;> decide
  simp only [readBody, if_neg apart, if_true, read, Option.bind_eq_bind, Option.bind_some,
    Option.pure_def]
  cases readBody quote rounds rest <;> rfl

theorem readBody_escape (quoted : IsQuote quote) (byte : UInt8) (rest : List Char) :
    readBody quote (rounds + 1) (escape quote byte ++ rest) =
      (readBody quote rounds rest).map (byte :: ·) := by
  simp only [escape]
  split
  · rename_i mark
    have marked : Char.ofNat byte.toNat = '\\' ∨ IsQuote (Char.ofNat byte.toNat) :=
      mark.imp_right fun same => by rwa [same]
    have read := readEscape_mark marked rest
    rw [byte_of_char rfl] at read
    exact readBody_slash quoted read
  · rename_i plain
    push Not at plain
    have control {c d : Char} (same : Char.ofNat byte.toNat = c)
        (read : readEscape (d :: rest) = some (UInt8.ofNat c.toNat, rest)) :
        readBody quote (rounds + 1) (['\\', d] ++ rest) =
          (readBody quote rounds rest).map (byte :: ·) := by
      rw [byte_of_char same] at read
      exact readBody_slash quoted read
    split
    · rename_i tab
      exact control tab rfl
    · split
      · rename_i newline
        exact control newline rfl
      · split
        · rename_i ret
          exact control ret rfl
        · split
          · rename_i shown
            have valid : byte.toNat.isValidChar := .inl (by omega)
            have small : (Char.ofNat byte.toNat).toNat < 128 := by
              rw [Char.toNat_ofNat, if_pos valid]
              omega
            have same : UInt8.ofNat (Char.ofNat byte.toNat).toNat = byte := byte_of_char rfl
            simp only [List.singleton_append, readBody, if_neg plain.1, if_neg plain.2,
              if_pos small, same]
          · exact readBody_slash quoted (readEscape_hex byte rest)

theorem readBody_body (quoted : IsQuote quote) (data : List UInt8)
    (enough : data.length < rounds) : readBody quote rounds (body quote data ++ [quote]) =
      some data := by
  induction data generalizing rounds with
  | nil =>
      obtain ⟨rounds, rfl⟩ := Nat.exists_eq_add_of_lt enough
      simp [body, readBody]
  | cons byte tail ih =>
      obtain ⟨rounds, rfl⟩ : ∃ n, rounds = n + 1 := ⟨rounds - 1, by omega⟩
      simp only [List.length_cons, Nat.add_lt_add_iff_right] at enough
      have rest := ih enough
      rw [body, List.flatMap_cons, List.append_assoc, readBody_escape quoted]
      change (readBody quote rounds (body quote tail ++ [quote])).map _ = _
      rw [rest, Option.map_some]

theorem length_le_body (quote : Char) (data : List UInt8) : data.length ≤ (body quote data).length := by
  induction data with
  | nil => rfl
  | cons byte tail ih =>
      have some_char : 1 ≤ (escape quote byte).length := by
        obtain ⟨c, eq⟩ | ⟨c, eq, _⟩ | ⟨a, b, _, _, eq⟩ := escape_cases quote byte
        all_goals simp [eq]
      rw [body] at ih
      simp only [body, List.flatMap_cons, List.length_append, List.length_cons]
      omega

theorem hexValue_not_mark (digit : hexValue c = some n) : c ≠ '\\' := by
  rintro rfl
  have none : hexValue '\\' = none := by decide
  rw [none] at digit
  contradiction

/-- A text whose quote is not closed is still not closed once an escape has been read. -/
theorem unclosed_readEscape (whole : unclosed quote ('\\' :: text) = true)
    (read : readEscape text = some (byte, rest)) : unclosed quote rest = true := by
  unfold readEscape at read
  split at read
  · rename_i a b tail
    simp only [Option.bind_eq_bind, Option.bind_eq_some_iff, Option.pure_def, Option.some.injEq,
      Prod.mk.injEq] at read
    obtain ⟨top, high, bottom, low, _, rfl⟩ := read
    rw [unclosed, unclosed_plain (hexValue_not_mark high), unclosed_plain (hexValue_not_mark low)]
      at whole
    simp only [Bool.and_eq_true] at whole
    exact whole.2.2
  · cases read
    exact whole
  · cases read
    exact whole
  · cases read
    exact whole
  · split at read
    · cases read
      exact whole
    · contradiction
  · contradiction

theorem readBody_unclosed (whole : unclosed quote text = true) :
    readBody quote rounds text = none := by
  induction rounds generalizing text with
  | zero => rfl
  | succ rounds ih =>
      cases text with
      | nil => rfl
      | cons c rest =>
          simp only [readBody]
          by_cases slash : c = '\\'
          · subst slash
            split
            · rename_i same
              split
              · rename_i empty
                rw [empty, ← same] at whole
                contradiction
              · rfl
            · rw [if_pos rfl]
              cases read : readEscape rest with
              | none => rfl
              | some result =>
                  simp [ih (unclosed_readEscape whole read)]
          · rw [unclosed_plain slash, Bool.and_eq_true, decide_eq_true_eq] at whole
            rw [if_neg whole.1, if_neg slash, ih whole.2]
            split <;> rfl

def LiteralEval.plain : LiteralEval where
  apply := readLiteral
  reads data := by
    have quoted := isQuote_quoteOf data
    have enough : data.length < (body (quoteOf data) data ++ [quoteOf data]).length + 1 := by
      have bound := length_le_body (quoteOf data) data
      rw [List.length_append]
      omega
    simp only [bytesRepr, readLiteral, if_pos quoted, readBody_body quoted data enough]
  unterminated quote rest quoted whole := by
    simp only [readLiteral, if_pos quoted, readBody_unclosed whole]

end Meshloom.BytesLiteral
