import Meshloom.BytesLiteral
import Meshloom.Utf8Text
import Mathlib.Data.List.Infix

/-! The forms under which a literal secret is registered (`_secret_forms` of
`app/log_redaction.py`), and what a value that holds the secret looks like in a log line. -/
namespace Meshloom.SecretForms
open Bytes BytesLiteral Utf8

/-- `str.isprintable` of one character that is not ASCII. -/
abbrev Printable := Char → Bool

def secretMinLiteralBytes : Nat := 4

abbrev Form := List Char

section Repr
variable (printable : Printable)

/-- The lower hexadecimal digits of a code point, most significant first. -/
def hexDigits : Nat → Nat → List Char
  | 0, _ => []
  | count + 1, code => hexDigits count (code / 16) ++ [hexDigit (code % 16)]

/-- One character inside the quotes of `repr(text)`. -/
def strEscape (quote c : Char) : List Char :=
  if c = '\\' ∨ c = quote then ['\\', c]
  else if c = '\t' then ['\\', 't']
  else if c = '\n' then ['\\', 'n']
  else if c = '\r' then ['\\', 'r']
  else if c.toNat < 0x20 ∨ c.toNat = 0x7F then '\\' :: 'x' :: hexDigits 2 c.toNat
  else if c.toNat < 0x7F ∨ printable c then [c]
  else if c.toNat ≤ 0xFF then '\\' :: 'x' :: hexDigits 2 c.toNat
  else if c.toNat ≤ 0xFFFF then '\\' :: 'u' :: hexDigits 4 c.toNat
  else '\\' :: 'U' :: hexDigits 8 c.toNat

def strBody (quote : Char) (text : List Char) : List Char := text.flatMap (strEscape printable quote)

def strQuoteOf (text : List Char) : Char := if '\'' ∈ text ∧ '"' ∉ text then '"' else '\''

/-- `repr(text)`. -/
def strRepr (text : List Char) : List Char :=
  strQuoteOf text :: (strBody printable (strQuoteOf text) text ++ [strQuoteOf text])

end Repr

/-- `_str_repr_body`. -/
def strReprBody (printable : Printable) (text : List Char) (quote : Char) : Form :=
  text.flatMap fun char =>
    if char = '\\' ∨ char = quote then ['\\', char]
    else if char = '\'' ∨ char = '"' then [char]
    else ((strRepr printable [char]).drop 1).dropLast

inductive Secret where
  | text (text : List Char)
  | bytes (raw : List UInt8)
  deriving DecidableEq

/-- The strict decoding of UTF-8: bytes are a text when they are its encoding. -/
def decodeStrict (raw : List UInt8) : Option (List Char) :=
  if encode (decodeReplace raw) = raw then some (decodeReplace raw) else none

def Secret.raw : Secret → List UInt8
  | .text chars => encode chars
  | .bytes data => data

def Secret.text? : Secret → Option (List Char)
  | .text chars => some chars
  | .bytes data => decodeStrict data

def hexUpper (raw : List UInt8) : Form := (toHex raw).map Char.toUpper

/-- `_secret_forms`, the order aside. -/
def secretForms (printable : Printable) (secret : Secret) : List Form :=
  let raw := secret.raw
  if raw.length < secretMinLiteralBytes then []
  else
    let forms := [toHex raw, hexUpper raw, body '\'' raw, body '"' raw] ++
      match secret.text? with
      | some text => [text, strReprBody printable text '\'', strReprBody printable text '"']
      | none => []
    forms.filter (· ≠ [])

/-- What a log line may show of a value: a text, or bytes. -/
inductive Value where
  | text (text : List Char)
  | bytes (data : List UInt8)

/-- The secret sits somewhere in the value. -/
inductive Secret.Inside : Secret → Value → Prop
  | text {secret text : List Char} : secret <:+: text → (Secret.text secret).Inside (.text text)
  | encoded {secret : List Char} {data : List UInt8} : encode secret <:+: data →
      (Secret.text secret).Inside (.bytes data)
  | bytes {raw data : List UInt8} : raw <:+: data → (Secret.bytes raw).Inside (.bytes data)
  | decoded {raw : List UInt8} {secret text : List Char} : raw = encode secret → secret <:+: text →
      (Secret.bytes raw).Inside (.text text)

/-- The ways in which a line may show a value: itself, its `repr`, the inside of a `repr` that
holds it with either quote, and its hexadecimal digits. -/
inductive Shows (printable : Printable) : Value → List Char → Prop
  | itself (text : List Char) : Shows printable (.text text) text
  | strRepr (text : List Char) : Shows printable (.text text) (strRepr printable text)
  | strBody {quote : Char} (text : List Char) : IsQuote quote →
      Shows printable (.text text) (strBody printable quote text)
  | encodedHex (text : List Char) : Shows printable (.text text) (toHex (encode text))
  | encodedHexUpper (text : List Char) : Shows printable (.text text) (hexUpper (encode text))
  | bytesRepr (data : List UInt8) : Shows printable (.bytes data) (bytesRepr data)
  | bytesBody {quote : Char} (data : List UInt8) : IsQuote quote →
      Shows printable (.bytes data) (body quote data)
  | hex (data : List UInt8) : Shows printable (.bytes data) (toHex data)
  | hexUpper (data : List UInt8) : Shows printable (.bytes data) (hexUpper data)

section Contained
variable {printable : Printable} {quote : Char} {a b : List UInt8} {s t : List Char}

theorem flatMap_inside {α β : Type} {part whole : List α} (f : α → List β)
    (inside : part <:+: whole) : part.flatMap f <:+: whole.flatMap f := by
  obtain ⟨front, back, rfl⟩ := inside
  exact ⟨front.flatMap f, back.flatMap f, by simp⟩

theorem toHex_inside (inside : a <:+: b) : toHex a <:+: toHex b := flatMap_inside _ inside

theorem hexUpper_inside (inside : a <:+: b) : hexUpper a <:+: hexUpper b := by
  obtain ⟨front, back, same⟩ := toHex_inside inside
  exact ⟨front.map Char.toUpper, back.map Char.toUpper, by simp [hexUpper, ← same]⟩

theorem body_inside (inside : a <:+: b) : body quote a <:+: body quote b := flatMap_inside _ inside

theorem encode_inside (inside : s <:+: t) : encode s <:+: encode t := flatMap_inside _ inside

theorem strBody_inside (inside : s <:+: t) : strBody printable quote s <:+: strBody printable quote t :=
  flatMap_inside _ inside

/-- The inside of a `repr` is written with the quote around it. -/
theorem inside_quotes (quote : Char) (inner : List Char) : inner <:+: quote :: (inner ++ [quote]) :=
  ⟨[quote], [quote], by simp⟩

theorem isQuote_strQuoteOf (text : List Char) : IsQuote (strQuoteOf text) := by
  unfold strQuoteOf
  split
  · exact .inr rfl
  · exact .inl rfl

/-- The registered escapes of a text are those of its `repr`. -/
theorem strReprBody_eq (quote : Char) (text : List Char) :
    strReprBody printable text quote = strBody printable quote text := by
  have char (c : Char) : (if c = '\\' ∨ c = quote then ['\\', c]
      else if c = '\'' ∨ c = '"' then [c]
      else ((strRepr printable [c]).drop 1).dropLast) = strEscape printable quote c := by
    by_cases marked : c = '\\' ∨ c = quote
    · rw [if_pos marked, strEscape, if_pos marked]
    rw [if_neg marked]
    by_cases other : c = '\'' ∨ c = '"'
    · rw [if_pos other, strEscape, if_neg marked]
      rcases other with rfl | rfl <;> simp
    · have plain : ¬ (c = '\\' ∨ c = '\'') := fun either =>
        either.elim (fun slash => marked (.inl slash)) fun single => other (.inl single)
      have single : strQuoteOf [c] = '\'' := by
        rw [strQuoteOf, if_neg]
        rintro ⟨member, _⟩
        exact other (.inl (List.mem_singleton.mp member).symm)
      rw [if_neg other, strRepr, single, strBody, List.flatMap_singleton, List.drop_one,
        List.tail_cons, List.dropLast_concat, strEscape, strEscape, if_neg plain, if_neg marked]
  simp only [strReprBody, strBody, char]

variable {secret : Secret} {value : Value} {line : List Char}

theorem decodeStrict_encode (text : List Char) : decodeStrict (encode text) = some text := by
  rw [decodeStrict, decodeReplace_encode, if_pos rfl]

theorem mem_secretForms {form : Form} (long : secretMinLiteralBytes ≤ secret.raw.length)
    (written : form ≠ []) (listed : form ∈ [toHex secret.raw, hexUpper secret.raw,
      body '\'' secret.raw, body '"' secret.raw] ∨ ∃ text, secret.text? = some text ∧
        form ∈ [text, strReprBody printable text '\'', strReprBody printable text '"']) :
    form ∈ secretForms printable secret := by
  rw [secretForms, if_neg (not_lt.mpr long)]
  refine List.mem_filter.mpr ⟨List.mem_append.mpr ?_, by simpa using written⟩
  rcases listed with encoded | ⟨text, named, listed⟩
  · exact .inl encoded
  · rw [named]
    exact .inr listed

theorem raw_ne_nil (long : secretMinLiteralBytes ≤ secret.raw.length) : secret.raw ≠ [] := by
  intro empty
  rw [empty] at long
  exact absurd long (by decide)

theorem flatMap_ne_nil {α β : Type} {f : α → List β} (each : ∀ a, f a ≠ []) {whole : List α}
    (some_in : whole ≠ []) : whole.flatMap f ≠ [] := by
  obtain ⟨first, rest, rfl⟩ := List.exists_cons_of_ne_nil some_in
  rw [List.flatMap_cons]
  exact List.append_ne_nil_of_left_ne_nil (each first) _

theorem strEscape_ne_nil (quote c : Char) : strEscape printable quote c ≠ [] := by
  unfold strEscape
  repeat' split
  all_goals exact List.cons_ne_nil _ _

theorem escape_ne_nil (quote : Char) (byte : UInt8) : escape quote byte ≠ [] := by
  unfold escape
  dsimp only
  repeat' split
  all_goals exact List.cons_ne_nil _ _

/-- Bytes with the secret's bytes inside show its hexadecimal digits or its escapes. -/
theorem shown_bytes (long : secretMinLiteralBytes ≤ secret.raw.length) {data : List UInt8}
    (inside : secret.raw <:+: data) (shows : Shows printable (.bytes data) line) :
    ∃ form ∈ secretForms printable secret, form <:+: line := by
  have some_byte := raw_ne_nil long
  have hex : toHex secret.raw ≠ [] :=
    flatMap_ne_nil (fun _ => List.cons_ne_nil _ _) some_byte
  have escaped (quote : Char) (quoted : IsQuote quote) :
      body quote secret.raw ∈ secretForms printable secret := by
    refine mem_secretForms long (flatMap_ne_nil (escape_ne_nil quote) some_byte) (.inl ?_)
    rcases quoted with rfl | rfl <;> simp
  cases shows with
  | bytesRepr =>
      have quoted : body (quoteOf data) secret.raw <:+: body (quoteOf data) data :=
        body_inside inside
      exact ⟨_, escaped _ (isQuote_quoteOf data),
        (quoted.trans (inside_quotes _ _)).trans (List.infix_cons List.infix_rfl)⟩
  | bytesBody _ quoted => exact ⟨_, escaped _ quoted, body_inside inside⟩
  | hex => exact ⟨_, mem_secretForms long hex (.inl (by simp)), toHex_inside inside⟩
  | hexUpper =>
      have upper : hexUpper secret.raw ≠ [] := by simpa [hexUpper] using hex
      exact ⟨_, mem_secretForms long upper (.inl (by simp)), hexUpper_inside inside⟩

/-- Text with the secret's text inside shows it, or its escapes. -/
theorem shown_text (long : secretMinLiteralBytes ≤ secret.raw.length) {part text : List Char}
    (raw : secret.raw = encode part) (named : secret.text? = some part) (inside : part <:+: text)
    (shows : Shows printable (.text text) line) :
    ∃ form ∈ secretForms printable secret, form <:+: line := by
  have encoded : secret.raw <:+: encode text := raw ▸ encode_inside inside
  have some_char : part ≠ [] := by
    rintro rfl
    exact raw_ne_nil long raw
  have escaped (quote : Char) (quoted : IsQuote quote) :
      strBody printable quote part ∈ secretForms printable secret := by
    rw [← strReprBody_eq]
    refine mem_secretForms long ?_ (.inr ⟨part, named, ?_⟩)
    · rw [strReprBody_eq]
      exact flatMap_ne_nil (strEscape_ne_nil quote) some_char
    · rcases quoted with rfl | rfl <;> simp
  cases shows with
  | itself => exact ⟨part, mem_secretForms long some_char (.inr ⟨part, named, by simp⟩), inside⟩
  | strRepr =>
      exact ⟨_, escaped _ (isQuote_strQuoteOf text), (strBody_inside inside).trans (inside_quotes _ _)⟩
  | strBody _ quoted => exact ⟨_, escaped _ quoted, strBody_inside inside⟩
  | encodedHex => exact shown_bytes long encoded (.hex _)
  | encodedHexUpper => exact shown_bytes long encoded (.hexUpper _)

/-- A line that shows a value with a secret inside has one of the secret's forms in it. -/
theorem shown_form (long : secretMinLiteralBytes ≤ secret.raw.length)
    (inside : secret.Inside value) (shows : Shows printable value line) :
    ∃ form ∈ secretForms printable secret, form <:+: line := by
  cases inside with
  | text part => exact shown_text long rfl rfl part shows
  | encoded part => exact shown_bytes long part shows
  | bytes part => exact shown_bytes long part shows
  | decoded raw part =>
      exact shown_text long raw (by rw [raw]; exact decodeStrict_encode _) part shows

end Contained

end Meshloom.SecretForms
