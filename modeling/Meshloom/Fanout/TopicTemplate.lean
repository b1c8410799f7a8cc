import Meshloom.FormatString
import Meshloom.Text

/-! The topic of the packets that the community publisher sends (`app/fanout/mqtt_community.py`):
a template is normalised and then formatted. The normalisation reads doubled braces as single
ones and writes them back single, so what follows is about literal text without braces. -/
namespace Meshloom.TopicTemplate
open FormatString Text

def defaultPacketTopicTemplate : List Char := "meshcore/\x7bIATA\x7d/\x7bPUBLIC_KEY\x7d/packets".toList

inductive TopicField where
  | iata
  | publicKey
  deriving DecidableEq, Repr

def TopicField.canonical : TopicField → List Char
  | .iata => ['I', 'A', 'T', 'A']
  | .publicKey => ['P', 'U', 'B', 'L', 'I', 'C', '_', 'K', 'E', 'Y']

def TopicField.word : TopicField → List Char
  | .iata => ['i', 'a', 't', 'a']
  | .publicKey => ['p', 'u', 'b', 'l', 'i', 'c', '_', 'k', 'e', 'y']

/-- `_TOPIC_TEMPLATE_FIELD_CANONICAL.get(name)`. -/
def canonicalField (name : List Char) : Option TopicField :=
  if name = TopicField.iata.word then some .iata
  else if name = TopicField.publicKey.word then some .publicKey
  else none

section
variable (lower : LowerCase)

/-- The replacement that the normalisation writes for a field. -/
def replacement (field : Field) : Except String (List Char) :=
  match canonicalField (lower.apply field.name) with
  | none => .error ("Unsupported topic template field(s): " ++ String.ofList field.name)
  | some known =>
    .ok ('\x7b' :: known.canonical ++ (field.conversion.elim [] fun c => ['!', c]) ++
      (if field.spec = [] then [] else ':' :: field.spec) ++ ['\x7d'])

/-- `_normalize_topic_template`. -/
def normalizeTopicTemplate (topicTemplate : List Char) : Except String (List Char) :=
  let template := if strip topicTemplate = [] then defaultPacketTopicTemplate else strip topicTemplate
  expand (replacement lower) template

/-- The value of a field in `str.format(IATA=…, PUBLIC_KEY=…)`; `other` is what Python makes of every
field that is more than one of the two names. -/
def formatField (other : Field → Except String (List Char)) (iata publicKey : List Char)
    (field : Field) : Except String (List Char) :=
  if field = ⟨TopicField.iata.canonical, none, []⟩ then .ok iata
  else if field = ⟨TopicField.publicKey.canonical, none, []⟩ then .ok publicKey
  else other field

/-- `_render_packet_topic`. -/
def renderPacketTopic (other : Field → Except String (List Char))
    (topicTemplate iata publicKey : List Char) : Except String (List Char) := do
  let template ← normalizeTopicTemplate lower topicTemplate
  expand (formatField other iata publicKey) template

end

/-- A character of literal text, or a field in any letter case. -/
inductive TopicPiece where
  | text (c : Char)
  | field (known : TopicField) (name : List Char) (cased : name.map Char.toLower = known.word)

namespace TopicPiece

def piece : TopicPiece → Piece
  | .text c => .char c
  | .field _ name _ => .field name

/-- How a template is written. -/
def write (pieces : List TopicPiece) : List Char := encode (pieces.map piece)

def value (iata publicKey : List Char) : TopicPiece → List Char
  | .text c => [c]
  | .field .iata _ _ => iata
  | .field .publicKey _ _ => publicKey

def blank : TopicPiece → Bool
  | .text c => isSpace c
  | .field _ _ _ => false

theorem canonical_cased (known : TopicField) : known.canonical.map Char.toLower = known.word := by
  cases known <;> decide

def canonical : TopicPiece → TopicPiece
  | .text c => .text c
  | .field known _ _ => .field known known.canonical (canonical_cased known)

/-- The pieces of the default template. -/
def defaults : List TopicPiece :=
  ("meshcore/".toList.map .text) ++ [canonical (.field .iata _ (canonical_cased .iata)), .text '/',
    .field .publicKey _ (canonical_cased .publicKey)] ++ "/packets".toList.map .text

/-- The template that is meant: without the blanks around it, and the default one when nothing is
left. -/
def meant (pieces : List TopicPiece) : List TopicPiece :=
  let inner := (pieces.dropWhile blank).rdropWhile blank
  if inner = [] then defaults else inner

/-- The literal text has no braces. -/
def Braceless (pieces : List TopicPiece) : Prop :=
  TopicPiece.text '\x7b' ∉ pieces ∧ TopicPiece.text '\x7d' ∉ pieces

theorem write_cons (first : TopicPiece) (rest : List TopicPiece) :
    write (first :: rest) = first.piece.encode ++ write rest := rfl

theorem write_append (first second : List TopicPiece) : write (first ++ second) = write first ++ write second := by
  simp only [write, encode, List.map_append, List.flatMap_append]

/-- A blank is written as it is. -/
theorem encode_blank {p : TopicPiece} (is_blank : p.blank = true) :
    ∃ c, isSpace c = true ∧ p.piece.encode = [c] := by
  cases p with
  | text c =>
      refine ⟨c, is_blank, ?_⟩
      have opening : c ≠ '\x7b' := by
        rintro rfl
        exact absurd is_blank (by decide)
      have closing : c ≠ '\x7d' := by
        rintro rfl
        exact absurd is_blank (by decide)
      simp [piece, Piece.encode, opening, closing]
  | field known name cased => contradiction

/-- Everything else begins and ends with a character that is none. -/
theorem encode_solid {p : TopicPiece} (solid : p.blank = false) :
    (∃ c rest, isSpace c = false ∧ p.piece.encode = c :: rest) ∧
      ∃ c front, isSpace c = false ∧ p.piece.encode = front ++ [c] := by
  cases p with
  | text c =>
      by_cases brace : c = '\x7b' ∨ c = '\x7d'
      · exact ⟨⟨c, [c], solid, by simp [piece, Piece.encode, brace]⟩,
          ⟨c, [c], solid, by simp [piece, Piece.encode, brace]⟩⟩
      · exact ⟨⟨c, [], solid, by simp [piece, Piece.encode, brace]⟩,
          ⟨c, [], solid, by simp [piece, Piece.encode, brace]⟩⟩
  | field known name cased =>
      exact ⟨⟨'\x7b', name ++ ['\x7d'], by decide, rfl⟩, ⟨'\x7d', '\x7b' :: name, by decide, rfl⟩⟩

theorem dropWhile_write (pieces : List TopicPiece) :
    (write pieces).dropWhile isSpace = write (pieces.dropWhile blank) := by
  induction pieces with
  | nil => rfl
  | cons first rest ih =>
      cases is_blank : first.blank with
      | true =>
          obtain ⟨c, space, written⟩ := encode_blank is_blank
          rw [write_cons, written, List.singleton_append, List.dropWhile_cons_of_pos space, ih,
            List.dropWhile_cons_of_pos is_blank]
      | false =>
          obtain ⟨c, more, solid, written⟩ := (encode_solid is_blank).1
          rw [List.dropWhile_cons_of_neg (by simp [is_blank]), write_cons, written, List.cons_append,
            List.dropWhile_cons_of_neg (by simp [solid])]

theorem rdropWhile_write (pieces : List TopicPiece) :
    (write pieces).rdropWhile isSpace = write (pieces.rdropWhile blank) := by
  induction pieces using List.reverseRecOn with
  | nil => rfl
  | append_singleton front last ih =>
      have written : write (front ++ [last]) = write front ++ last.piece.encode := by
        rw [write_append, write_cons]
        simp [write, encode]
      cases is_blank : last.blank with
      | true =>
          obtain ⟨c, space, same⟩ := encode_blank is_blank
          rw [written, same, List.rdropWhile_concat_pos _ _ _ space, ih,
            List.rdropWhile_concat_pos _ _ _ is_blank]
      | false =>
          obtain ⟨c, more, solid, same⟩ := (encode_solid is_blank).2
          rw [List.rdropWhile_concat_neg _ _ _ (by simp [is_blank]), written, same, ← List.append_assoc,
            List.rdropWhile_concat_neg _ _ _ (by simp [solid])]

/-- Stripping a template drops the blank pieces around it. -/
theorem strip_write (pieces : List TopicPiece) :
    strip (write pieces) = write ((pieces.dropWhile blank).rdropWhile blank) := by
  rw [strip, dropWhile_write, rdropWhile_write]

theorem write_eq_nil {pieces : List TopicPiece} : write pieces = [] ↔ pieces = [] := by
  cases pieces with
  | nil => simp [write, encode]
  | cons first rest =>
      rw [write_cons]
      cases is_blank : first.blank with
      | true =>
          obtain ⟨c, _, written⟩ := encode_blank is_blank
          simp [written]
      | false =>
          obtain ⟨c, more, _, written⟩ := (encode_solid is_blank).1
          simp [written]

theorem write_defaults : write defaults = defaultPacketTopicTemplate := by decide

/-- What the normalisation reads is the template that is meant. -/
theorem write_meant (pieces : List TopicPiece) :
    (if strip (write pieces) = [] then defaultPacketTopicTemplate else strip (write pieces)) =
      write (meant pieces) := by
  rw [strip_write, meant, ← write_defaults]
  simp only [write_eq_nil]
  split <;> rfl

/-- Nothing blank stands at either end. -/
def Trimmed (pieces : List TopicPiece) : Prop :=
  (∀ p ∈ pieces.head?, p.blank = false) ∧ ∀ p ∈ pieces.getLast?, p.blank = false

theorem trimmed_meant (pieces : List TopicPiece) : Trimmed (meant pieces) ∧ meant pieces ≠ [] := by
  simp only [meant]
  split
  · exact ⟨⟨by decide, by decide⟩, by decide⟩
  · rename_i nonempty
    refine ⟨⟨?_, ?_⟩, nonempty⟩
    · intro p first
      obtain ⟨dropped, parts⟩ := List.rdropWhile_prefix blank (l := pieces.dropWhile blank)
      have head : (pieces.dropWhile blank).head? = some p := by
        rw [← parts, List.head?_append, first]
        rfl
      have solid := List.head?_dropWhile_not blank pieces
      rw [head] at solid
      exact solid
    · intro p last
      have solid := List.rdropWhile_last_not blank (pieces.dropWhile blank) nonempty
      rw [List.getLast?_eq_some_getLast nonempty] at last
      rw [← Option.some.inj last]
      simpa using solid

theorem trimmed_canonical (trimmed : Trimmed pieces) : Trimmed (pieces.map canonical) := by
  have same : ∀ p : TopicPiece, p.canonical.blank = p.blank := by
    intro p
    cases p <;> rfl
  obtain ⟨first, last⟩ := trimmed
  constructor
  · intro p head
    rw [List.head?_map] at head
    obtain ⟨before, found, rfl⟩ := Option.mem_map.mp head
    rw [same, first before found]
  · intro p tail
    rw [List.getLast?_map] at tail
    obtain ⟨before, found, rfl⟩ := Option.mem_map.mp tail
    rw [same, last before found]

theorem meant_trimmed {pieces : List TopicPiece} (trimmed : Trimmed pieces) (nonempty : pieces ≠ []) :
    meant pieces = pieces := by
  have front : pieces.dropWhile blank = pieces := by
    cases pieces with
    | nil => rfl
    | cons first rest => rw [List.dropWhile_cons_of_neg (by simp [trimmed.1 first rfl])]
  have back : pieces.rdropWhile blank = pieces := by
    rw [List.rdropWhile_eq_self_iff]
    intro nonempty
    simp [trimmed.2 _ (List.getLast_mem_getLast? nonempty)]
  simp only [meant, front, back, if_neg nonempty]

end TopicPiece

open TopicPiece

section
variable (lower : LowerCase)

theorem name_plain {name : List Char} {known : TopicField}
    (cased : name.map Char.toLower = known.word) : PlainName name ∧ ∀ c ∈ name, c.toNat < 128 := by
  have inWord : ∀ c ∈ name, c.toLower ∈ known.word := fun c member =>
    cased ▸ List.mem_map_of_mem member
  have special : ∀ c ∈ ['\x7b', '\x7d', '[', ':', '!'], c.toLower ∉ known.word := by
    cases known <;> simp [TopicField.word]
  have small : ∀ c ∈ known.word, c.toNat < 128 := by
    cases known <;> simp [TopicField.word]
  constructor
  · intro c member is_special
    exact special c is_special (inWord c member)
  · intro c member
    by_contra high
    have kept : c.toLower = c := by
      rw [Char.toLower, dif_neg]
      rintro ⟨_, below⟩
      have bound : c.toNat ≤ 90 := below
      omega
    exact high (small c (kept ▸ inWord c member))

theorem replacement_cased {name : List Char} {known : TopicField}
    (cased : name.map Char.toLower = known.word) :
    replacement lower ⟨name, none, []⟩ = .ok ('\x7b' :: known.canonical ++ ['\x7d']) := by
  have lowered : lower.apply name = known.word := by
    rw [lower.ascii name (name_plain cased).2, cased]
  simp only [replacement, lowered]
  cases known with
  | iata => rfl
  | publicKey => rfl

/-- How the normalisation writes a piece. -/
def rewritten : TopicPiece → List Char
  | .text c => [c]
  | .field known _ _ => '\x7b' :: known.canonical ++ ['\x7d']

theorem expand_write (replace : Field → Except String (List Char)) (pieces : List TopicPiece) :
    expand replace (write pieces) = emit replace (pieces.map piece) := by
  refine expand_encode fun name member => ?_
  obtain ⟨p, _, same⟩ := List.mem_map.mp member
  cases p with
  | text c => contradiction
  | field known name cased =>
      cases same
      exact (name_plain cased).1

theorem emit_replacement (pieces : List TopicPiece) :
    emit (replacement lower) (pieces.map piece) = .ok (pieces.flatMap rewritten) := by
  induction pieces with
  | nil => rfl
  | cons first rest ih =>
      cases first with
      | text c =>
          rw [List.map_cons, piece, emit, ih]
          rfl
      | field known name cased =>
          rw [List.map_cons, piece, emit, ih, replacement_cased lower cased]
          rfl

/-- Every template is accepted, and what the normalisation makes of it. -/
theorem normalize_write (pieces : List TopicPiece) :
    normalizeTopicTemplate lower (write pieces) = .ok ((meant pieces).flatMap rewritten) := by
  rw [normalizeTopicTemplate, write_meant, expand_write, emit_replacement]

theorem rewritten_braceless {pieces : List TopicPiece} (braceless : Braceless pieces) :
    pieces.flatMap rewritten = write (pieces.map canonical) := by
  induction pieces with
  | nil => rfl
  | cons first rest ih =>
      have later : Braceless rest :=
        ⟨fun member => braceless.1 (List.mem_cons_of_mem _ member),
          fun member => braceless.2 (List.mem_cons_of_mem _ member)⟩
      rw [List.flatMap_cons, List.map_cons, write_cons, ih later]
      congr 1
      cases first with
      | text c =>
          have opening : c ≠ '\x7b' := by
            rintro rfl
            exact braceless.1 List.mem_cons_self
          have closing : c ≠ '\x7d' := by
            rintro rfl
            exact braceless.2 List.mem_cons_self
          simp [rewritten, canonical, piece, Piece.encode, opening, closing]
      | field known name cased => rfl

theorem braceless_meant {pieces : List TopicPiece} (braceless : Braceless pieces) :
    Braceless (meant pieces) := by
  have inside : ∀ p ∈ meant pieces, p ∈ pieces ∨ p ∈ defaults := by
    intro p member
    simp only [meant] at member
    split at member
    · exact .inr member
    · obtain ⟨dropped, parts⟩ := List.rdropWhile_prefix blank (l := pieces.dropWhile blank)
      refine .inl ((List.dropWhile_sublist blank).subset ?_)
      rw [← parts]
      exact List.mem_append_left _ member
  have none_ : ∀ p ∈ defaults, p.piece ≠ .char '\x7b' ∧ p.piece ≠ .char '\x7d' := by decide
  constructor
  · intro member
    rcases inside _ member with before | default_
    · exact braceless.1 before
    · exact (none_ _ default_).1 rfl
  · intro member
    rcases inside _ member with before | default_
    · exact braceless.2 before
    · exact (none_ _ default_).2 rfl

theorem emit_format (other : Field → Except String (List Char)) (iata publicKey : List Char)
    (pieces : List TopicPiece) :
    emit (formatField other iata publicKey) ((pieces.map canonical).map piece) =
      .ok (pieces.flatMap (value iata publicKey)) := by
  induction pieces with
  | nil => rfl
  | cons first rest ih =>
      cases first with
      | text c =>
          rw [List.map_cons, List.map_cons, canonical, piece, emit, ih]
          rfl
      | field known name cased =>
          rw [List.map_cons, List.map_cons, canonical, piece, emit, ih]
          cases known with
          | iata => rfl
          | publicKey => rfl

/-- Every template is accepted. One whose literal text has no braces is normalised once and for all
and renders to the template that is meant. -/
theorem template_renders (other : Field → Except String (List Char)) (pieces : List TopicPiece) :
    (∃ normalized, normalizeTopicTemplate lower (write pieces) = .ok normalized) ∧
    (Braceless pieces → ∃ normalized, normalizeTopicTemplate lower (write pieces) = .ok normalized ∧
      normalizeTopicTemplate lower normalized = .ok normalized ∧
      ∀ iata publicKey, renderPacketTopic lower other (write pieces) iata publicKey =
        .ok ((meant pieces).flatMap (value iata publicKey))) := by
  have accepted := normalize_write lower pieces
  refine ⟨⟨_, accepted⟩, ?_⟩
  intro braceless
  have canonical_ := rewritten_braceless (braceless_meant braceless)
  refine ⟨_, accepted, ?_, ?_⟩
  · obtain ⟨trimmed, nonempty⟩ := trimmed_meant pieces
    have fixed : meant ((meant pieces).map canonical) = (meant pieces).map canonical :=
      meant_trimmed (trimmed_canonical trimmed) (by simpa using nonempty)
    have same : ((meant pieces).map canonical).flatMap rewritten = (meant pieces).flatMap rewritten := by
      rw [List.flatMap_map]
      refine congrArg (List.flatMap · (meant pieces)) (funext fun p => ?_)
      cases p <;> rfl
    rw [canonical_, normalize_write, fixed, same, canonical_]
  · intro iata publicKey
    rw [renderPacketTopic, accepted, canonical_]
    exact (expand_write _ _).trans (emit_format other iata publicKey _)

end

/-- A name of a field as it is usually written. -/
def plainField (known : TopicField) : TopicPiece := .field known known.word (by cases known <;> decide)

theorem plain_template_renders :
    Braceless [.text 'm', .text '/', plainField .iata] ∧
      renderPacketTopic .asciiOnly (fun _ => .error "KeyError")
        (write [.text ' ', .text 'm', .text '/', plainField .iata]) ['N', 'Y', 'C'] [] =
          .ok ['m', '/', 'N', 'Y', 'C'] := by
  have renders := (template_renders .asciiOnly (fun _ => .error "KeyError")
    [.text ' ', .text 'm', .text '/', plainField .iata]).2 ⟨by simp [plainField], by simp [plainField]⟩
  obtain ⟨_, _, _, rendered⟩ := renders
  exact ⟨⟨by simp [plainField], by simp [plainField]⟩, rendered ['N', 'Y', 'C'] []⟩

/-- A blank before the literal text is lost, and so is a brace in it, which the second reading
does not even accept. -/
theorem blank_and_brace_lost :
    renderPacketTopic .asciiOnly (fun _ => .error "KeyError") (write [.text ' ', .text 'm']) [] [] =
      .ok ['m'] ∧
    normalizeTopicTemplate .asciiOnly (write [.text '\x7b']) = .ok ['\x7b'] ∧
    normalizeTopicTemplate .asciiOnly ['\x7b'] =
      .error "Single '\x7b' encountered in format string" ∧
    renderPacketTopic .asciiOnly (fun _ => .error "KeyError") (write [.text '\x7b']) [] [] =
      .error "Single '\x7b' encountered in format string" := by
  refine ⟨?_, ?_, ?_, ?_⟩
  · rfl
  · rfl
  · rfl
  · rfl

end Meshloom.TopicTemplate
