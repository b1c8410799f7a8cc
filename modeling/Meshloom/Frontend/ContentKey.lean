import Meshloom.Json
import Meshloom.Frontend.Message

/-! The content key of a displayed message against the unique indexes that keep one row of each
message. The key joins its parts with dashes, and the text may hold dashes and numbers itself. -/
namespace Meshloom.Frontend
namespace Message

/-- The sender that tells incoming direct messages apart, empty for none. -/
def sender (msg : Message) : String := if msg.type = .priv then msg.senderKey.getD "" else ""

/-- What stands for the time in the key. -/
def stamp (msg : Message) : String :=
  match msg.senderTimestamp with
  | some timestamp => toString timestamp
  | none => "r" ++ toString msg.receivedAt ++ "-" ++ toString msg.id

/-- What a message without a sender timestamp has between its text and its id. -/
def arrival (msg : Message) : String :=
  match msg.senderTimestamp with
  | some _ => ""
  | none => "-r" ++ toString msg.receivedAt

/-- The number at the end of the time. -/
def number (msg : Message) : Int := msg.senderTimestamp.getD msg.id

/-- Keys are hexadecimal. -/
structure HexKeys (msg : Message) : Prop where
  conversation : ∀ c ∈ msg.conversationKey.toList, (Bytes.hexValue c).isSome
  sender : ∀ c ∈ msg.sender.toList, (Bytes.hexValue c).isSome

/-- One class of the unique indexes, for messages with a sender timestamp. -/
structure SameContent (a b : Message) : Prop where
  type : a.type = b.type
  conversation : a.conversationKey = b.conversationKey
  text : a.text = b.text
  timestamp : a.senderTimestamp = b.senderTimestamp
  sender : a.sender = b.sender

theorem SameContent.symm (same : SameContent a b) : SameContent b a :=
  ⟨same.type.symm, same.conversation.symm, same.text.symm, same.timestamp.symm, same.sender.symm⟩

/-- The texts that let the parts of two different messages join into one key. -/
inductive Confused (a b : Message) : Prop where
  /-- the dash of a negative number as the end of the text -/
  | sign (negative : a.number < 0) (time : b.senderTimestamp = some (-a.number))
      (text : b.text = a.text ++ a.arrival ++ "-") (sender : a.sender = b.sender)
  /-- the time of arrival in the text, the id as the timestamp -/
  | row (missing : a.senderTimestamp = none) (time : b.senderTimestamp = some a.id)
      (text : b.text = a.text ++ a.arrival) (sender : a.sender = b.sender)
  /-- the time in the text, the sender as the timestamp -/
  | sender (timestamp : Int) (time : b.senderTimestamp = some timestamp)
      (text : b.text = a.text ++ "-" ++ a.stamp) (named : a.sender = toString timestamp)
      (unnamed : b.sender = "")
  /-- a negative time of arrival as the timestamp, the id as the sender -/
  | received (negative : b.receivedAt < 0) (missing : b.senderTimestamp = none)
      (time : a.senderTimestamp = some (-b.receivedAt)) (text : a.text = b.text ++ "-r")
      (named : a.sender = toString b.id) (unnamed : b.sender = "")

/-- Two messages of one conversation that the key takes for one. -/
structure Confusable (a b : Message) : Prop where
  type : a.type = b.type
  conversation : a.conversationKey = b.conversationKey
  compared : a.senderTimestamp ≠ none ∧ b.senderTimestamp ≠ none ∨ a.id ≠ b.id
  confused : Confused a b ∨ Confused b a

end Message

section Separators

/-- Two texts up to the first mark. -/
theorem append_first_inj {mark : Char} {a b rest rest' : List Char} (plain : mark ∉ a)
    (plain' : mark ∉ b) (same : a ++ mark :: rest = b ++ mark :: rest') : a = b ∧ rest = rest' := by
  have other {text : List Char} (plain : mark ∉ text) : ∀ c ∈ text, (mark == c) = false := by
    intro c member
    rw [beq_eq_false_iff_ne]
    rintro rfl
    exact plain member
  exact Json.append_mark_inj (beq_self_eq_true mark) (other plain) (other plain') same

/-- Two texts from the last mark. -/
theorem append_last_inj {mark : Char} {a b rest rest' : List Char} (plain : mark ∉ a)
    (plain' : mark ∉ b) (same : rest ++ mark :: a = rest' ++ mark :: b) : rest = rest' ∧ a = b := by
  have turned : a.reverse ++ mark :: rest.reverse = b.reverse ++ mark :: rest'.reverse := by
    simpa using congrArg List.reverse same
  obtain ⟨back, front⟩ := append_first_inj (by simpa using plain) (by simpa using plain') turned
  exact ⟨List.reverse_injective front, List.reverse_injective back⟩

def digits (n : Int) : List Char := n.natAbs.repr.toList

def sign (n : Int) : List Char := if n < 0 then ['-'] else []

theorem toList_repr (n : Int) : n.repr.toList = sign n ++ digits n := by
  cases n with
  | ofNat n => rfl
  | negSucc n =>
      rw [Int.repr, String.toList_append, sign, if_pos (Int.negSucc_lt_zero n)]
      rfl

theorem dash_sign (n : Int) (rest : List Char) : '-' :: (sign n ++ rest) = sign n ++ '-' :: rest := by
  unfold sign
  split <;> rfl

theorem isDigit_digits {n : Int} : ∀ c ∈ digits n, c.isDigit = true := by
  intro c member
  rw [digits, Nat.toList_repr] at member
  exact Nat.isDigit_of_mem_toDigits (by decide) (by decide) member

theorem dash_notMem_digits (n : Int) : '-' ∉ digits n :=
  fun member => absurd (isDigit_digits _ member) (by decide)

/-- What ends in a number ends in no other character. -/
theorem append_digits_ne {c : Char} (other : c.isDigit = false) (n : Int) (front text : List Char) :
    front ++ digits n ≠ text ++ [c] := by
  have some_digit : digits n ≠ [] := by
    rw [digits, Nat.toList_repr]
    exact Nat.toDigits_ne_nil
  intro same
  have last := congrArg List.getLast? same
  rw [List.getLast?_append_of_ne_nil _ some_digit, List.getLast?_concat] at last
  have digit := isDigit_digits c (List.mem_of_getLast? last)
  simp [other] at digit

theorem digits_inj {n m : Int} : digits n = digits m ↔ n.natAbs = m.natAbs := by
  simp only [digits, String.toList_inj, Nat.repr_inj]

end Separators

namespace Message
variable {a b : Message}

theorem HexKeys.plain (hex : a.HexKeys) :
    '-' ∉ a.conversationKey.toList ∧ '-' ∉ a.sender.toList := by
  have digit : (Bytes.hexValue '-').isSome = false := by decide
  refine ⟨fun member => ?_, fun member => ?_⟩
  · simpa [digit] using hex.conversation _ member
  · simpa [digit] using hex.sender _ member

/-- The key behind the conversation, up to the last number. -/
def body (msg : Message) : List Char := msg.text.toList ++ msg.arrival.toList

def suffix (msg : Message) : List Char :=
  if msg.sender = "" then [] else '-' :: msg.sender.toList

def tail (msg : Message) : List Char :=
  msg.body ++ sign msg.number ++ '-' :: digits msg.number ++ msg.suffix

theorem toList_contentKey (msg : Message) :
    (getMessageContentKey msg).toList = (typeName msg.type).toList ++
      '-' :: (msg.conversationKey.toList ++ '-' :: msg.tail) := by
  obtain ⟨id, type, conversationKey, text, senderTimestamp, receivedAt, _, senderKey, _⟩ := msg
  cases type with
  | chan =>
      cases senderTimestamp <;>
        simp [getMessageContentKey, tail, body, suffix, sender, arrival, number, toList_repr,
          dash_sign]
  | priv =>
      cases senderKey with
      | none =>
          cases senderTimestamp <;>
            simp [getMessageContentKey, tail, body, suffix, sender, arrival, number, toList_repr,
              dash_sign]
      | some senderKey =>
          by_cases empty : senderKey = "" <;> cases senderTimestamp <;>
            simp [getMessageContentKey, tail, body, suffix, sender, arrival, number, toList_repr,
              dash_sign, empty]

theorem contentKey_eq_iff (hex : a.HexKeys) (hex' : b.HexKeys) :
    getMessageContentKey a = getMessageContentKey b ↔
      a.type = b.type ∧ a.conversationKey = b.conversationKey ∧ a.tail = b.tail := by
  have named (type : Messages.MessageType) : '-' ∉ (typeName type).toList := by
    cases type <;> simp [typeName]
  rw [← String.toList_inj, toList_contentKey, toList_contentKey]
  refine ⟨fun same => ?_, fun ⟨type, conversation, same⟩ => by rw [type, conversation, same]⟩
  obtain ⟨type, same⟩ := append_first_inj (named a.type) (named b.type) same
  obtain ⟨conversation, same⟩ := append_first_inj hex.plain.1 hex'.plain.1 same
  refine ⟨?_, String.toList_inj.mp conversation, same⟩
  revert type
  cases a.type <;> cases b.type <;> simp [typeName]

/-- A body that ends in a dash is a text alone. -/
theorem body_dash {text : List Char} (ends : b.body = text ++ ['-']) :
    ∃ timestamp, b.senderTimestamp = some timestamp := by
  cases time : b.senderTimestamp with
  | some timestamp => exact ⟨timestamp, rfl⟩
  | none =>
      simp only [body, arrival, time, String.toList_append] at ends
      exact absurd ends (by
        simpa [toList_repr] using append_digits_ne (by decide) b.receivedAt
          (b.text.toList ++ '-' :: 'r' :: sign b.receivedAt) text)

/-- The two bodies of keys that end in the same sender. -/
theorem tail_same_sender (sender : a.sender = b.sender) :
    a.tail = b.tail ↔ a.number = b.number ∧ a.body = b.body ∨
      a.number < 0 ∧ b.number = -a.number ∧ b.body = a.body ++ ['-'] ∨
      b.number < 0 ∧ a.number = -b.number ∧ a.body = b.body ++ ['-'] := by
  have same_suffix : a.suffix = b.suffix := by rw [suffix, sender, suffix]
  have joined : a.tail = b.tail ↔
      a.body ++ sign a.number = b.body ++ sign b.number ∧ a.number.natAbs = b.number.natAbs := by
    rw [tail, tail, same_suffix, List.append_left_inj, ← digits_inj]
    exact ⟨append_last_inj (dash_notMem_digits _) (dash_notMem_digits _),
      fun ⟨front, last⟩ => by rw [front, last]⟩
  rw [joined, sign, sign]
  split <;> split <;> simp only [List.append_left_inj, List.append_nil] <;> grind

/-- Of two keys only one of which ends in a sender, the other ends in it as its number. -/
theorem tail_named (hex : a.HexKeys) (named : a.sender ≠ "") (unnamed : b.sender = "") :
    a.tail = b.tail ↔ 0 ≤ b.number ∧ a.sender = toString b.number ∧
      b.body = a.body ++ '-' :: (sign a.number ++ digits a.number) := by
  have split : a.tail = (a.body ++ '-' :: (sign a.number ++ digits a.number)) ++
      '-' :: a.sender.toList := by
    simp [tail, suffix, named, dash_sign]
  have split' : b.tail = b.body ++ sign b.number ++ '-' :: digits b.number := by
    simp [tail, suffix, unnamed]
  rw [split, split', ← String.toList_inj, Int.toString_eq_repr, toList_repr]
  constructor
  · intro same
    obtain ⟨front, last⟩ := append_last_inj hex.plain.2 (dash_notMem_digits _) same
    by_cases negative : b.number < 0
    · rw [show sign b.number = ['-'] from if_pos negative] at front
      have dash : '-'.isDigit = false := by decide
      exact absurd front (by
        simpa using append_digits_ne dash a.number (a.body ++ '-' :: sign a.number) b.body)
    · simp only [sign, if_neg negative, List.append_nil] at front ⊢
      exact ⟨not_lt.mp negative, last, front.symm⟩
  · rintro ⟨positive, last, front⟩
    simp [sign, not_lt.mpr positive, last, front]

theorem tail_both_named (hex : a.HexKeys) (hex' : b.HexKeys) (named : a.sender ≠ "")
    (named' : b.sender ≠ "") (same : a.tail = b.tail) : a.sender = b.sender := by
  simp only [tail, suffix, if_neg named, if_neg named'] at same
  exact String.toList_inj.mp (append_last_inj hex.plain.2 hex'.plain.2 same).2

theorem body_stamp (msg : Message) :
    msg.body ++ '-' :: (sign msg.number ++ digits msg.number) =
      msg.text.toList ++ '-' :: msg.stamp.toList := by
  cases time : msg.senderTimestamp <;>
    simp [body, arrival, number, stamp, time, toList_repr, dash_sign]

theorem body_timed {timestamp : Int} (time : a.senderTimestamp = some timestamp) :
    a.body = a.text.toList := by
  simp [body, arrival, time]

theorem number_timed {timestamp : Int} (time : a.senderTimestamp = some timestamp) :
    a.number = timestamp := by
  simp [number, time]

theorem HexKeys.nonneg {timestamp : Int} (hex : a.HexKeys)
    (named : a.sender = toString timestamp) : a.sender ≠ "" ∧ 0 ≤ timestamp := by
  have letters : a.sender.toList = sign timestamp ++ digits timestamp := by
    rw [named, Int.toString_eq_repr, toList_repr]
  refine ⟨fun empty => ?_, not_lt.mp fun negative => ?_⟩
  · rw [empty] at letters
    exact append_digits_ne (c := '-') (by decide) timestamp ['-'] [] (by simp_all)
  · exact hex.plain.2 (by simp [letters, sign, negative])

theorem Confused.tail_eq (hex : a.HexKeys) (confused : Confused a b) : a.tail = b.tail := by
  cases confused with
  | sign negative time text sender =>
      refine (tail_same_sender sender).mpr (.inr (.inl ⟨negative, number_timed time, ?_⟩))
      rw [body_timed time, text]
      simp [body]
  | row missing time text sender =>
      refine (tail_same_sender sender).mpr (.inl ⟨?_, ?_⟩)
      · simp [number, missing, time]
      · rw [body_timed time, text]
        simp [body]
  | sender timestamp time text named unnamed =>
      obtain ⟨named', positive⟩ := hex.nonneg named
      refine (tail_named hex named' unnamed).mpr ?_
      rw [number_timed time, body_stamp, body_timed time, text]
      exact ⟨positive, named, by simp⟩
  | received negative missing time text named unnamed =>
      obtain ⟨named', positive⟩ := hex.nonneg named
      have number : b.number = b.id := by simp [Message.number, missing]
      refine (tail_named hex named' unnamed).mpr ?_
      rw [number, number_timed time, body_timed time, text]
      refine ⟨positive, named, ?_⟩
      have turned : digits (-b.receivedAt) = digits b.receivedAt := digits_inj.mpr (by omega)
      simp [body, arrival, missing, toList_repr, turned, Frontend.sign, negative,
        negative.le]

theorem Confused.not_same (hex : a.HexKeys) (confused : Confused a b) (same : SameContent a b) :
    False := by
  cases confused with
  | sign negative time text sender =>
      have timed := same.timestamp.trans time
      have := number_timed timed
      omega
  | row missing time text sender => simp [same.timestamp, time] at missing
  | sender timestamp time text named unnamed =>
      exact (hex.nonneg named).1 (same.sender.trans unnamed)
  | received negative missing time text named unnamed =>
      exact (hex.nonneg named).1 (same.sender.trans unnamed)

/-- Of messages of one sender: one class, one row, or confused. -/
theorem confused_of_same_sender (sender : a.sender = b.sender) (type : a.type = b.type)
    (conversation : a.conversationKey = b.conversationKey)
    (compared : a.senderTimestamp ≠ none ∧ b.senderTimestamp ≠ none ∨ a.id ≠ b.id)
    (same : a.tail = b.tail) :
    (SameContent a b ∧ a.senderTimestamp ≠ none) ∨ Confused a b ∨ Confused b a := by
  have negative_case {a b : Message} (negative : a.number < 0) (number : b.number = -a.number)
      (body_eq : b.body = a.body ++ ['-']) (sender : a.sender = b.sender) : Confused a b := by
    obtain ⟨timestamp, time⟩ := body_dash body_eq
    rw [number_timed time] at number
    rw [body_timed time] at body_eq
    exact .sign negative (number ▸ time) (String.toList_inj.mp (by simp [body_eq, body])) sender
  have row_case {a b : Message} {timestamp : Int} (missing : a.senderTimestamp = none)
      (time : b.senderTimestamp = some timestamp) (number : a.number = b.number)
      (body_eq : a.body = b.body) (sender : a.sender = b.sender) : Confused a b := by
    have id : a.id = timestamp := by
      rw [← number_timed time, ← number]
      simp [Message.number, missing]
    rw [body_timed time] at body_eq
    exact .row missing (id ▸ time) (String.toList_inj.mp (by simp [← body_eq, body])) sender
  obtain ⟨number, body_eq⟩ | ⟨negative, number, body_eq⟩ | ⟨negative, number, body_eq⟩ :=
    (tail_same_sender sender).mp same
  · cases time : a.senderTimestamp with
    | some timestamp =>
        cases time' : b.senderTimestamp with
        | some timestamp' =>
            rw [number_timed time, number_timed time'] at number
            rw [body_timed time, body_timed time', String.toList_inj] at body_eq
            exact .inl ⟨⟨type, conversation, body_eq, by rw [time, time', number], sender⟩, by simp⟩
        | none => exact .inr (.inr (row_case time' time number.symm body_eq.symm sender.symm))
    | none =>
        cases time' : b.senderTimestamp with
        | some timestamp' => exact .inr (.inl (row_case time time' number body_eq sender))
        | none =>
            have id : a.id = b.id := by simpa [Message.number, time, time'] using number
            simp [time, id] at compared
  · exact .inr (.inl (negative_case negative number body_eq sender))
  · exact .inr (.inr (negative_case negative number body_eq sender.symm))

/-- Of a message with a sender and one without, the text of the second holds the time of the
first. -/
theorem confused_of_named (hex : a.HexKeys) (named : a.sender ≠ "") (unnamed : b.sender = "")
    (same : a.tail = b.tail) : Confused a b := by
  obtain ⟨positive, eq, body_eq⟩ := (tail_named hex named unnamed).mp same
  cases time : b.senderTimestamp with
  | some timestamp =>
      rw [body_stamp, body_timed time] at body_eq
      rw [number_timed time] at eq
      exact .sender timestamp time (String.toList_inj.mp (by simp [body_eq])) eq unnamed
  | none =>
      have number : b.number = b.id := by simp [Message.number, time]
      rw [number] at eq positive
      have parts : b.text.toList ++ '-' :: 'r' :: (sign b.receivedAt ++ digits b.receivedAt) =
          a.body ++ '-' :: (sign a.number ++ digits a.number) := by
        simpa [body, arrival, time, toList_repr] using body_eq
      by_cases negative : b.receivedAt < 0
      · rw [show sign b.receivedAt = ['-'] from if_pos negative] at parts
        have regrouped : (b.text.toList ++ ['-', 'r']) ++ '-' :: digits b.receivedAt =
            (a.body ++ sign a.number) ++ '-' :: digits a.number := by
          simpa [dash_sign] using parts
        obtain ⟨front, size⟩ :=
          append_last_inj (dash_notMem_digits b.receivedAt) (dash_notMem_digits a.number) regrouped
        have last := congrArg List.getLast? front
        have signless : ¬ a.number < 0 := by
          intro less
          simp [sign, less] at last
        simp only [sign, if_neg signless, List.append_nil] at front
        cases time' : a.senderTimestamp with
        | some timestamp =>
            have size := digits_inj.mp size
            rw [number_timed time'] at size signless
            have opposite : timestamp = -b.receivedAt := by omega
            rw [body_timed time'] at front
            exact .received negative time (opposite ▸ time')
              (String.toList_inj.mp (by simp [← front])) eq unnamed
        | none =>
            simp only [body, arrival, time'] at front
            exact absurd front.symm (by
              simpa [toList_repr] using append_digits_ne (c := 'r') (by decide) a.receivedAt
                (a.text.toList ++ '-' :: 'r' :: sign a.receivedAt) (b.text.toList ++ ['-']))
      · rw [show sign b.receivedAt = [] from if_neg negative] at parts
        have no_dash : '-' ∉ 'r' :: digits b.receivedAt := by
          simp [dash_notMem_digits]
        have regrouped : b.text.toList ++ '-' :: ('r' :: digits b.receivedAt) =
            (a.body ++ sign a.number) ++ '-' :: digits a.number := by
          simpa [dash_sign] using parts
        obtain ⟨_, number⟩ := append_last_inj no_dash (dash_notMem_digits a.number) regrouped
        have digit := isDigit_digits 'r' (number ▸ List.mem_cons_self)
        exact absurd digit (by decide)

/-- Two messages of one conversation have the same key when they are of one class, or confused. -/
theorem contentKey_eq_iff_confused (hex : a.HexKeys) (hex' : b.HexKeys)
    (compared : a.senderTimestamp ≠ none ∧ b.senderTimestamp ≠ none ∨ a.id ≠ b.id) :
    getMessageContentKey a = getMessageContentKey b ↔
      (SameContent a b ∧ a.senderTimestamp ≠ none) ∨ Confusable a b := by
  rw [contentKey_eq_iff hex hex']
  constructor
  · rintro ⟨type, conversation, same⟩
    by_cases sender : a.sender = b.sender
    · rcases confused_of_same_sender sender type conversation compared same with content | confused
      · exact .inl content
      · exact .inr ⟨type, conversation, compared, confused⟩
    refine .inr ⟨type, conversation, compared, ?_⟩
    by_cases named : a.sender = ""
    · exact .inr (confused_of_named hex' (fun empty => sender (named.trans empty.symm)) named
        same.symm)
    by_cases named' : b.sender = ""
    · exact .inl (confused_of_named hex named named' same)
    · exact (sender (tail_both_named hex hex' named named' same)).elim
  · rintro (⟨content, timed⟩ | confusable)
    · refine ⟨content.type, content.conversation, (tail_same_sender content.sender).mpr (.inl ?_)⟩
      obtain ⟨timestamp, time⟩ := Option.ne_none_iff_exists'.mp timed
      have time' := content.timestamp ▸ time
      rw [number_timed time, number_timed time', body_timed time, body_timed time', content.text]
      exact ⟨rfl, rfl⟩
    · refine ⟨confusable.type, confusable.conversation, ?_⟩
      rcases confusable.confused with confused | confused
      · exact confused.tail_eq hex
      · exact (confused.tail_eq hex').symm

/-- The key separates two messages just as the indexes do, and a message without a timestamp from
every other one, unless their texts make the parts of the one key join like those of the other. -/
theorem contentKey_separates_iff (a b : Message) (hex : a.HexKeys) (hex' : b.HexKeys) :
    (a.senderTimestamp ≠ none → b.senderTimestamp ≠ none →
        (getMessageContentKey a = getMessageContentKey b ↔ SameContent a b)) ∧
      (a.senderTimestamp = none ∨ b.senderTimestamp = none → a.id ≠ b.id →
        getMessageContentKey a ≠ getMessageContentKey b) ↔
    ¬ Confusable a b := by
  constructor
  · rintro ⟨timed, untimed⟩ confusable
    have same := (contentKey_eq_iff_confused hex hex' confusable.compared).mpr (.inr confusable)
    have different : ¬ SameContent a b := by
      intro content
      rcases confusable.confused with confused | confused
      · exact confused.not_same hex content
      · exact confused.not_same hex' content.symm
    by_cases both : a.senderTimestamp ≠ none ∧ b.senderTimestamp ≠ none
    · exact different ((timed both.1 both.2).mp same)
    · have missing : a.senderTimestamp = none ∨ b.senderTimestamp = none := by
        by_contra neither
        exact both (not_or.mp neither)
      exact untimed missing (confusable.compared.resolve_left both) same
  · intro clear
    refine ⟨fun time time' => ?_, fun missing other same => ?_⟩
    · rw [contentKey_eq_iff_confused hex hex' (.inl ⟨time, time'⟩)]
      simp [clear, time]
    · rcases (contentKey_eq_iff_confused hex hex' (.inr other)).mp same with ⟨content, time⟩ | confusable
      · rcases missing with missing | missing
        · exact time missing
        · exact time (content.timestamp.trans missing)
      · exact clear confusable

/-- One text sent twice into a channel. -/
theorem contentKey_separates_twice :
    let a : Message := ⟨1, .chan, "8b", "Anna: hi", some 5, 100, none, none, 0, none, none, none⟩
    let b : Message := ⟨2, .chan, "8b", "Anna: hi", some 6, 101, none, none, 0, none, none, none⟩
    getMessageContentKey a = getMessageContentKey b ↔ SameContent a b := by
  intro a b
  have hex : a.HexKeys ∧ b.HexKeys :=
    ⟨⟨by simp [a, Bytes.hexValue], by simp [a, sender]⟩,
      ⟨by simp [b, Bytes.hexValue], by simp [b, sender]⟩⟩
  refine ((contentKey_separates_iff a b hex.1 hex.2).mpr ?_).1 (by simp [a]) (by simp [b])
  have clear {a b : Message} (hex : a.HexKeys) (signless : 0 ≤ a.number) (unnamed : a.sender = "")
      (timed : a.senderTimestamp ≠ none) (timed' : b.senderTimestamp ≠ none) : ¬ Confused a b := by
    rintro (⟨negative⟩ | ⟨missing⟩ | ⟨_, _, _, named⟩ | ⟨_, missing⟩)
    · exact absurd negative (not_lt.mpr signless)
    · exact timed missing
    · exact (hex.nonneg named).1 unnamed
    · exact timed' missing
  rintro ⟨_, _, _, confused | confused⟩
  · exact clear hex.1 (by simp [a, number]) (by simp [a, sender]) (by simp [a]) (by simp [b]) confused
  · exact clear hex.2 (by simp [b, number]) (by simp [b, sender]) (by simp [b]) (by simp [a]) confused

/-- A post in a room whose author's key reads as a number, and a direct message that quotes it. -/
theorem quoted_post_confused :
    ∃ a b : Message, a.HexKeys ∧ b.HexKeys ∧ a.senderTimestamp ≠ none ∧ b.senderTimestamp ≠ none ∧
      getMessageContentKey a = getMessageContentKey b ∧ ¬ SameContent a b := by
  refine ⟨⟨1, .priv, "8b3387e9", "hello", some 5, 100, none, some "12345678", 0, none, none, none⟩,
    ⟨2, .priv, "8b3387e9", "hello-5", some 12345678, 200, none, none, 0, none, none, none⟩,
    ⟨by simp [Bytes.hexValue], by simp [sender, Bytes.hexValue]⟩,
    ⟨by simp [Bytes.hexValue], by simp [sender]⟩, by simp, by simp, by decide +kernel, ?_⟩
  intro same
  exact absurd same.text (by decide)

/-- What the frontend holds of a row of the database. -/
structure Shows (row : Messages.Message) (msg : Message) : Prop where
  type : row.type = msg.type
  conversation : row.conversationKey = msg.conversationKey.toList
  text : row.text = msg.text
  timestamp : row.senderTimestamp = msg.senderTimestamp
  sender : row.senderKey = msg.senderKey.map String.toList

/-- The unique indexes hold the rows of two messages for one exactly when these are of one class. -/
theorem conflicts_iff_sameContent {row row' : Messages.Message} (shows_a : Shows row a)
    (shows_b : Shows row' b) (incoming : row.outgoing = false) (incoming' : row'.outgoing = false)
    (timed : a.senderTimestamp ≠ none) (timed' : b.senderTimestamp ≠ none) :
    row.conflicts row' = true ↔ SameContent a b := by
  obtain ⟨timestamp, time⟩ := Option.ne_none_iff_exists'.mp timed
  obtain ⟨timestamp', time'⟩ := Option.ne_none_iff_exists'.mp timed'
  have letters (key : Option String) :
      (key.map String.toList).getD [] = (key.getD "").toList := by
    cases key <;> simp
  have kind : row.conflicts row' = true ↔
      row.type = row'.type ∧ row.channelKey = row'.channelKey ∧
        (row.type = .priv → row.senderKey.getD [] = row'.senderKey.getD []) := by
    cases of : row.type <;> cases of' : row'.type <;>
      simp [Messages.Message.conflicts, Messages.Message.incoming, Messages.Message.incomingKey,
        Messages.Message.channelKey, of, of', incoming, incoming', and_assoc]
  rw [kind]
  simp only [Messages.Message.channelKey, shows_a.type, shows_b.type, shows_a.conversation,
    shows_b.conversation, shows_a.text, shows_b.text, shows_a.timestamp, shows_b.timestamp,
    shows_a.sender, shows_b.sender, time, time', Prod.mk.injEq, String.toList_inj, letters]
  constructor
  · rintro ⟨type, ⟨conversation, text, timestamps⟩, senders⟩
    refine ⟨type, conversation, text, ?_, ?_⟩
    · rw [time, time']
      exact congrArg some timestamps
    · simp only [sender, ← type]
      split
      · rename_i direct
        exact senders direct
      · rfl
  · rintro ⟨type, conversation, text, timestamps, senders⟩
    refine ⟨type, ⟨conversation, text, ?_⟩, fun direct => ?_⟩
    · rw [← time, ← time', timestamps]
    · simpa [sender, ← type, direct] using senders

end Message
end Meshloom.Frontend
