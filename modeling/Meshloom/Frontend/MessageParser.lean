import Meshloom.Packet.GroupTextProofs
import Meshloom.Utf16

/-! The sender that the frontend reads from the text of a channel message
(`parseSenderFromText`), beside the one that the backend split off before it stored the text. -/
namespace Meshloom.MessageParser
open Packet TextSearch Utf16

/-- `": "` -/
def separator : Units := encode [':', ' ']

def colon : UInt16 := ascii ':'

/-- The sender, with the content. -/
def parseSenderFromText (text : Units) : Option Units × Units :=
  match indexOf separator text with
  | some colonIndex =>
    if 0 < colonIndex ∧ colonIndex < 50 then
      let potentialSender := text.take colonIndex
      if colon ∉ potentialSender then (some potentialSender, text.drop (colonIndex + 2))
      else (none, text)
    else (none, text)
  | none => (none, text)

/-- The two sides disagree about this name: brackets are forbidden on one of them only, and the
bound is on characters there and on code units here. -/
def Disputed (name : List Char) : Prop :=
  name ≠ [] ∧ ':' ∉ name ∧
    (((encode name).length < 50 ∧ ('[' ∈ name ∨ ']' ∈ name)) ∨
      (name.length < 50 ∧ 50 ≤ (encode name).length ∧ '[' ∉ name ∧ ']' ∉ name))

theorem separator_eq : separator = [ascii ':', ascii ' '] := by
  decide +kernel

section Frontend
variable {text name content : Units}

theorem parseSenderFromText_some : parseSenderFromText text = (some name, content) ↔
    text = name ++ separator ++ content ∧ name ≠ [] ∧ name.length < 50 ∧ colon ∉ name := by
  constructor
  · intro parsed
    unfold parseSenderFromText at parsed
    cases found : indexOf separator text with
    | none => simp [found] at parsed
    | some i =>
        obtain ⟨front, back, rfl, rfl⟩ := indexOf_eq_some found
        have behind : front.length + 2 = (front ++ separator).length := by
          rw [separator_eq, List.length_append]
          rfl
        rw [found] at parsed
        dsimp only at parsed
        split at parsed
        · rename_i bound
          rw [List.append_assoc, List.take_left, ← List.append_assoc, behind, List.drop_left] at parsed
          split at parsed
          · rename_i fresh
            simp only [Prod.mk.injEq, Option.some.injEq] at parsed
            obtain ⟨rfl, rfl⟩ := parsed
            exact ⟨rfl, List.ne_nil_of_length_pos bound.1, bound.2, fresh⟩
          · simp at parsed
        · simp at parsed
  · rintro ⟨rfl, written, short, fresh⟩
    have found : indexOf separator (name ++ separator ++ content) = some name.length := by
      rw [separator_eq]
      exact indexOf_append fresh
    have behind : name.length + 2 = (name ++ separator).length := by
      rw [separator_eq, List.length_append]
      rfl
    unfold parseSenderFromText
    rw [found]
    dsimp only
    rw [if_pos ⟨List.length_pos_of_ne_nil written, short⟩, List.append_assoc, List.take_left,
      ← List.append_assoc, behind, List.drop_left, if_pos fresh]

theorem parseSenderFromText_none (unnamed : (parseSenderFromText text).1 = none) :
    parseSenderFromText text = (none, text) := by
  unfold parseSenderFromText at unnamed ⊢
  dsimp only at unnamed ⊢
  split at unnamed
  · split at unnamed
    · split at unnamed
      · contradiction
      · simp_all
    · simp_all
  · simp_all

end Frontend

section Backend
variable {text name content : List Char}

theorem splitSender_some (clean : '\x00' ∉ text) : splitSender text = (some name, content) ↔
    text = name ++ [':', ' '] ++ content ∧ name ≠ [] ∧ name.length < 50 ∧ ':' ∉ name ∧
      '[' ∉ name ∧ ']' ∉ name := by
  have allowed (name : List Char) : ¬ name.any (· ∈ senderForbidden) = true ↔
      ':' ∉ name ∧ '[' ∉ name ∧ ']' ∉ name ∧ '\x00' ∉ name := by
    simp only [senderForbidden, List.any_eq_true, decide_eq_true_eq, List.mem_cons,
      List.not_mem_nil, or_false, not_exists, not_and]
    constructor
    · intro all
      exact ⟨fun m => all _ m (.inl rfl), fun m => all _ m (.inr (.inl rfl)),
        fun m => all _ m (.inr (.inr (.inl rfl))), fun m => all _ m (.inr (.inr (.inr rfl)))⟩
    · rintro ⟨noColon, noOpen, noClose, noNull⟩ c member (rfl | rfl | rfl | rfl)
      · exact noColon member
      · exact noOpen member
      · exact noClose member
      · exact noNull member
  constructor
  · intro parsed
    unfold splitSender at parsed
    cases found : search (literal [':', ' ']) text with
    | none => simp [found] at parsed
    | some stop =>
        obtain ⟨before, rest, m, rfl, here, rfl⟩ := search_eq_some found
        obtain ⟨⟨tail, rfl⟩, rfl⟩ := literal_eq_some_iff.mp here
        have colonIdx : before.length + [':', ' '].length - 2 = before.length := rfl
        rw [found] at parsed
        dsimp only at parsed
        rw [colonIdx, List.take_left] at parsed
        split at parsed
        · rename_i named
          obtain ⟨positive, short, fine⟩ := named
          rw [← List.append_assoc, List.drop_left' (by rw [List.length_append]; rfl)] at parsed
          simp only [Prod.mk.injEq, Option.some.injEq] at parsed
          obtain ⟨rfl, rfl⟩ := parsed
          obtain ⟨noColon, noOpen, noClose, _⟩ := (allowed before).mp fine
          exact ⟨by rw [List.append_assoc], List.ne_nil_of_length_pos positive, short, noColon, noOpen,
            noClose⟩
        · simp at parsed
  · rintro ⟨rfl, written, short, noColon, noOpen, noClose⟩
    have noNull : '\x00' ∉ name := fun member => clean (by simp [member])
    have clear : clearOf [':', ' '] name = true := clearOf_of_head noColon
    have colonIdx : name.length + [':', ' '].length - 2 = name.length := rfl
    have behind : name.length + 2 = (name ++ [':', ' ']).length := by
      rw [List.length_append]
      rfl
    unfold splitSender
    rw [search_literal_append clear content]
    dsimp only
    rw [colonIdx, List.append_assoc, List.take_left, ← List.append_assoc, behind, List.drop_left,
      if_pos ⟨List.length_pos_of_ne_nil written, short, (allowed name).mpr
        ⟨noColon, noOpen, noClose, noNull⟩⟩]

theorem splitSender_none (unnamed : (splitSender text).1 = none) :
    splitSender text = (none, text) := by
  unfold splitSender at unnamed ⊢
  dsimp only at unnamed ⊢
  split at unnamed
  · split at unnamed
    · contradiction
    · simp_all
  · simp_all

end Backend

section Agreement
variable {text : List Char}

theorem colon_plain : (':' : Char).toNat < 128 := by decide

theorem blank_plain : (' ' : Char).toNat < 128 := by decide

theorem encode_separated (name content : List Char) :
    encode (name ++ [':', ' '] ++ content) = encode name ++ separator ++ encode content := by
  rw [encode_append, encode_append, separator]

/-- The frontend names the sender of a text that has a short name without a colon in front. -/
theorem parse_encode_some (text : List Char) (sender : Units) :
    (parseSenderFromText (encode text)).1 = some sender ↔ ∃ name content,
      text = name ++ [':', ' '] ++ content ∧ encode name = sender ∧ name ≠ [] ∧
        (encode name).length < 50 ∧ ':' ∉ name := by
  have whole : (parseSenderFromText (encode text)).1 = some sender ↔
      ∃ content, parseSenderFromText (encode text) = (some sender, content) := by
    simp only [Prod.ext_iff, exists_and_left, exists_eq', and_true]
  rw [whole]
  simp only [parseSenderFromText_some]
  constructor
  · rintro ⟨content, same, written, short, fresh⟩
    rw [separator_eq, List.append_assoc, List.cons_append] at same
    obtain ⟨name, rest, rfl, rfl, tail⟩ := encode_split colon_plain same
    obtain ⟨_, content', rfl, nothing, rfl⟩ :=
      encode_split (a := []) blank_plain tail
    obtain rfl := encode_eq_nil_iff.mp nothing
    refine ⟨name, content', by simp, rfl, mt encode_eq_nil_iff.mpr written, short, ?_⟩
    exact mt (ascii_mem_encode colon_plain).mpr fresh
  · rintro ⟨name, content, rfl, rfl, written, short, fresh⟩
    exact ⟨encode content, encode_separated name content, mt encode_eq_nil_iff.mp written, short,
      mt (ascii_mem_encode colon_plain).mp fresh⟩

/-- The first separator behind a name without a colon is that name's. -/
theorem name_unique {a b c d : List Char} (same : a ++ [':', ' '] ++ c = b ++ [':', ' '] ++ d)
    (first : ':' ∉ a) (second : ':' ∉ b) : a = b ∧ c = d := by
  have found : indexOf [':', ' '] (a ++ [':', ' '] ++ c) = some a.length := indexOf_append first
  rw [same, indexOf_append second, Option.some.injEq] at found
  rw [List.append_assoc, List.append_assoc] at same
  obtain ⟨rfl, rest⟩ := List.append_inj same found.symm
  exact ⟨rfl, by simpa using rest⟩

/-- The frontend reads the sender and the content that the backend split off, unless the text begins
with a name that the two sides dispute. -/
theorem senders_agree_iff (clean : '\x00' ∉ text) :
    parseSenderFromText (encode (storedText (splitSender text).1 (splitSender text).2)) =
        ((splitSender text).1.map encode, encode (splitSender text).2) ↔
      ¬ ∃ name content, text = name ++ [':', ' '] ++ content ∧ Disputed name := by
  rw [storedText_splitSender]
  cases named : (splitSender text).1 with
  | none =>
      have split := splitSender_none named
      rw [split, Option.map_none]
      constructor
      · rintro agree ⟨name, content, rfl, written, fresh, ⟨short, _⟩ | ⟨short, _, noOpen, noClose⟩⟩
        · have parsed := (parse_encode_some _ _).mpr ⟨name, content, rfl, rfl, written, short, fresh⟩
          rw [agree] at parsed
          contradiction
        · have taken := (splitSender_some clean).mpr ⟨rfl, written, short, fresh, noOpen, noClose⟩
          rw [taken] at split
          simp at split
      · intro undisputed
        refine parseSenderFromText_none (Option.eq_none_iff_forall_ne_some.mpr fun sender parsed => ?_)
        obtain ⟨name, content, rfl, _, written, short, fresh⟩ := (parse_encode_some _ _).mp parsed
        refine undisputed ⟨name, content, rfl, written, fresh, .inl ⟨short, ?_⟩⟩
        by_contra plain
        obtain ⟨noOpen, noClose⟩ := not_or.mp plain
        have fits := (length_encode name).trans_lt short
        have taken := (splitSender_some clean).mpr ⟨rfl, written, fits, fresh, noOpen, noClose⟩
        rw [taken] at named
        contradiction
  | some name =>
      have split : splitSender text = (some name, (splitSender text).2) := Prod.ext named rfl
      obtain ⟨same, written, short, fresh, noOpen, noClose⟩ := (splitSender_some clean).mp split
      have agree : parseSenderFromText (encode text) =
          (some (encode name), encode (splitSender text).2) ↔ (encode name).length < 50 := by
        rw [parseSenderFromText_some]
        refine ⟨fun parsed => parsed.2.2.1, fun bound => ⟨?_, mt encode_eq_nil_iff.mp written, bound,
          mt (ascii_mem_encode colon_plain).mp fresh⟩⟩
        rw [← encode_separated, ← same]
      rw [Option.map_some, agree]
      constructor
      · rintro bound ⟨other, content, split', _, plain, disputed⟩
        obtain ⟨rfl, _⟩ := name_unique (same.symm.trans split') fresh plain
        rcases disputed with ⟨_, opened | closed⟩ | ⟨_, long, _⟩
        · exact noOpen opened
        · exact noClose closed
        · omega
      · intro undisputed
        by_contra long
        exact undisputed ⟨name, _, same, written, fresh, .inr ⟨short, not_lt.mp long, noOpen, noClose⟩⟩

/-- A bracketed name is a sender to the frontend only. -/
theorem bracketed_sender_differs : ¬ ∀ text : List Char, '\x00' ∉ text →
    parseSenderFromText (encode (storedText (splitSender text).1 (splitSender text).2)) =
      ((splitSender text).1.map encode, encode (splitSender text).2) := by
  intro agree
  have differs := agree ['[', 'B', 'o', 'b', ']', ':', ' ', 'h', 'i'] (by decide)
  revert differs
  decide +kernel

/-- A plain name is read on both sides. -/
theorem senders_agree_iff_alice :
    let text := ['A', 'l', 'i', 'c', 'e', ':', ' ', 'h', 'i']
    parseSenderFromText (encode (storedText (splitSender text).1 (splitSender text).2)) =
      ((splitSender text).1.map encode, encode (splitSender text).2) := by
  intro text
  refine (senders_agree_iff (by decide)).mpr ?_
  rintro ⟨name, content, same, _, fresh, disputed⟩
  obtain ⟨rfl, _⟩ := name_unique (a := ['A', 'l', 'i', 'c', 'e']) (c := ['h', 'i']) same
    (by decide) fresh
  revert disputed
  decide +kernel

end Agreement

end Meshloom.MessageParser
