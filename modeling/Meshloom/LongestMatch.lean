import Mathlib.Data.List.Infix
import Mathlib.Data.List.Nodup

/-! Texts that are rewritten from the left, at each place by the rule with the longest key. The
rules are lists of keys with what replaces them, over any alphabet. When no key occurs in a
replacement, a text that has a key changes, and a key can only form across the border of two
tokens. -/
namespace Meshloom.LongestMatch
variable {α : Type}

/-- A key with its replacement. -/
abbrev Rule (α : Type) := List α × List α

structure Token (α : Type) where
  source : List α
  image : List α
  deriving DecidableEq

def images (tokens : List (Token α)) : List α := tokens.flatMap (·.image)

/-- No rule of greater length applies where the rule does. -/
structure Longest (rules : List (Rule α)) (rule : Rule α) (text : List α) : Prop where
  listed : rule ∈ rules
  written : rule.1 ≠ []
  starts : rule.1 <+: text
  greatest : ∀ other ∈ rules, other.1 <+: text → other.1.length ≤ rule.1.length

/-- No rule applies at the start of the text. -/
def Unmatched (rules : List (Rule α)) (text : List α) : Prop :=
  ∀ rule ∈ rules, rule.1 ≠ [] → ¬ rule.1 <+: text

inductive Tokenizes (rules : List (Rule α)) : List α → List (Token α) → Prop
  | nil : Tokenizes rules [] []
  | replaced {key image rest : List α} {tokens : List (Token α)} :
      Longest rules (key, image) (key ++ rest) → Tokenizes rules rest tokens →
      Tokenizes rules (key ++ rest) (⟨key, image⟩ :: tokens)
  | kept {c : α} {rest : List α} {tokens : List (Token α)} : Unmatched rules (c :: rest) →
      Tokenizes rules rest tokens → Tokenizes rules (c :: rest) (⟨[c], [c]⟩ :: tokens)

/-- No key occurs in a replacement. -/
def Clean (rules : List (Rule α)) : Prop :=
  ∀ rule ∈ rules, rule.1 ≠ [] → ∀ other ∈ rules, ¬ rule.1 <:+: other.2

/-- The key begins inside the image of one token and ends inside that of a later one. -/
def Spans (key : List α) (tokens : List (Token α)) : Prop :=
  ∃ before first middle last after start stop,
    tokens = before ++ first :: (middle ++ last :: after) ∧ start ≠ [] ∧ stop ≠ [] ∧
      start <:+ first.image ∧ stop <+: last.image ∧ key = start ++ images middle ++ stop

section Images
variable {tokens a b : List (Token α)} {key : List α}

@[simp] theorem images_nil : images ([] : List (Token α)) = [] := rfl

@[simp] theorem images_cons (token : Token α) (tokens : List (Token α)) :
    images (token :: tokens) = token.image ++ images tokens := rfl

@[simp] theorem images_append : images (a ++ b) = images a ++ images b := List.flatMap_append

theorem starts_images {start : List α} (written : start ≠ []) (starts : start <+: images tokens) :
    ∃ middle last after stop, tokens = middle ++ last :: after ∧ stop ≠ [] ∧ stop <+: last.image ∧
      start = images middle ++ stop := by
  induction tokens generalizing start with
  | nil => exact absurd (List.prefix_nil.mp starts) written
  | cons token rest ih =>
      obtain ⟨tail, same⟩ := starts
      rw [images_cons, List.append_eq_append_iff] at same
      obtain ⟨more, image, _⟩ | ⟨more, rfl, later⟩ := same
      · exact ⟨[], token, rest, start, rfl, written, ⟨more, image.symm⟩, rfl⟩
      · cases more with
        | nil =>
            rw [List.append_nil] at written ⊢
            exact ⟨[], token, rest, token.image, rfl, written, List.prefix_rfl, rfl⟩
        | cons c more =>
            obtain ⟨middle, last, after, stop, rfl, stopped, inside, same⟩ :=
              ih (List.cons_ne_nil c more) ⟨tail, later.symm⟩
            exact ⟨token :: middle, last, after, stop, rfl, stopped, inside, by simp [same]⟩

/-- A key occurs in the images inside one of them or across a border. -/
theorem inside_images_iff (written : key ≠ []) : key <:+: images tokens ↔
    (∃ token ∈ tokens, key <:+: token.image) ∨ Spans key tokens := by
  constructor
  · intro inside
    induction tokens with
    | nil => exact absurd (List.infix_nil.mp inside) written
    | cons token rest ih =>
        rcases List.infix_append_iff_ne_nil.mp inside with here | later |
          ⟨start, stop, started, stopped, same, ends, begins⟩
        · exact .inl ⟨token, List.mem_cons_self, here⟩
        · rcases ih later with ⟨other, member, here⟩ |
            ⟨before, first, middle, last, after, start, stop, rfl, rest⟩
          · exact .inl ⟨other, List.mem_cons_of_mem _ member, here⟩
          · exact .inr ⟨token :: before, first, middle, last, after, start, stop, rfl, rest⟩
        · obtain ⟨middle, last, after, stop', rfl, stopped', inside', rfl⟩ :=
            starts_images stopped begins
          refine .inr ⟨[], token, middle, last, after, start, stop', rfl, started, stopped', ends,
            inside', ?_⟩
          rw [same, List.append_assoc]
  · rintro (⟨token, member, here⟩ |
      ⟨before, first, middle, last, after, start, stop, rfl, _, _, ⟨front, ends⟩, ⟨back, begins⟩, rfl⟩)
    · obtain ⟨before, after, rfl⟩ := List.append_of_mem member
      rw [images_append, images_cons]
      exact List.infix_append_of_infix_right (List.infix_append_of_infix_left here)
    · refine ⟨images before ++ front, back ++ images after, ?_⟩
      simp only [images_append, images_cons, ← ends, ← begins, List.append_assoc]

end Images

section Tokens
variable {rules : List (Rule α)} {text : List α} {tokens others : List (Token α)}

theorem Tokenizes.sources (tokenized : Tokenizes rules text tokens) :
    tokens.flatMap (·.source) = text := by
  induction tokenized with
  | nil => rfl
  | replaced _ _ ih => rw [List.flatMap_cons, ih]
  | kept _ _ ih => rw [List.flatMap_cons, ih, List.singleton_append]

theorem Longest.outside {key image : List α} (clean : Clean rules)
    (longest : Longest rules (key, image) text) : ¬ key <:+: image :=
  clean _ longest.listed longest.written _ longest.listed

/-- The longest rule is the only one when keys are. -/
theorem Longest.unique {a b : Rule α} (distinct : (rules.map Prod.fst).Nodup)
    (first : Longest rules a text) (second : Longest rules b text) : a = b := by
  have lengths : a.1.length = b.1.length :=
    Nat.le_antisymm (second.greatest a first.listed first.starts)
      (first.greatest b second.listed second.starts)
  have keys : a.1 = b.1 :=
    (List.prefix_of_prefix_length_le first.starts second.starts lengths.le).eq_of_length lengths
  exact List.inj_on_of_nodup_map distinct first.listed second.listed keys

theorem Tokenizes.unique (distinct : (rules.map Prod.fst).Nodup)
    (first : Tokenizes rules text tokens) (second : Tokenizes rules text others) :
    tokens = others := by
  induction first generalizing others with
  | nil =>
      generalize same : ([] : List α) = text at second
      cases second with
      | nil => rfl
      | replaced longest _ =>
          exact absurd (List.append_eq_nil_iff.mp same.symm).1 longest.written
      | kept => contradiction
  | @replaced key image rest tokens longest _ ih =>
      generalize same : key ++ rest = text at second
      cases second with
      | nil => exact absurd (List.append_eq_nil_iff.mp same).1 longest.written
      | replaced longest' later =>
          rw [← same] at longest'
          obtain ⟨rfl, rfl⟩ := Prod.mk.inj (longest.unique distinct longest')
          rw [List.append_cancel_left same] at ih
          rw [ih later]
      | kept unmatched _ =>
          rw [← same] at unmatched
          exact absurd longest.starts (unmatched _ longest.listed longest.written)
  | @kept c rest tokens unmatched _ ih =>
      generalize same : c :: rest = text at second
      cases second with
      | nil => contradiction
      | replaced longest' _ =>
          rw [same] at unmatched
          exact absurd longest'.starts (unmatched _ longest'.listed longest'.written)
      | kept _ later =>
          obtain ⟨rfl, rfl⟩ := List.cons.inj same
          rw [ih later]

theorem Tokenizes.images_of_empty (empty : ∀ rule ∈ rules, rule.1 = [])
    (tokenized : Tokenizes rules text tokens) : images tokens = text := by
  induction tokenized with
  | nil => rfl
  | replaced longest _ _ => exact absurd (empty _ longest.listed) longest.written
  | kept _ _ ih => rw [images_cons, ih, List.singleton_append]

/-- No key lies inside one image. -/
theorem Tokenizes.image_clean (clean : Clean rules) (tokenized : Tokenizes rules text tokens) :
    ∀ token ∈ tokens, ∀ rule ∈ rules, rule.1 ≠ [] → ¬ rule.1 <:+: token.image := by
  induction tokenized with
  | nil => simp
  | replaced longest _ ih =>
      intro token member rule listed written
      rcases List.mem_cons.mp member with rfl | later
      · exact clean rule listed written _ longest.listed
      · exact ih token later rule listed written
  | @kept c rest tokens unmatched _ ih =>
      intro token member rule listed written
      rcases List.mem_cons.mp member with rfl | later
      · intro inside
        rcases List.infix_cons_iff.mp inside with starts | empty
        · exact unmatched rule listed written (starts.trans (List.prefix_append [c] rest))
        · exact written (List.infix_nil.mp empty)
      · exact ih token later rule listed written

/-- A longer text that ends with the source is never the image: an image that makes up for what is
missing would have its key inside. -/
theorem Tokenizes.no_lag (clean : Clean rules) (tokenized : Tokenizes rules text tokens)
    {ahead : List α} (some_ahead : ahead ≠ []) : images tokens ≠ ahead ++ text := by
  induction tokenized generalizing ahead with
  | nil =>
      intro same
      exact some_ahead (List.append_eq_nil_iff.mp same.symm).1
  | @replaced key image rest tokens longest _ ih =>
      intro same
      have outside := longest.outside clean
      rw [images_cons, ← List.append_assoc, List.append_eq_append_iff] at same
      obtain ⟨more, whole, later⟩ | ⟨more, rfl, _⟩ := same
      · cases more with
        | nil =>
            rw [List.append_nil] at whole
            exact outside ⟨ahead, [], by simpa using whole⟩
        | cons c more => exact ih (List.cons_ne_nil c more) later
      · exact outside (List.infix_append_of_infix_left List.infix_append_right)
  | @kept c rest tokens _ _ ih =>
      intro same
      obtain ⟨d, ahead, rfl⟩ := List.exists_cons_of_ne_nil some_ahead
      have later : images tokens = ahead ++ c :: rest := (List.cons.inj same).2
      have some_more : ahead ++ [c] ≠ [] := by simp
      refine ih some_more ?_
      simpa using later

/-- Exactly the texts without a key are their own images. -/
theorem Tokenizes.images_eq_iff (clean : Clean rules) (tokenized : Tokenizes rules text tokens) :
    images tokens = text ↔ ∀ rule ∈ rules, rule.1 ≠ [] → ¬ rule.1 <:+: text := by
  induction tokenized with
  | nil =>
      simp only [images_nil, true_iff]
      exact fun rule _ written inside => written (List.infix_nil.mp inside)
  | @replaced key image rest tokens longest later _ =>
      refine iff_of_false (fun same => ?_) fun free => ?_
      · have outside := longest.outside clean
        rw [images_cons, List.append_eq_append_iff] at same
        obtain ⟨more, whole, behind⟩ | ⟨more, rfl, _⟩ := same
        · cases more with
          | nil =>
              rw [List.append_nil] at whole
              exact outside (whole ▸ List.infix_rfl)
          | cons c more => exact later.no_lag clean (List.cons_ne_nil c more) behind
        · exact outside List.infix_append_left
      · exact free _ longest.listed longest.written List.infix_append_left
  | @kept c rest tokens unmatched _ ih =>
      rw [images_cons, List.singleton_append, List.cons.injEq, ih]
      refine ⟨fun free rule listed written inside => ?_, fun free => ⟨rfl, fun rule listed written inside => ?_⟩⟩
      · rcases List.infix_cons_iff.mp inside with starts | later
        · exact unmatched rule listed written starts
        · exact free.2 rule listed written later
      · exact free rule listed written (List.infix_cons inside)

/-- In the images a key occurs exactly where it spans a border. -/
theorem Tokenizes.free_iff (clean : Clean rules) (tokenized : Tokenizes rules text tokens) :
    (∀ rule ∈ rules, rule.1 ≠ [] → ¬ rule.1 <:+: images tokens) ↔
      ∀ rule ∈ rules, ¬ Spans rule.1 tokens := by
  have spanning {key : List α} (spans : Spans key tokens) : key ≠ [] := by
    obtain ⟨_, _, _, _, _, start, stop, _, started, _, _, _, rfl⟩ := spans
    simp [started]
  constructor
  · intro free rule listed spans
    exact free rule listed (spanning spans) ((inside_images_iff (spanning spans)).mpr (.inr spans))
  · intro free rule listed written inside
    rcases (inside_images_iff written).mp inside with ⟨token, member, here⟩ | spans
    · exact tokenized.image_clean clean token member rule listed written here
    · exact free rule listed spans

end Tokens

end Meshloom.LongestMatch
