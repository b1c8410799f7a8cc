import Mathlib.Data.List.Basic

/-! Regular expressions that are matched by backtracking: a pattern gives the places at which it can
end, the preferred one first. The search goes on from the left behind each match; it is that of the
language for patterns whose matches are not empty. -/
namespace Meshloom.Regex

abbrev Groups (α : Type) := List (Nat × List α)

/-- A place in a text, with the character before it and the groups so far. -/
structure Place (α : Type) where
  before : Option α
  rest : List α
  groups : Groups α

inductive Pattern (α : Type) where
  | empty
  | char (p : α → Bool)
  /-- The place is not behind such a character. -/
  | notAfter (p : α → Bool)
  | seq (a b : Pattern α)
  | alt (a b : Pattern α)
  /-- As often as possible. -/
  | star (a : Pattern α)
  | group (n : Nat) (a : Pattern α)

variable {α : Type}

/-- A repetition of what takes at least one character. -/
def repeated (run : Place α → List (Place α)) : Nat → Place α → List (Place α)
  | 0, s => [s]
  | fuel + 1, s =>
    ((run s).flatMap fun t =>
      if t.rest.length < s.rest.length then repeated run fuel t else []) ++ [s]

/-- The text between two places. -/
def between (s t : Place α) : List α := s.rest.take (s.rest.length - t.rest.length)

/-- Sets a group to the text that was matched from a place on. -/
def capture (n : Nat) (s t : Place α) : Place α := { t with groups := (n, between s t) :: t.groups }

namespace Pattern

def run : Pattern α → Place α → List (Place α)
  | empty, s => [s]
  | char p, s =>
    match s.rest with
    | c :: rest => if p c then [{ s with before := some c, rest }] else []
    | [] => []
  | notAfter p, s => if s.before.any p then [] else [s]
  | seq a b, s => (a.run s).flatMap b.run
  | alt a b, s => a.run s ++ b.run s
  | star a, s => repeated a.run s.rest.length s
  | group n a, s => (a.run s).map (capture n s)

/-- At least once. -/
def plus (a : Pattern α) : Pattern α := seq a (star a)

/-- Characters one after the other. -/
def literal (chars : List (α → Bool)) : Pattern α := chars.foldr (fun p rest => seq (char p) rest) empty

/-- The match at a place of the text. -/
def matchAt (p : Pattern α) (before : Option α) (text : List α) : Option (Place α) :=
  (p.run ⟨before, text, []⟩).find? fun t => t.rest.length < text.length

theorem matchAt_shorter {p : Pattern α} {before : Option α} {text : List α} {t : Place α}
    (found : p.matchAt before text = some t) : t.rest.length < text.length := by
  unfold matchAt at found
  exact of_decide_eq_true (List.find?_some found :)

/-- `re.finditer`: of each match the groups with the text that was passed over before it, and the
text behind the last. -/
def findIter (p : Pattern α) (skipped : List α) (before : Option α) (text : List α) :
    List (List α × Groups α) × List α :=
  match found : p.matchAt before text with
  | some t =>
    have := matchAt_shorter found
    let later := findIter p [] t.before t.rest
    ((skipped, t.groups) :: later.1, later.2)
  | none =>
    match text with
    | [] => ([], skipped)
    | c :: rest => findIter p (skipped ++ [c]) (some c) rest
termination_by text.length

section Run
variable {a b : Pattern α} {p : α → Bool} {s t u : Place α} {n : Nat}

/-- The character before what follows a text that begins with `c`. -/
theorem last_cons (c : α) (word : List α) (before : Option α) :
    (c :: word).getLast?.or before = word.getLast?.or (some c) := by
  cases word with
  | nil => rfl
  | cons d word => rw [List.getLast?_cons_cons, List.getLast?_cons, Option.some_or, Option.some_or]

theorem mem_seq : u ∈ (seq a b).run s ↔ ∃ t ∈ a.run s, u ∈ b.run t := List.mem_flatMap

theorem mem_alt : u ∈ (alt a b).run s ↔ u ∈ a.run s ∨ u ∈ b.run s := List.mem_append

theorem mem_group : u ∈ (group n a).run s ↔ ∃ t ∈ a.run s, capture n s t = u := List.mem_map

theorem mem_notAfter : t ∈ (notAfter p).run s ↔ s.before.any p = false ∧ t = s := by
  rw [run]
  split
  · rename_i behind
    simp [behind]
  · rename_i free
    simp [Bool.eq_false_iff.mpr free]

theorem mem_char : t ∈ (char p).run s ↔
    ∃ c, s.rest = c :: t.rest ∧ p c = true ∧ t.before = some c ∧ t.groups = s.groups := by
  obtain ⟨before, rest, groups⟩ := s
  obtain ⟨before', rest', groups'⟩ := t
  cases rest with
  | nil => simp [run]
  | cons c rest =>
      simp only [run]
      split
      · rename_i good
        simp only [List.mem_singleton, Place.mk.injEq, List.cons.injEq]
        constructor
        · rintro ⟨rfl, rfl, rfl⟩
          exact ⟨c, ⟨rfl, rfl⟩, good, rfl, rfl⟩
        · rintro ⟨c', ⟨rfl, rfl⟩, -, rfl, rfl⟩
          exact ⟨rfl, rfl, rfl⟩
      · rename_i bad
        simp only [List.not_mem_nil, List.cons.injEq, false_iff]
        rintro ⟨c', ⟨rfl, -⟩, good, -⟩
        exact bad good

/-- A repetition may end at once. -/
theorem mem_star_self (s : Place α) : s ∈ (star a).run s := by
  rw [run]
  cases s.rest.length with
  | zero => exact List.mem_singleton_self s
  | succ fuel => exact List.mem_append_right _ (List.mem_singleton_self s)

@[simp]
theorem run_char_cons {before : Option α} {c : α} {rest : List α} {groups : Groups α} :
    (char p).run ⟨before, c :: rest, groups⟩ = if p c then [⟨some c, rest, groups⟩] else [] := rfl

@[simp]
theorem run_char_nil {before : Option α} {groups : Groups α} :
    (char p).run ⟨before, [], groups⟩ = [] := rfl

/-- What a literal can match is a text with a character of each kind. -/
theorem mem_literal {chars : List (α → Bool)} (member : t ∈ (literal chars).run s) :
    ∃ word, s.rest = word ++ t.rest ∧ List.Forall₂ (fun p c => p c = true) chars word ∧
      t.groups = s.groups := by
  induction chars generalizing s with
  | nil =>
      obtain rfl := List.mem_singleton.mp member
      exact ⟨[], rfl, .nil, rfl⟩
  | cons p chars ih =>
      obtain ⟨first, matched, member⟩ := mem_seq.mp member
      obtain ⟨c, starts, good, -, same⟩ := mem_char.mp matched
      obtain ⟨word, goes_on, goods, same'⟩ := ih member
      exact ⟨c :: word, by rw [starts, goes_on, List.cons_append], .cons good goods,
        same'.trans same⟩

/-- A literal matches a text with a character of each kind in one way. -/
theorem run_literal {chars : List (α → Bool)} {word : List α}
    (goods : List.Forall₂ (fun p c => p c = true) chars word) (before : Option α) (rest : List α)
    (groups : Groups α) :
    (literal chars).run ⟨before, word ++ rest, groups⟩ =
      [⟨word.getLast?.or before, rest, groups⟩] := by
  induction goods generalizing before with
  | nil => rfl
  | @cons p c chars word good goods ih =>
      have first : (char p).run ⟨before, c :: (word ++ rest), groups⟩ =
          [⟨some c, word ++ rest, groups⟩] := by
        rw [run_char_cons, if_pos good]
      have whole : (literal (p :: chars)).run ⟨before, c :: word ++ rest, groups⟩ =
          ((char p).run ⟨before, c :: (word ++ rest), groups⟩).flatMap (literal chars).run := rfl
      rw [whole, first, List.flatMap_singleton, ih, last_cons]

end Run

section Search
variable {p : Pattern α} {before : Option α} {text skipped : List α}

theorem findIter_some {t : Place α} (found : p.matchAt before text = some t) :
    findIter p skipped before text =
      ((skipped, t.groups) :: (findIter p [] t.before t.rest).1, (findIter p [] t.before t.rest).2) := by
  rw [findIter]
  split
  · rename_i t' found'
    rw [found] at found'
    cases found'
    rfl
  · rename_i missing
    rw [found] at missing
    cases missing

theorem findIter_cons {c : α} {rest : List α} (missing : p.matchAt before (c :: rest) = none) :
    findIter p skipped before (c :: rest) = findIter p (skipped ++ [c]) (some c) rest := by
  rw [findIter]
  split
  · rename_i t found
    rw [missing] at found
    cases found
  · rfl

theorem findIter_nil : findIter p skipped before [] = ([], skipped) := by
  rw [findIter]
  split
  · rename_i t found
    exact absurd (matchAt_shorter found) (Nat.not_lt_zero _)
  · rfl

theorem matchAt_none (nothing : ∀ t, t ∉ p.run ⟨before, text, []⟩) : p.matchAt before text = none :=
  List.find?_eq_none.mpr fun t member => absurd member (nothing t)

theorem matchAt_ne_none {t : Place α} (member : t ∈ p.run ⟨before, text, []⟩)
    (shorter : t.rest.length < text.length) : p.matchAt before text ≠ none := by
  intro nothing
  exact List.find?_eq_none.mp nothing t member (decide_eq_true shorter)

/-- Without a match in it a text is passed over. -/
theorem findIter_skip {part rest : List α}
    (missing : ∀ front c back, part = front ++ c :: back →
      p.matchAt (front.getLast?.or before) (c :: back ++ rest) = none) :
    findIter p skipped before (part ++ rest) =
      findIter p (skipped ++ part) (part.getLast?.or before) rest := by
  induction part generalizing skipped before with
  | nil => simp
  | cons c part ih =>
      have here : p.matchAt before (c :: (part ++ rest)) = none := missing [] c part rfl
      rw [List.cons_append, findIter_cons here, ih, last_cons, List.append_assoc,
        List.singleton_append]
      intro front c' back split
      have later := missing (c :: front) c' back (by rw [split, List.cons_append])
      rwa [last_cons] at later

end Search
end Pattern

end Meshloom.Regex
