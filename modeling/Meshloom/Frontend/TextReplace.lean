import Meshloom.Dict
import Meshloom.LongestMatch
import Meshloom.Utf16
import Mathlib.Data.List.Sort

/-! The replacement of text while it is typed (`utils/textReplace.ts`): the check of the map that
the user gives, and the pass over the text, which moves the cursor with what it replaces. -/
namespace Meshloom.TextReplace
open LongestMatch Utf16

/-- What `JSON.parse` reads: an object of strings, in the order of `Object.entries`, an object with
another value, or no object. -/
inductive Parsed where
  | strings (entries : Dict Units Units)
  | mixed
  | notObject

def invalidJson : Units := encode "Invalid JSON.".toList

def mustBeObject : Units := encode "Must be a JSON object.".toList

def mustBeStrings : Units := encode "All keys and values must be strings.".toList

def reExpansionError (needle replacement : Units) : Units :=
  encode "Key \"".toList ++ needle ++ encode "\" appears inside replacement \"".toList ++
    replacement ++ encode "\" and would re-expand on every keystroke.".toList

/-- A key with the first replacement that it appears in. -/
def reExpansion (entries : List (Rule UInt16)) : Option (Units × Units) :=
  entries.findSome? fun entry =>
    if entry.1.length = 0 then none
    else (entries.find? fun other => entry.1 <:+: other.2).map fun other => (entry.1, other.2)

section Map
variable (parse : Units → Option Parsed)

/-- The error, or none, with the map that is stored; `stores` is whether the browser lets it. -/
def setTextReplaceMapJson (stores : Bool) (json : Units) (stored : Option Units) :
    Option Units × Option Units :=
  match parse json with
  | none => (some invalidJson, stored)
  | some .notObject => (some mustBeObject, stored)
  | some .mixed => (some mustBeStrings, stored)
  | some (.strings entries) =>
    match reExpansion entries.entries with
    | some (needle, replacement) => (some (reExpansionError needle replacement), stored)
    | none => if stores then (none, some json) else (some invalidJson, stored)

/-- What is read is taken for an object of strings, which it is whenever the map was accepted. -/
def buildReplacements (json : Units) : List (Rule UInt16) :=
  match parse json with
  | some (.strings entries) =>
    (entries.entries.filter fun entry => 0 < entry.1.length).mergeSort
      fun a b => b.1.length ≤ a.1.length
  | _ => []

end Map

structure Progress where
  result : Units
  newCursor : Int
  i : Nat

def Progress.replace (p : Progress) (cursorPos : Int) (needle replacement : Units) : Progress :=
  let result := p.result ++ replacement
  { result
    newCursor :=
      if ((p.i + needle.length : Nat) : Int) ≤ cursorPos then
        p.newCursor + (replacement.length - needle.length)
      else if (p.i : Int) < cursorPos then result.length
      else p.newCursor
    i := p.i + needle.length }

def Progress.keep (p : Progress) (c : UInt16) : Progress :=
  { p with result := p.result ++ [c], i := p.i + 1 }

/-- The loop from position `i` on, where `skip` units are part of a needle that was replaced. -/
def applyLoop (replacements : List (Rule UInt16)) (cursorPos : Int) :
    Nat → Units → Progress → Progress
  | _, [], p => p
  | skip + 1, _ :: rest, p => applyLoop replacements cursorPos skip rest p
  | 0, c :: rest, p =>
    match replacements.find? fun rule => rule.1.isPrefixOf (c :: rest) with
    | some (needle, replacement) =>
      applyLoop replacements cursorPos (needle.length - 1) rest
        (p.replace cursorPos needle replacement)
    | none => applyLoop replacements cursorPos 0 rest (p.keep c)

structure Replacement where
  text : Units
  cursor : Int
  deriving DecidableEq

def applyTextReplacements (parse : Units → Option Parsed) (text : Units) (cursorPos : Int)
    (mapJson : Units) : Option Replacement :=
  let replacements := buildReplacements parse mapJson
  if replacements = [] then none
  else
    let last := applyLoop replacements cursorPos 0 text ⟨[], cursorPos, 0⟩
    if last.result = text then none else some ⟨last.result, last.newCursor⟩

/-- The tokens with the positions where they start. -/
def positioned : Nat → List (Token UInt16) → List (Nat × Token UInt16)
  | _, [] => []
  | i, token :: rest => (i, token) :: positioned (i + token.source.length) rest

/-- The tokens that start before the cursor. -/
def startedBefore (cursor i : Nat) (tokens : List (Token UInt16)) : List (Token UInt16) :=
  ((positioned i tokens).filter fun entry => entry.1 < cursor).map Prod.snd

section Accepted
variable {parse : Units → Option Parsed} {json : Units}

theorem reExpansion_eq_none {entries : List (Rule UInt16)} :
    reExpansion entries = none ↔ Clean entries := by
  simp only [reExpansion, List.findSome?_eq_none_iff, Clean]
  refine forall₂_congr fun entry _ => ?_
  by_cases empty : entry.1 = []
  · simp [empty]
  · have written : ¬ entry.1.length = 0 := by simpa using empty
    simp [written, empty]

/-- An accepted map is an object of strings without a key in a value. -/
theorem accepted_clean {stores : Bool} {stored : Option Units}
    (accepted : (setTextReplaceMapJson parse stores json stored).1 = none) :
    ∃ entries, parse json = some (.strings entries) ∧ Clean entries.entries := by
  unfold setTextReplaceMapJson at accepted
  cases read : parse json with
  | none => simp [read] at accepted
  | some parsed =>
      cases parsed with
      | notObject => simp [read] at accepted
      | mixed => simp [read] at accepted
      | strings entries =>
          refine ⟨entries, rfl, reExpansion_eq_none.mp ?_⟩
          cases found : reExpansion entries.entries with
          | none => rfl
          | some pair => simp [read, found] at accepted

variable {entries : Dict Units Units} (read : parse json = some (.strings entries))
include read

theorem mem_buildReplacements {rule : Rule UInt16} :
    rule ∈ buildReplacements parse json ↔ rule ∈ entries.entries ∧ rule.1 ≠ [] := by
  simp [buildReplacements, read, List.length_pos_iff]

theorem buildReplacements_sorted :
    (buildReplacements parse json).Pairwise fun a b => b.1.length ≤ a.1.length := by
  have transitive : ∀ a b c : Rule UInt16, decide (b.1.length ≤ a.1.length) = true →
      decide (c.1.length ≤ b.1.length) = true → decide (c.1.length ≤ a.1.length) = true := by
    intro a b c
    simp only [decide_eq_true_eq]
    omega
  have total : ∀ a b : Rule UInt16,
      (decide (b.1.length ≤ a.1.length) || decide (a.1.length ≤ b.1.length)) = true := by
    intro a b
    simp only [Bool.or_eq_true, decide_eq_true_eq]
    omega
  have sorted := List.pairwise_mergeSort transitive total
    (entries.entries.filter fun entry => 0 < entry.1.length)
  simpa [buildReplacements, read] using sorted

/-- The first replacement that matches is the longest. -/
theorem find_longest {text : Units} {rule : Rule UInt16}
    (found : (buildReplacements parse json).find? (fun rule => rule.1.isPrefixOf text) = some rule) :
    Longest entries.entries rule text := by
  obtain ⟨starts, front, back, same, before⟩ := List.find?_eq_some_iff_append.mp found
  have sorted := buildReplacements_sorted read
  have member : rule ∈ buildReplacements parse json := by rw [same]; simp
  obtain ⟨listed, written⟩ := (mem_buildReplacements read).mp member
  refine ⟨listed, written, List.isPrefixOf_iff_prefix.mp starts, fun other listed matching => ?_⟩
  by_cases empty : other.1 = []
  · simp [empty]
  have inside := (mem_buildReplacements read).mpr ⟨listed, empty⟩
  rw [same] at inside sorted
  rcases List.mem_append.mp inside with earlier | later
  · have unmatched := before other earlier
    rw [List.isPrefixOf_iff_prefix.mpr matching] at unmatched
    contradiction
  · rcases List.mem_cons.mp later with rfl | later
    · exact Nat.le_refl _
    · exact (List.pairwise_cons.mp (List.pairwise_append.mp sorted).2.1).1 other later

theorem find_unmatched {text : Units}
    (found : (buildReplacements parse json).find? (fun rule => rule.1.isPrefixOf text) = none) :
    Unmatched entries.entries text := by
  intro rule listed written starts
  have unmatched := List.find?_eq_none.mp found rule
    ((mem_buildReplacements read).mpr ⟨listed, written⟩)
  exact unmatched (List.isPrefixOf_iff_prefix.mpr starts)

end Accepted

section Positions
variable {cursor i : Nat} {tokens : List (Token UInt16)} {token : Token UInt16}

theorem le_positioned {entry : Nat × Token UInt16} (member : entry ∈ positioned i tokens) :
    i ≤ entry.1 := by
  induction tokens generalizing i with
  | nil => simp [positioned] at member
  | cons token rest ih =>
      rcases List.mem_cons.mp member with rfl | later
      · exact Nat.le_refl _
      · have := ih later
        omega

theorem startedBefore_behind (behind : cursor ≤ i) : startedBefore cursor i tokens = [] := by
  rw [startedBefore, List.map_eq_nil_iff, List.filter_eq_nil_iff]
  intro entry member
  have := le_positioned member
  simp only [decide_eq_true_eq]
  omega

theorem startedBefore_cons (ahead : i < cursor) : startedBefore cursor i (token :: tokens) =
    token :: startedBefore cursor (i + token.source.length) tokens := by
  simp [startedBefore, positioned, ahead]

/-- They are the first tokens. -/
theorem startedBefore_first : startedBefore cursor i tokens <+: tokens := by
  induction tokens generalizing i with
  | nil => exact List.prefix_rfl
  | cons token rest ih =>
      by_cases ahead : i < cursor
      · rw [startedBefore_cons ahead]
        exact List.cons_prefix_cons.mpr ⟨rfl, ih⟩
      · rw [startedBefore_behind (not_lt.mp ahead)]
        exact List.nil_prefix

end Positions

section Loop
variable {replacements rules : List (Rule UInt16)} {cursorPos : Int} {p : Progress}

theorem applyLoop_skip (skip : Nat) (rest : Units) :
    applyLoop replacements cursorPos skip rest p =
      applyLoop replacements cursorPos 0 (rest.drop skip) p := by
  induction rest generalizing skip with
  | nil => cases skip <;> rfl
  | cons c rest ih =>
      cases skip with
      | zero => rfl
      | succ skip => rw [applyLoop, ih, List.drop_succ_cons]

/-- The needle is passed as a whole. -/
theorem applyLoop_replaced {needle replacement rest : Units} (written : needle ≠ [])
    (found : replacements.find? (fun rule => rule.1.isPrefixOf (needle ++ rest)) =
      some (needle, replacement)) :
    applyLoop replacements cursorPos 0 (needle ++ rest) p =
      applyLoop replacements cursorPos 0 rest (p.replace cursorPos needle replacement) := by
  obtain ⟨c, needle, rfl⟩ := List.exists_cons_of_ne_nil written
  rw [List.cons_append] at found ⊢
  rw [applyLoop, found]
  dsimp only
  rw [applyLoop_skip, List.length_cons, Nat.add_sub_cancel, List.drop_left]

/-- What the loop makes of the rest of the text: the images of its tokens behind the result, and a
cursor that no longer moves once it was reached, and until then is ahead by what was replaced. -/
structure LoopResult (cursorPos : Int) (p last : Progress) (rest : Units)
    (tokens : List (Token UInt16)) : Prop where
  result : last.result = p.result ++ images tokens
  passed : cursorPos ≤ p.i → last.newCursor = p.newCursor
  ahead : ∀ cursor : Nat, cursorPos = cursor → p.i ≤ cursor → cursor ≤ p.i + rest.length →
    p.newCursor = cursor - p.i + p.result.length →
    last.newCursor = p.result.length + (images (startedBefore cursor p.i tokens)).length

/-- One token of the source in front, where the cursor moves as the token asks. -/
theorem LoopResult.cons {next last : Progress} {rest : Units} {tokens : List (Token UInt16)}
    (later : LoopResult cursorPos next last rest tokens) (token : Token UInt16) (written : token.source ≠ []) (result : next.result = p.result ++ token.image)
    (position : next.i = p.i + token.source.length)
    (passed : cursorPos ≤ p.i → next.newCursor = p.newCursor)
    (inside : (p.i : Int) < cursorPos → cursorPos < next.i → next.newCursor = next.result.length)
    (before : (next.i : Int) ≤ cursorPos →
      next.newCursor = p.newCursor + (token.image.length - token.source.length)) :
    LoopResult cursorPos p last (token.source ++ rest) (token :: tokens) := by
  have some_source := List.length_pos_of_ne_nil written
  have still (reached : cursorPos ≤ p.i) : last.newCursor = p.newCursor :=
    (later.passed (by omega)).trans (passed reached)
  refine ⟨?_, still, fun cursor same from_here within_text aligned => ?_⟩
  · rw [later.result, result, images_cons, List.append_assoc]
  have lengths : next.result.length = p.result.length + token.image.length := by
    rw [result, List.length_append]
  rw [List.length_append] at within_text
  rcases Nat.lt_or_ge p.i cursor with ahead | reached
  · rw [startedBefore_cons ahead, images_cons, List.length_append, ← position]
    rcases Nat.lt_or_ge cursor next.i with spanned | beyond
    · rw [later.passed (by omega), inside (by omega) (by omega), startedBefore_behind spanned.le]
      simp [lengths]
    · have moved := before (by omega)
      rw [later.ahead cursor same beyond (by omega) (by omega), lengths]
      push_cast
      omega
  · rw [still (by omega), startedBefore_behind reached, aligned]
    simp only [images_nil, List.length_nil]
    omega

theorem applyLoop_tokens
    (longest : ∀ text rule,
      replacements.find? (fun rule => rule.1.isPrefixOf text) = some rule → Longest rules rule text)
    (unmatched : ∀ text,
      replacements.find? (fun rule => rule.1.isPrefixOf text) = none → Unmatched rules text)
    (rest : Units) (p : Progress) : ∃ tokens, Tokenizes rules rest tokens ∧
      LoopResult cursorPos p (applyLoop replacements cursorPos 0 rest p) rest tokens := by
  induction length : rest.length using Nat.strong_induction_on generalizing rest p with
  | _ n ih =>
    subst length
    cases rest with
    | nil =>
        refine ⟨[], .nil, by simp [applyLoop], fun _ => rfl, fun cursor same from_here within_text
          aligned => ?_⟩
        simp only [List.length_nil, Nat.add_zero] at within_text
        simp only [applyLoop, aligned, startedBefore, positioned, List.filter_nil, List.map_nil,
          images_nil, List.length_nil]
        omega
    | cons c rest =>
        cases found : replacements.find? fun rule => rule.1.isPrefixOf (c :: rest) with
        | none =>
            obtain ⟨tokens, tokenized, later⟩ := ih rest.length (by simp) rest (p.keep c) rfl
            refine ⟨_, .kept (unmatched _ found) tokenized, ?_⟩
            rw [applyLoop, found]
            refine later.cons ⟨[c], [c]⟩ (by simp) rfl rfl (fun _ => rfl)
              (fun ahead behind => ?_) fun _ => ?_
            · simp only [Progress.keep] at behind
              omega
            · simp [Progress.keep]
        | some rule =>
            obtain ⟨needle, replacement⟩ := rule
            have applies := longest _ _ found
            obtain ⟨tail, same⟩ := applies.starts
            dsimp only at same
            rw [← same] at found applies
            have written : needle ≠ [] := applies.written
            have some_needle := List.length_pos_of_ne_nil written
            have shorter : tail.length < (c :: rest).length := by
              rw [← same, List.length_append]
              exact Nat.lt_add_of_pos_left some_needle
            obtain ⟨tokens, tokenized, later⟩ :=
              ih tail.length shorter tail (p.replace cursorPos needle replacement) rfl
            rw [← same, applyLoop_replaced written found]
            refine ⟨_, .replaced applies tokenized,
              later.cons ⟨needle, replacement⟩ written rfl rfl ?_ ?_ ?_⟩
            · intro reached
              simp only [Progress.replace]
              rw [if_neg (by omega), if_neg (by omega)]
            · intro ahead behind
              simp only [Progress.replace] at behind ⊢
              rw [if_neg (by omega), if_pos ahead]
            · intro before
              simp only [Progress.replace] at before ⊢
              rw [if_pos before]

end Loop

section Pass
variable {parse : Units → Option Parsed} {json : Units} {entries : Dict Units Units}

/-- One pass puts the images of the tokens in place of the text, unless they are the same. -/
theorem applyTextReplacements_tokens (read : parse json = some (.strings entries)) (text : Units)
    (cursorPos : Int) : ∃ tokens last, Tokenizes entries.entries text tokens ∧
      LoopResult cursorPos ⟨[], cursorPos, 0⟩ last text tokens ∧
      applyTextReplacements parse text cursorPos json =
        if images tokens = text then none else some ⟨images tokens, last.newCursor⟩ := by
  obtain ⟨tokens, tokenized, result⟩ := applyLoop_tokens (fun _ _ => find_longest read)
    (fun _ => find_unmatched read) text ⟨[], cursorPos, 0⟩
  refine ⟨tokens, _, tokenized, result, ?_⟩
  have whole := result.result
  rw [List.nil_append] at whole
  unfold applyTextReplacements
  dsimp only
  by_cases nothing : buildReplacements parse json = []
  · have empty : ∀ rule ∈ entries.entries, rule.1 = [] := by
      intro rule listed
      by_contra written
      have member := (mem_buildReplacements read).mpr ⟨listed, written⟩
      rw [nothing] at member
      exact List.not_mem_nil member
    rw [if_pos nothing, if_pos (tokenized.images_of_empty empty)]
  · rw [if_neg nothing, whole]

/-- With an accepted map nothing changes exactly where no key occurs. -/
theorem applyTextReplacements_eq_none (read : parse json = some (.strings entries))
    (clean : Clean entries.entries) (text : Units) (cursorPos : Int) :
    applyTextReplacements parse text cursorPos json = none ↔
      ∀ rule ∈ entries.entries, rule.1 ≠ [] → ¬ rule.1 <:+: text := by
  obtain ⟨tokens, last, tokenized, _, pass⟩ := applyTextReplacements_tokens read text cursorPos
  rw [pass, ← tokenized.images_eq_iff clean]
  simp

variable {stores : Bool} {stored : Option Units} {text : Units} {result : Replacement}

/-- The text that a pass returned is left alone by the next one exactly where no key of the map
spans the border of two tokens of the first text. -/
theorem second_pass_iff {cursorPos : Int}
    (accepted : (setTextReplaceMapJson parse stores json stored).1 = none)
    (replaced : applyTextReplacements parse text cursorPos json = some result) :
    ∃ entries tokens, parse json = some (.strings entries) ∧
      Tokenizes entries.entries text tokens ∧
      ∀ next : Int, applyTextReplacements parse result.text next json = none ↔
        ∀ rule ∈ entries.entries, ¬ Spans rule.1 tokens := by
  obtain ⟨entries, read, clean⟩ := accepted_clean accepted
  obtain ⟨tokens, last, tokenized, _, pass⟩ := applyTextReplacements_tokens read text cursorPos
  refine ⟨entries, tokens, read, tokenized, fun next => ?_⟩
  rw [pass] at replaced
  obtain ⟨_, same⟩ := Option.ite_none_left_eq_some.mp replaced
  cases same
  rw [applyTextReplacements_eq_none read clean, tokenized.free_iff clean]

/-- With any map of strings, accepted or not, the text is that of the images of its tokens, and the
cursor stands behind the images of those that start before it. -/
theorem cursor_follows_tokens {cursor : Nat} (read : parse json = some (.strings entries))
    (within_text : cursor ≤ text.length)
    (replaced : applyTextReplacements parse text cursor json = some result) :
    ∃ tokens, (∀ others, Tokenizes entries.entries text others ↔ others = tokens) ∧
      result.text = images tokens ∧
      result.cursor = (images (startedBefore cursor 0 tokens)).length ∧
      0 ≤ result.cursor ∧ result.cursor ≤ result.text.length ∧
      result.text.take result.cursor.toNat = images (startedBefore cursor 0 tokens) := by
  obtain ⟨tokens, last, tokenized, loop, pass⟩ := applyTextReplacements_tokens read text cursor
  rw [pass] at replaced
  obtain ⟨_, same⟩ := Option.ite_none_left_eq_some.mp replaced
  cases same
  have moved : last.newCursor = (images (startedBefore cursor 0 tokens)).length := by
    have := loop.ahead cursor rfl (Nat.zero_le _) (by simpa using within_text) (by simp)
    simpa using this
  have first : startedBefore cursor 0 tokens <+: tokens := startedBefore_first
  obtain ⟨after, parts⟩ := first
  have whole : images tokens = images (startedBefore cursor 0 tokens) ++ images after := by
    rw [← images_append, parts]
  refine ⟨tokens, fun others => ⟨fun other => other.unique entries.nodup tokenized, ?_⟩,
    rfl, moved, ?_, ?_, ?_⟩
  · rintro rfl
    exact tokenized
  · rw [moved]
    exact Int.natCast_nonneg _
  · rw [moved, whole, List.length_append]
    push_cast
    omega
  · rw [moved, Int.toNat_natCast]
    dsimp only
    rw [whole, List.take_left]

end Pass

/-- A map that takes away `ab`. -/
def removing : Units → Option Parsed := fun _ => some (.strings ⟨[(encode ['a', 'b'], [])], by simp⟩)

theorem removing_accepted : (setTextReplaceMapJson removing true [] none).1 = none := by
  decide +kernel

theorem removing_build : buildReplacements removing [] = [(encode ['a', 'b'], [])] := by
  have long : 0 < (encode ['a', 'b']).length := by decide +kernel
  simp [buildReplacements, removing, long]

theorem removing_once : ∃ result, applyTextReplacements removing (encode ['a', 'a', 'b', 'b']) 4 [] =
    some result ∧ result.text = encode ['a', 'b'] ∧ result.cursor = 2 := by
  unfold applyTextReplacements
  rw [removing_build]
  exact ⟨⟨encode ['a', 'b'], 2⟩, by decide +kernel, rfl, rfl⟩

theorem removing_twice : applyTextReplacements removing (encode ['a', 'b']) 2 [] ≠ none := by
  unfold applyTextReplacements
  rw [removing_build]
  decide +kernel

/-- A key that forms across a border is replaced by the next pass. -/
theorem second_pass_changes :
    ¬ ∀ (parse : Units → Option Parsed) (json text : Units) (cursorPos next : Int)
      (result : Replacement), (setTextReplaceMapJson parse true json none).1 = none →
      applyTextReplacements parse text cursorPos json = some result →
        applyTextReplacements parse result.text next json = none := by
  intro fixed
  obtain ⟨result, once, again, _⟩ := removing_once
  have nothing := fixed removing [] _ 4 2 result removing_accepted once
  rw [again] at nothing
  exact removing_twice nothing

theorem removing_last : ∃ result, applyTextReplacements removing (encode ['x', 'a', 'b']) 3 [] =
    some result ∧ applyTextReplacements removing result.text 1 [] = none := by
  unfold applyTextReplacements
  rw [removing_build]
  exact ⟨⟨encode ['x'], 1⟩, by decide +kernel, by decide +kernel⟩

/-- In `aabb` the key spans what is left and right of the removed one, and in `xab` it spans nothing. -/
theorem second_pass_iff_removing :
    (∃ tokens entries rule, Tokenizes entries (encode ['a', 'a', 'b', 'b']) tokens ∧ rule ∈ entries ∧
      Spans rule.1 tokens) ∧
    ∃ tokens entries, Tokenizes entries (encode ['x', 'a', 'b']) tokens ∧
      ∀ rule ∈ entries, ¬ Spans rule.1 tokens := by
  constructor
  · obtain ⟨result, once, again, _⟩ := removing_once
    obtain ⟨entries, tokens, _, tokenized, fixed⟩ := second_pass_iff removing_accepted once
    have changes := mt (fixed 2).mpr (by rw [again]; exact removing_twice)
    push Not at changes
    obtain ⟨rule, listed, spans⟩ := changes
    exact ⟨tokens, entries.entries, rule, tokenized, listed, spans⟩
  · obtain ⟨result, once, left_alone⟩ := removing_last
    obtain ⟨entries, tokens, _, tokenized, fixed⟩ := second_pass_iff removing_accepted once
    exact ⟨tokens, entries.entries, tokenized, (fixed 1).mp left_alone⟩

/-- A cursor at the end stays at the end. -/
theorem cursor_follows_tokens_end : ∃ result tokens,
    applyTextReplacements removing (encode ['a', 'a', 'b', 'b']) 4 [] = some result ∧
      (images (startedBefore 4 0 tokens)).length = (2 : Int) ∧
      result.text.take 2 = images (startedBefore 4 0 tokens) := by
  obtain ⟨result, once, _, two⟩ := removing_once
  obtain ⟨tokens, _, _, moved, _, _, left⟩ := cursor_follows_tokens rfl (by decide +kernel) once
  rw [two] at moved left
  exact ⟨result, tokens, once, moved.symm, left⟩

end Meshloom.TextReplace
