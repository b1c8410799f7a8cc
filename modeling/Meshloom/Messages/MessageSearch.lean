import Meshloom.Regex
import Meshloom.Text

/-! The operators in a message search (`_SEARCH_OPERATOR_RE`, `_unescape_search_quoted_value` and
`_parse_search_query` of `app/repository/messages.py`), and queries written from names and words. -/
namespace Meshloom.MessageSearch
open Text Regex Pattern

structure SearchQuery where
  freeText : List Char
  userTerms : List (List Char)
  channelTerms : List (List Char)
  deriving DecidableEq

/-- A letter when case is ignored. The long s is the only other character that is one of the
letters of the keywords. -/
def ignoringCase (letter c : Char) : Bool :=
  c = letter || c = letter.toUpper || (letter = 's' && c = 'ſ')

def user : List Char := ['u', 's', 'e', 'r']
def channel : List Char := ['c', 'h', 'a', 'n', 'n', 'e', 'l']

def keyword (letters : List Char) : Pattern Char := literal (letters.map ignoringCase)

/-- `[^"\\]|\\.` -/
def quotedChar : Pattern Char :=
  alt (char fun c => c ≠ '"' && c ≠ '\\') (seq (char (· = '\\')) (char (· ≠ '\n')))

/-- `"((?:[^"\\]|\\.)*)"` -/
def quotedValue : Pattern Char :=
  seq (char (· = '"')) (seq (group 2 (star quotedChar)) (char (· = '"')))

/-- `(\S+)` -/
def bareValue : Pattern Char := group 3 (plus (char fun c => !isSpace c))

/-- `(?<!\S)(user|channel):(?:"((?:[^"\\]|\\.)*)"|(\S+))` -/
def searchOperatorRe : Pattern Char :=
  seq (notAfter fun c => !isSpace c) (seq (group 1 (alt (keyword user) (keyword channel)))
    (seq (char (· = ':')) (alt quotedValue bareValue)))

/-- `str.replace` of two characters by one. -/
def replacePair (a b c : Char) : List Char → List Char
  | x :: y :: rest =>
    if x = a ∧ y = b then c :: replacePair a b c rest else x :: replacePair a b c (y :: rest)
  | short => short

/-- `_unescape_search_quoted_value` -/
def unescape (value : List Char) : List Char :=
  replacePair '\\' '\\' '\\' (replacePair '\\' '"' '"' value)

def rawValue (groups : Groups Char) : List Char :=
  match groups.lookup 2 with
  | some quoted => quoted
  | none => (groups.lookup 3).getD []

section Parse
variable (lower : LowerCase)

def isUser (groups : Groups Char) : Bool := lower.apply ((groups.lookup 1).getD []) = user

def joinWords (words : List (List Char)) : List Char := [' '].intercalate words

/-- `_parse_search_query` -/
def parseSearchQuery (q : List Char) : SearchQuery :=
  let (found, rest) := searchOperatorRe.findIter [] none q
  let userTerms := (found.filter fun m => isUser lower m.2).map fun m => unescape (rawValue m.2)
  let channelTerms := (found.filter fun m => !isUser lower m.2).map fun m => unescape (rawValue m.2)
  if userTerms = [] ∧ channelTerms = [] then ⟨q, [], []⟩
  else
    let fragments := found.map Prod.fst ++ [rest]
    ⟨joinWords ((fragments.map strip).filter (· ≠ [])), userTerms, channelTerms⟩

end Parse

/-- Doubles backslashes and escapes quotes. -/
def escapeChar (c : Char) : List Char :=
  if c = '\\' then ['\\', '\\'] else if c = '"' then ['\\', '"'] else [c]

def escape (name : List Char) : List Char := name.flatMap escapeChar

/-- What a query is written from. -/
inductive Item where
  | user (name : List Char)
  | channel (name : List Char)
  | word (text : List Char)

namespace Item

def written : Item → List Char
  | user name => MessageSearch.user ++ ':' :: '"' :: escape name ++ ['"']
  | channel name => MessageSearch.channel ++ ':' :: '"' :: escape name ++ ['"']
  | word text => text

def user? : Item → Option (List Char)
  | user name => some name
  | _ => none

def channel? : Item → Option (List Char)
  | channel name => some name
  | _ => none

def word? : Item → Option (List Char)
  | word text => some text
  | _ => none

end Item

def users (items : List Item) : List (List Char) := items.filterMap Item.user?
def channels (items : List Item) : List (List Char) := items.filterMap Item.channel?
def words (items : List Item) : List (List Char) := items.filterMap Item.word?

/-- Characters that are no space, and at least one. -/
def IsWord (word : List Char) : Prop := word ≠ [] ∧ ∀ c ∈ word, isSpace c = false

/-- The text begins with an operator. -/
def StartsOperator (text : List Char) : Prop :=
  ∃ letters ∈ [user, channel], ∃ name c rest, text = name ++ ':' :: c :: rest ∧
    List.Forall₂ (fun p c => p c = true) (letters.map ignoringCase) name ∧ isSpace c = false

section Escape

theorem replacePair_cons {a b c x : Char} (l : List Char) (different : x ≠ a) :
    replacePair a b c (x :: l) = x :: replacePair a b c l := by
  cases l with
  | nil => simp [replacePair]
  | cons y rest => rw [replacePair, if_neg fun both => different both.1]

theorem replacePair_pair (a b c : Char) (l : List Char) :
    replacePair a b c (a :: b :: l) = c :: replacePair a b c l := by
  rw [replacePair, if_pos ⟨rfl, rfl⟩]

theorem replacePair_skip {a b c : Char} {l : List Char} (ends : l.head? ≠ some b) :
    replacePair a b c (a :: l) = a :: replacePair a b c l := by
  cases l with
  | nil => simp [replacePair]
  | cons y rest =>
      rw [replacePair, if_neg]
      rintro ⟨-, rfl⟩
      exact ends rfl

theorem escape_head (name : List Char) : (escape name).head? ≠ some '"' := by
  cases name with
  | nil => simp [escape]
  | cons c name =>
      rw [escape, List.flatMap_cons]
      by_cases backslash : c = '\\'
      · simp [escapeChar, backslash]
      · by_cases quote : c = '"'
        · simp [escapeChar, quote]
        · simp [escapeChar, backslash, quote]

/-- The first pass takes the backslashes before the quotes away. -/
theorem replace_quotes (name : List Char) :
    replacePair '\\' '"' '"' (escape name) =
      name.flatMap fun c => if c = '\\' then ['\\', '\\'] else [c] := by
  induction name with
  | nil => rfl
  | cons c name ih =>
      rw [escape, List.flatMap_cons, List.flatMap_cons, ← ih]
      by_cases backslash : c = '\\'
      · have first : (('\\' :: escape name).head?) ≠ some '"' := by simp
        rw [escapeChar, if_pos backslash, if_pos backslash]
        exact (replacePair_skip first).trans
          (congrArg ('\\' :: ·) (replacePair_skip (escape_head name)))
      · by_cases quote : c = '"'
        · rw [escapeChar, if_neg backslash, if_pos quote, if_neg backslash, quote]
          exact replacePair_pair '\\' '"' '"' (escape name)
        · rw [escapeChar, if_neg backslash, if_neg quote, if_neg backslash]
          exact replacePair_cons (escape name) backslash

theorem replace_backslashes (name : List Char) :
    replacePair '\\' '\\' '\\' (name.flatMap fun c => if c = '\\' then ['\\', '\\'] else [c]) =
      name := by
  induction name with
  | nil => rfl
  | cons c name ih =>
      rw [List.flatMap_cons]
      by_cases backslash : c = '\\'
      · rw [if_pos backslash, backslash]
        exact (replacePair_pair '\\' '\\' '\\' _).trans (congrArg ('\\' :: ·) ih)
      · rw [if_neg backslash]
        exact (replacePair_cons _ backslash).trans (congrArg (c :: ·) ih)

theorem unescape_escape (name : List Char) : unescape (escape name) = name := by
  rw [unescape, replace_quotes, replace_backslashes]

end Escape

section Match
variable {before : Option Char} {text name rest : List Char}

/-- Behind a character that is no space no operator begins. -/
theorem matchAt_behind {c : Char} (visible : isSpace c = false) (text : List Char) :
    searchOperatorRe.matchAt (some c) text = none := by
  refine matchAt_none fun t member => ?_
  obtain ⟨s, start, -⟩ := mem_seq.mp member
  have free := (mem_notAfter.mp start).1
  simp [visible] at free

/-- Where no operator begins there is no match. -/
theorem matchAt_of_not_starts (plain : ¬ StartsOperator text) :
    searchOperatorRe.matchAt before text = none := by
  refine matchAt_none fun t member => plain ?_
  obtain ⟨s, start, member⟩ := mem_seq.mp member
  obtain ⟨-, rfl⟩ := mem_notAfter.mp start
  obtain ⟨u, named, member⟩ := mem_seq.mp member
  obtain ⟨named', keyworded, rfl⟩ := mem_group.mp named
  obtain ⟨v, colon, value⟩ := mem_seq.mp member
  obtain ⟨c, is_colon, same, -⟩ := mem_char.mp colon
  obtain rfl : c = ':' := of_decide_eq_true same
  -- A quote begins the one kind of value and any visible character the other.
  have valued : ∃ d after, v.rest = d :: after ∧ isSpace d = false := by
    obtain quoted | bare := mem_alt.mp value
    · obtain ⟨w, quote, -⟩ := mem_seq.mp quoted
      obtain ⟨d, starts, is_quote, -⟩ := mem_char.mp quote
      obtain rfl : d = '"' := of_decide_eq_true is_quote
      exact ⟨'"', w.rest, starts, by decide⟩
    · obtain ⟨w, some_char, -⟩ := mem_group.mp bare
      obtain ⟨x, first, -⟩ := mem_seq.mp some_char
      obtain ⟨d, starts, visible, -⟩ := mem_char.mp first
      exact ⟨d, x.rest, starts, by simpa using visible⟩
  obtain ⟨d, after, starts, visible⟩ := valued
  have key : ∃ letters ∈ [user, channel], ∃ name, text = name ++ named'.rest ∧
      List.Forall₂ (fun p c => p c = true) (letters.map ignoringCase) name := by
    obtain is_user | is_channel := mem_alt.mp keyworded
    · obtain ⟨name, split, goods, -⟩ := mem_literal is_user
      exact ⟨user, by simp, name, split, goods⟩
    · obtain ⟨name, split, goods, -⟩ := mem_literal is_channel
      exact ⟨channel, by simp, name, split, goods⟩
  obtain ⟨letters, listed, name, split, goods⟩ := key
  have goes_on : named'.rest = ':' :: d :: after := starts ▸ is_colon
  exact ⟨letters, listed, name, d, after, by rw [split, goes_on], goods, visible⟩

theorem quotedChar_escapeChar (before : Option Char) (c : Char) (rest : List Char)
    (groups : Groups Char) :
    quotedChar.run ⟨before, escapeChar c ++ rest, groups⟩ = [⟨some c, rest, groups⟩] := by
  by_cases backslash : c = '\\'
  · simp [escapeChar, backslash, quotedChar, run]
  · by_cases quote : c = '"'
    · simp [escapeChar, quote, quotedChar, run]
    · simp [escapeChar, backslash, quote, quotedChar, run]

theorem length_escapeChar_pos (c : Char) : 0 < (escapeChar c).length := by
  unfold escapeChar
  split
  · exact Nat.succ_pos _
  · split <;> exact Nat.succ_pos _

theorem escapeChar_head (c : Char) (rest : List Char) : (escapeChar c ++ rest).head? ≠ some '"' := by
  by_cases backslash : c = '\\'
  · simp [escapeChar, backslash]
  · by_cases quote : c = '"'
    · simp [escapeChar, quote]
    · simp [escapeChar, backslash, quote]

/-- Of the ways to repeat quoted characters only the one up to the closing quote goes on. -/
theorem repeated_quoted {β : Type} {next : Place Char → List β}
    (stops : ∀ t : Place Char, t.rest.head? ≠ some '"' → next t = []) (name rest : List Char)
    (groups : Groups Char) {fuel : Nat} (enough : name.length ≤ fuel) (before : Option Char) :
    ∃ last, (repeated quotedChar.run fuel ⟨before, escape name ++ '"' :: rest, groups⟩).flatMap next =
      next ⟨last, '"' :: rest, groups⟩ := by
  induction name generalizing fuel before with
  | nil =>
      have ends : quotedChar.run ⟨before, '"' :: rest, groups⟩ = [] := by simp [quotedChar, run]
      refine ⟨before, ?_⟩
      cases fuel with
      | zero => rw [repeated]; exact List.flatMap_singleton ..
      | succ fuel =>
          rw [repeated]
          change (((quotedChar.run ⟨before, '"' :: rest, groups⟩).flatMap _) ++ _).flatMap next = _
          rw [ends, List.flatMap_nil, List.nil_append]
          exact List.flatMap_singleton ..
  | cons c name ih =>
      cases fuel with
      | zero => cases enough
      | succ fuel =>
          obtain ⟨last, reached⟩ := ih (Nat.le_of_succ_le_succ enough) (some c)
          refine ⟨last, ?_⟩
          have split : escape (c :: name) ++ '"' :: rest =
              escapeChar c ++ (escape name ++ '"' :: rest) := by
            rw [escape, List.flatMap_cons, List.append_assoc]
            rfl
          have shorter : (escape name ++ '"' :: rest).length <
              (escapeChar c ++ (escape name ++ '"' :: rest)).length := by
            simp only [List.length_append]
            exact Nat.lt_add_of_pos_left (length_escapeChar_pos c)
          have nothing_here : next ⟨before, escapeChar c ++ (escape name ++ '"' :: rest), groups⟩ =
              [] := stops _ (escapeChar_head c _)
          rw [split, repeated, quotedChar_escapeChar, List.flatMap_singleton, if_pos shorter,
            List.flatMap_append, reached, List.flatMap_singleton, nothing_here, List.append_nil]

theorem length_le_escape (name : List Char) : name.length ≤ (escape name).length := by
  induction name with
  | nil => exact Nat.le_refl 0
  | cons c name ih =>
      have written := length_escapeChar_pos c
      rw [escape, List.flatMap_cons, List.length_append, List.length_cons]
      rw [escape] at ih
      omega

theorem run_quotedValue (name rest : List Char) (groups : Groups Char) (before : Option Char) :
    quotedValue.run ⟨before, '"' :: escape name ++ '"' :: rest, groups⟩ =
      [⟨some '"', rest, (2, escape name) :: groups⟩] := by
  let opened : Place Char := ⟨some '"', escape name ++ '"' :: rest, groups⟩
  let close (t : Place Char) : List (Place Char) := (char (· = '"')).run (capture 2 opened t)
  have stops : ∀ t : Place Char, t.rest.head? ≠ some '"' → close t = [] := by
    rintro ⟨b, text, g⟩ ends
    cases text with
    | nil => rfl
    | cons c text =>
        have different : c ≠ '"' := fun same => ends (congrArg some same)
        simp [close, capture, run, different]
  have enough : name.length ≤ opened.rest.length := by
    rw [List.length_append]
    exact (length_le_escape name).trans (Nat.le_add_right _ _)
  obtain ⟨last, reached⟩ := repeated_quoted stops name rest groups enough (some '"')
  have captured : between opened ⟨last, '"' :: rest, groups⟩ = escape name := by
    simp [between, opened]
  calc quotedValue.run ⟨before, '"' :: escape name ++ '"' :: rest, groups⟩
      = (((star quotedChar).run opened).map (capture 2 opened)).flatMap
          (char (· = '"')).run := by
        simp only [quotedValue, run, List.cons_append]
        simp [opened]
    _ = ((star quotedChar).run opened).flatMap close := List.flatMap_map ..
    _ = close ⟨last, '"' :: rest, groups⟩ := reached
    _ = [⟨some '"', rest, (2, escape name) :: groups⟩] := by
        simp [close, capture, captured]

theorem keyword_self {letters : List Char} (listed : letters ∈ [user, channel]) :
    List.Forall₂ (fun p c => p c = true) (letters.map ignoringCase) letters := by
  simp only [List.mem_cons, List.not_mem_nil, or_false] at listed
  obtain rfl | rfl := listed <;> simp [user, channel, ignoringCase]

/-- A keyword is read as the first group. -/
theorem run_keyword {letters : List Char} (listed : letters ∈ [user, channel])
    (before : Option Char) (rest : List Char) :
    ∃ last, (group 1 (alt (keyword user) (keyword channel))).run ⟨before, letters ++ rest, []⟩ =
      [⟨last, rest, [(1, letters)]⟩] := by
  have own : (keyword letters).run ⟨before, letters ++ rest, []⟩ =
      [⟨letters.getLast?.or before, rest, []⟩] := run_literal (keyword_self listed) before rest []
  have captured : between ⟨before, letters ++ rest, []⟩ ⟨letters.getLast?.or before, rest, []⟩ =
      letters := by
    simp [between]
  refine ⟨letters.getLast?.or before, ?_⟩
  rw [run, run]
  simp only [List.mem_cons, List.not_mem_nil, or_false] at listed
  obtain rfl | rfl := listed
  · have other : (keyword channel).run ⟨before, user ++ rest, []⟩ = [] := rfl
    rw [own, other, List.append_nil, List.map_singleton, capture, captured]
  · have other : (keyword user).run ⟨before, channel ++ rest, []⟩ = [] := rfl
    rw [own, other, List.nil_append, List.map_singleton, capture, captured]

/-- What is matched behind a keyword that no visible character is before. -/
theorem run_operator {letters : List Char} (listed : letters ∈ [user, channel])
    (free : before.any (fun c => !isSpace c) = false) (rest : List Char) :
    ∃ last, searchOperatorRe.run ⟨before, letters ++ rest, []⟩ =
      (seq (char (· = ':')) (alt quotedValue bareValue)).run ⟨last, rest, [(1, letters)]⟩ := by
  obtain ⟨last, named⟩ := run_keyword listed before rest
  have start : (notAfter fun c => !isSpace c).run ⟨before, letters ++ rest, []⟩ =
      [⟨before, letters ++ rest, []⟩] := by
    rw [run, if_neg (by simp [free])]
  refine ⟨last, ?_⟩
  calc searchOperatorRe.run ⟨before, letters ++ rest, []⟩
      = ((group 1 (alt (keyword user) (keyword channel))).run ⟨before, letters ++ rest, []⟩).flatMap
          (seq (char (· = ':')) (alt quotedValue bareValue)).run := by
        change ((notAfter fun c => !isSpace c).run ⟨before, letters ++ rest, []⟩).flatMap _ = _
        rw [start, List.flatMap_singleton]
        rfl
    _ = _ := by rw [named, List.flatMap_singleton]

/-- A written name is matched as it was written. -/
theorem matchAt_written {letters : List Char} (listed : letters ∈ [user, channel])
    (free : before.any (fun c => !isSpace c) = false) (name rest : List Char) :
    searchOperatorRe.matchAt before (letters ++ ':' :: '"' :: escape name ++ '"' :: rest) =
      some ⟨some '"', rest, [(2, escape name), (1, letters)]⟩ := by
  have text : letters ++ ':' :: '"' :: escape name ++ '"' :: rest =
      letters ++ ':' :: ('"' :: escape name ++ '"' :: rest) := by simp
  obtain ⟨last, operator⟩ :=
    run_operator listed free (':' :: ('"' :: escape name ++ '"' :: rest))
  have value : (seq (char (· = ':')) (alt quotedValue bareValue)).run
      ⟨last, ':' :: ('"' :: escape name ++ '"' :: rest), [(1, letters)]⟩ =
        ⟨some '"', rest, [(2, escape name), (1, letters)]⟩ ::
          bareValue.run ⟨some ':', '"' :: escape name ++ '"' :: rest, [(1, letters)]⟩ := by
    change ((char (· = ':')).run ⟨last, ':' :: ('"' :: escape name ++ '"' :: rest),
      [(1, letters)]⟩).flatMap (alt quotedValue bareValue).run = _
    rw [run_char_cons, if_pos (by decide), List.flatMap_singleton, run, run_quotedValue]
    rfl
  have shorter : rest.length < (letters ++ ':' :: ('"' :: escape name ++ '"' :: rest)).length := by
    simp only [List.length_append, List.length_cons]
    omega
  rw [text, matchAt, operator, value]
  exact List.find?_cons_of_pos (decide_eq_true shorter)

/-- Where an operator begins there is a match. -/
theorem matchAt_of_starts (free : before.any (fun c => !isSpace c) = false)
    (starts : StartsOperator text) : searchOperatorRe.matchAt before text ≠ none := by
  obtain ⟨letters, listed, name, c, rest, rfl, goods, visible⟩ := starts
  let start : Place Char := ⟨before, name ++ ':' :: c :: rest, []⟩
  let named : Place Char := ⟨name.getLast?.or before, ':' :: c :: rest, []⟩
  let groups : Groups Char := [(1, between start named)]
  have read : (keyword letters).run start = [named] := run_literal goods before _ []
  have is_named : named ∈ (alt (keyword user) (keyword channel)).run start := by
    have member : named ∈ (keyword letters).run start := read ▸ List.mem_singleton_self named
    simp only [List.mem_cons, List.not_mem_nil, or_false] at listed
    obtain rfl | rfl := listed
    · exact mem_alt.mpr (.inl member)
    · exact mem_alt.mpr (.inr member)
  have colon : (⟨some ':', c :: rest, groups⟩ : Place Char) ∈
      (char (· = ':')).run (capture 1 start named) := mem_char.mpr ⟨':', rfl, by decide, rfl, rfl⟩
  have first : (⟨some c, rest, groups⟩ : Place Char) ∈
      (char fun c => !isSpace c).run ⟨some ':', c :: rest, groups⟩ :=
    mem_char.mpr ⟨c, rfl, by simp [visible], rfl, rfl⟩
  have value : capture 3 ⟨some ':', c :: rest, groups⟩ ⟨some c, rest, groups⟩ ∈
      bareValue.run ⟨some ':', c :: rest, groups⟩ :=
    mem_group.mpr ⟨_, mem_seq.mpr ⟨_, first, mem_star_self _⟩, rfl⟩
  have whole : capture 3 ⟨some ':', c :: rest, groups⟩ ⟨some c, rest, groups⟩ ∈
      searchOperatorRe.run start :=
    mem_seq.mpr ⟨start, mem_notAfter.mpr ⟨free, rfl⟩,
      mem_seq.mpr ⟨_, mem_group.mpr ⟨named, is_named, rfl⟩,
        mem_seq.mpr ⟨_, colon, mem_alt.mpr (.inr value)⟩⟩⟩
  refine matchAt_ne_none whole ?_
  change rest.length < (name ++ ':' :: c :: rest).length
  rw [List.length_append, List.length_cons, List.length_cons]
  omega

end Match

section Words
variable {before : Option Char} {word rest skipped : List Char}

theorem visible_of_kinds {kinds : List (Char → Bool)} {name : List Char}
    (visible : ∀ p ∈ kinds, ∀ c, p c = true → isSpace c = false)
    (goods : List.Forall₂ (fun p c => p c = true) kinds name) : ∀ c ∈ name, isSpace c = false := by
  induction goods with
  | nil => exact fun c member => absurd member List.not_mem_nil
  | cons good goods ih =>
      obtain ⟨first, visible⟩ := List.forall_mem_cons.mp visible
      exact List.forall_mem_cons.mpr ⟨first _ good, ih visible⟩

theorem keyword_visible {letters name : List Char} (listed : letters ∈ [user, channel])
    (goods : List.Forall₂ (fun p c => p c = true) (letters.map ignoringCase) name) :
    ∀ c ∈ name, isSpace c = false := by
  refine visible_of_kinds (fun p member c same => ?_) goods
  obtain ⟨letter, of_letters, rfl⟩ := List.mem_map.mp member
  have all : ∀ letter ∈ user ++ channel, isSpace letter = false ∧
      isSpace letter.toUpper = false := by simp [user, channel, isSpace]
  have known : letter ∈ user ++ channel := by
    simp only [List.mem_cons, List.not_mem_nil, or_false] at listed
    obtain rfl | rfl := listed
    · exact List.mem_append_left _ of_letters
    · exact List.mem_append_right _ of_letters
  obtain ⟨plain, upper⟩ := all letter known
  simp only [ignoringCase, Bool.or_eq_true, Bool.and_eq_true, decide_eq_true_eq] at same
  obtain (rfl | rfl) | ⟨-, rfl⟩ := same
  · exact plain
  · exact upper
  · rfl

/-- What follows a word is nothing or a space. -/
def Ends (rest : List Char) : Prop := ∀ c, rest.head? = some c → isSpace c = true

/-- An operator at the start of a word and what follows it is within the word. -/
theorem starts_of_append (ends : Ends rest) (starts : StartsOperator (word ++ rest)) :
    StartsOperator word := by
  obtain ⟨letters, listed, name, c, after, same, goods, visible⟩ := starts
  have visible_name := keyword_visible listed goods
  have regroup : word ++ rest = (name ++ [':', c]) ++ after := by
    rw [same, List.append_assoc]
    rfl
  obtain ⟨more, inside, later⟩ | ⟨more, inside, -⟩ := List.append_eq_append_iff.mp regroup
  · cases more with
    | nil =>
        rw [List.append_nil] at inside
        exact ⟨letters, listed, name, c, [], inside.symm, goods, visible⟩
    | cons d more =>
        -- The first character behind the word would be a space and one of the operator's.
        exfalso
        have space : isSpace d = true := ends d (by rw [later]; rfl)
        have member : d ∈ name ++ [':', c] := inside ▸ List.mem_append_right _ List.mem_cons_self
        rw [List.mem_append, List.mem_cons, List.mem_singleton] at member
        obtain named | rfl | rfl := member
        · rw [visible_name d named] at space
          cases space
        · cases space
        · rw [visible] at space
          cases space
  · exact ⟨letters, listed, name, c, more, by rw [inside, List.append_assoc]; rfl, goods, visible⟩

/-- A word without an operator is passed over. -/
theorem findIter_word (isWord : IsWord word) (plain : ¬ StartsOperator word) (ends : Ends rest) :
    searchOperatorRe.findIter skipped before (word ++ rest) =
      searchOperatorRe.findIter (skipped ++ word) (word.getLast?.or before) rest := by
  refine findIter_skip fun front c back split => ?_
  rcases List.eq_nil_or_concat front with rfl | ⟨front, d, rfl⟩
  · rw [List.nil_append] at split
    rw [← split]
    exact matchAt_of_not_starts fun starts => plain (starts_of_append ends starts)
  · have visible : isSpace d = false := isWord.2 d (by simp [split])
    rw [List.concat_eq_append, List.getLast?_append, List.getLast?_singleton, Option.some_or,
      Option.some_or]
    exact matchAt_behind visible _

/-- The space behind a visible character is passed over. -/
theorem findIter_space {c : Char} (visible : isSpace c = false) :
    searchOperatorRe.findIter skipped (some c) (' ' :: rest) =
      searchOperatorRe.findIter (skipped ++ [' ']) (some ' ') rest :=
  findIter_cons (matchAt_behind visible _)

theorem last_visible (before : Option Char) (isWord : IsWord word) :
    ∃ c, word.getLast?.or before = some c ∧ isSpace c = false := by
  have last := List.getLast?_eq_some_getLast isWord.1
  exact ⟨_, by rw [last, Option.some_or], isWord.2 _ (List.getLast_mem isWord.1)⟩

end Words

section Join
variable {a b : List (List Char)}

/-- What is written behind a text: each word after a space. -/
def follow (words : List (List Char)) : List Char := words.flatMap (' ' :: ·)

theorem joinWords_cons (word : List Char) (words : List (List Char)) :
    joinWords (word :: words) = word ++ follow words := by
  induction words generalizing word with
  | nil => simp [joinWords, follow]
  | cons next words ih =>
      rw [joinWords, List.intercalate_cons_cons, ← joinWords, ih, follow, follow, List.flatMap_cons,
        List.append_assoc]
      rfl

theorem follow_ends (words : List (List Char)) : Ends (follow words) := by
  cases words with
  | nil =>
      rintro c ⟨⟩
  | cons word words =>
      intro c first
      obtain rfl := Option.some.inj first
      decide

theorem joinWords_append (some_word : a ≠ []) : joinWords (a ++ b) = joinWords a ++ follow b := by
  obtain ⟨word, words, rfl⟩ := List.exists_cons_of_ne_nil some_word
  rw [List.cons_append, joinWords_cons, joinWords_cons, follow, List.flatMap_append, follow, follow,
    List.append_assoc]

theorem joinWords_ne_nil (isWords : ∀ w ∈ a, IsWord w) (some_word : a ≠ []) : joinWords a ≠ [] := by
  obtain ⟨word, words, rfl⟩ := List.exists_cons_of_ne_nil some_word
  rw [joinWords_cons]
  exact List.append_ne_nil_of_left_ne_nil (isWords word List.mem_cons_self).1 _

/-- Joining the parts that are not empty joins all the words. -/
theorem joinWords_flatten {parts : List (List (List Char))}
    (isWords : ∀ part ∈ parts, ∀ w ∈ part, IsWord w) :
    joinWords ((parts.map joinWords).filter (· ≠ [])) = joinWords parts.flatten := by
  induction parts with
  | nil => rfl
  | cons part parts ih =>
      obtain ⟨first, others⟩ := List.forall_mem_cons.mp isWords
      rw [List.map_cons, List.flatten_cons]
      by_cases empty : part = []
      · rw [empty, List.nil_append, List.filter_cons_of_neg (by simp [joinWords])]
        exact ih others
      · have written := joinWords_ne_nil first empty
        rw [List.filter_cons_of_pos (by simpa using written)]
        cases later : (parts.map joinWords).filter (· ≠ []) with
        | nil =>
            have none_left : parts.flatten = [] := by
              rw [later] at ih
              by_contra some_left
              refine joinWords_ne_nil (fun w member => ?_) some_left (ih others).symm
              obtain ⟨p, of_parts, of_p⟩ := List.mem_flatten.mp member
              exact others p of_parts w of_p
            rw [none_left, List.append_nil]
            simp [joinWords]
        | cons next rest =>
            have none_empty : parts.flatten ≠ [] := by
              intro nothing
              have joined := ih others
              rw [nothing, later, joinWords_cons] at joined
              have member : next ∈ (parts.map joinWords).filter (· ≠ []) := by
                rw [later]
                exact List.mem_cons_self
              exact absurd (List.append_eq_nil_iff.mp joined).1
                (by simpa using (List.mem_filter.mp member).2)
            have joined := ih others
            rw [later] at joined
            rw [joinWords_cons, joinWords_append empty]
            obtain ⟨word, words, flat⟩ := List.exists_cons_of_ne_nil none_empty
            have same : follow (next :: rest) = ' ' :: joinWords (next :: rest) := by
              rw [joinWords_cons]
              rfl
            have same' : follow (word :: words) = ' ' :: joinWords (word :: words) := by
              rw [joinWords_cons]
              rfl
            rw [same, joined, flat, same']

end Join

section Scan
variable {items : List Item} {skipped : List Char}

/-- The groups of a written name. -/
def groupsOf (letters name : List Char) : Groups Char := [(2, escape name), (1, letters)]

/-- What the search finds behind what was passed over, when the items that are left each follow a
space. -/
def fragmentsOf : List Char → List Item → List (List Char × Groups Char) × List Char
  | skipped, [] => ([], skipped)
  | skipped, .word text :: rest => fragmentsOf (skipped ++ ' ' :: text) rest
  | skipped, .user name :: rest =>
    ((skipped ++ [' '], groupsOf user name) :: (fragmentsOf [] rest).1, (fragmentsOf [] rest).2)
  | skipped, .channel name :: rest =>
    ((skipped ++ [' '], groupsOf channel name) :: (fragmentsOf [] rest).1, (fragmentsOf [] rest).2)

/-- The words among the items are words without an operator. -/
def PlainWords (items : List Item) : Prop := ∀ w ∈ words items, IsWord w ∧ ¬ StartsOperator w

theorem plainWords_tail {item : Item} (plain : PlainWords (item :: items)) : PlainWords items := by
  intro w member
  refine plain w ?_
  rw [words, List.filterMap_cons]
  split
  · exact member
  · exact List.mem_cons_of_mem _ member

theorem findIter_written {letters : List Char} (listed : letters ∈ [user, channel])
    {before : Option Char} (free : before.any (fun c => !isSpace c) = false)
    (name rest : List Char) :
    searchOperatorRe.findIter skipped before ((letters ++ ':' :: '"' :: escape name ++ ['"']) ++ rest) =
      ((skipped, groupsOf letters name) :: (searchOperatorRe.findIter [] (some '"') rest).1,
        (searchOperatorRe.findIter [] (some '"') rest).2) := by
  have text : (letters ++ ':' :: '"' :: escape name ++ ['"']) ++ rest =
      letters ++ ':' :: '"' :: escape name ++ '"' :: rest := by simp
  rw [text, findIter_some (matchAt_written listed free name rest)]
  rfl

/-- The search behind a visible character. -/
theorem findIter_follow (plain : PlainWords items) {c : Char} (visible : isSpace c = false) :
    searchOperatorRe.findIter skipped (some c) (follow (items.map Item.written)) =
      fragmentsOf skipped items := by
  have space : (some ' ').any (fun c => !isSpace c) = false := by decide
  have quote : isSpace '"' = false := by decide
  induction items generalizing skipped c with
  | nil => exact findIter_nil
  | cons item items ih =>
      rw [List.map_cons, follow, List.flatMap_cons, List.cons_append, findIter_space visible,
        ← follow]
      cases item with
      | word text =>
          obtain ⟨isWord, no_operator⟩ := plain text List.mem_cons_self
          obtain ⟨d, last, visible_last⟩ := last_visible (some ' ') isWord
          rw [Item.written, findIter_word isWord no_operator (follow_ends _), last,
            ih (plainWords_tail plain) visible_last, fragmentsOf, List.append_assoc,
            List.singleton_append]
      | user name =>
          rw [Item.written, findIter_written (by simp) space, ih (plainWords_tail plain) quote,
            fragmentsOf]
      | channel name =>
          rw [Item.written, findIter_written (by simp) space, ih (plainWords_tail plain) quote,
            fragmentsOf]

/-- What was passed over stands for words: they are joined, maybe behind a space. -/
def Stands (skipped : List Char) (ws : List (List Char)) : Prop :=
  (ws = [] ∧ skipped = []) ∨
    (ws ≠ [] ∧ (skipped = joinWords ws ∨ skipped = ' ' :: joinWords ws))

theorem Stands.word {ws : List (List Char)} (stands : Stands skipped ws) (text : List Char) :
    Stands (skipped ++ ' ' :: text) (ws ++ [text]) := by
  refine .inr ⟨by simp, ?_⟩
  obtain ⟨rfl, rfl⟩ | ⟨some_word, rfl | rfl⟩ := stands
  · exact .inr (by simp [joinWords])
  · exact .inl (by simp [joinWords_append some_word, follow])
  · exact .inr (by simp [joinWords_append some_word, follow])

theorem strip_joinWords {ws : List (List Char)} (isWords : ∀ w ∈ ws, IsWord w) :
    strip (joinWords ws) = joinWords ws := by
  rcases List.eq_nil_or_concat ws with rfl | ⟨front, last, rfl⟩
  · rfl
  rw [List.concat_eq_append] at isWords ⊢
  have isLast := isWords last (by simp)
  refine strip_fixed (fun c first => ?_) (fun c final => ?_)
  · obtain ⟨word, others, split⟩ := List.exists_cons_of_ne_nil
      (List.append_ne_nil_of_right_ne_nil front (List.cons_ne_nil last []))
    rw [split] at isWords first
    have isFirst := isWords word List.mem_cons_self
    rw [joinWords_cons, List.head?_append_of_ne_nil _ isFirst.1] at first
    exact isFirst.2 c (List.mem_of_head? first)
  · have ends : ∃ start, joinWords (front ++ [last]) = start ++ last := by
      by_cases single : front = []
      · exact ⟨[], by rw [single]; simp [joinWords]⟩
      · exact ⟨joinWords front ++ [' '], by simp [joinWords_append single, follow]⟩
    obtain ⟨start, split⟩ := ends
    rw [split, List.getLast?_append_of_ne_nil _ isLast.1] at final
    exact isLast.2 c (List.mem_of_getLast? final)

theorem Stands.strip_eq {ws : List (List Char)} (stands : Stands skipped ws)
    (isWords : ∀ w ∈ ws, IsWord w) : strip skipped = joinWords ws := by
  have space : isSpace ' ' = true := by decide
  obtain ⟨rfl, rfl⟩ | ⟨-, rfl | rfl⟩ := stands
  · rfl
  · exact strip_joinWords isWords
  · rw [strip_space_cons space, strip_joinWords isWords]

theorem isUser_groupsOf (lower : LowerCase) (name : List Char) :
    isUser lower (groupsOf user name) = true ∧ isUser lower (groupsOf channel name) = false := by
  have plain_user : lower.apply user = user := lower.ascii user (by simp [user])
  have plain_channel : lower.apply channel = channel := lower.ascii channel (by simp [channel])
  constructor
  · simp [isUser, groupsOf, List.lookup, plain_user]
  · simp [isUser, groupsOf, List.lookup, plain_channel]
    decide

theorem value_groupsOf (letters name : List Char) :
    unescape (rawValue (groupsOf letters name)) = name := unescape_escape name

/-- What a search found stands for some words and the items behind them: the fragments for the
words in order, the groups for the names. -/
structure Reads (lower : LowerCase) (result : List (List Char × Groups Char) × List Char)
    (ws : List (List Char)) (items : List Item) : Prop where
  fragments : ∃ parts : List (List (List Char)),
    (result.1.map Prod.fst ++ [result.2]).map strip = parts.map joinWords ∧
      (∀ part ∈ parts, ∀ w ∈ part, IsWord w) ∧ parts.flatten = ws ++ words items
  userTerms : (result.1.filter fun m => isUser lower m.2).map (fun m => unescape (rawValue m.2)) =
    users items
  channelTerms : (result.1.filter fun m => !isUser lower m.2).map
    (fun m => unescape (rawValue m.2)) = channels items

section Reads
variable {lower : LowerCase} {later : List (List Char × Groups Char) × List Char}
  {fragment : List Char} {ws : List (List Char)}

/-- A fragment before what was found later. -/
theorem Reads.cons (reads : Reads lower later [] items) (stripped : strip fragment = joinWords ws)
    (isWords : ∀ w ∈ ws, IsWord w) (groups : Groups Char) :
    ∃ parts : List (List (List Char)),
      (((fragment, groups) :: later.1).map Prod.fst ++ [later.2]).map strip = parts.map joinWords ∧
        (∀ part ∈ parts, ∀ w ∈ part, IsWord w) ∧ parts.flatten = ws ++ words items := by
  obtain ⟨parts, same, areWords, flat⟩ := reads.fragments
  refine ⟨ws :: parts, ?_, List.forall_mem_cons.mpr ⟨isWords, areWords⟩, ?_⟩
  · rw [List.map_cons, List.cons_append, List.map_cons, same, stripped, List.map_cons]
  · rw [List.flatten_cons, flat, List.nil_append]

theorem Reads.user (reads : Reads lower later [] items) (stripped : strip fragment = joinWords ws)
    (isWords : ∀ w ∈ ws, IsWord w) (name : List Char) :
    Reads lower ((fragment, groupsOf user name) :: later.1, later.2) ws (.user name :: items) := by
  have is_user := (isUser_groupsOf lower name).1
  refine ⟨reads.cons stripped isWords _, ?_, ?_⟩
  · rw [List.filter_cons, if_pos is_user, List.map_cons, reads.userTerms, value_groupsOf]
    rfl
  · rw [List.filter_cons, if_neg (by simp [is_user]), reads.channelTerms]
    rfl

theorem Reads.channel (reads : Reads lower later [] items)
    (stripped : strip fragment = joinWords ws) (isWords : ∀ w ∈ ws, IsWord w) (name : List Char) :
    Reads lower ((fragment, groupsOf channel name) :: later.1, later.2) ws
      (.channel name :: items) := by
  have no_user := (isUser_groupsOf lower name).2
  refine ⟨reads.cons stripped isWords _, ?_, ?_⟩
  · rw [List.filter_cons, if_neg (by simp [no_user]), reads.userTerms]
    rfl
  · rw [List.filter_cons, if_pos (by simp [no_user]), List.map_cons, reads.channelTerms,
      value_groupsOf]
    rfl

end Reads

theorem fragmentsOf_reads (lower : LowerCase) (plain : PlainWords items) {ws : List (List Char)}
    (isWords : ∀ w ∈ ws, IsWord w) (stands : Stands skipped ws) :
    Reads lower (fragmentsOf skipped items) ws items := by
  have space : isSpace ' ' = true := by decide
  induction items generalizing skipped ws with
  | nil =>
      refine ⟨⟨[ws], ?_, ?_, ?_⟩, rfl, rfl⟩
      · simp [fragmentsOf, stands.strip_eq isWords]
      · simpa using isWords
      · simp [words]
  | cons item items ih =>
      have fragment : strip (skipped ++ [' ']) = joinWords ws := by
        rw [strip_concat_space _ space, stands.strip_eq isWords]
      cases item with
      | word text =>
          have isWords' : ∀ w ∈ ws ++ [text], IsWord w := by
            intro w member
            rw [List.mem_append, List.mem_singleton] at member
            obtain before | rfl := member
            · exact isWords w before
            · exact (plain w List.mem_cons_self).1
          obtain ⟨⟨parts, stripped, areWords, flat⟩, is_users, is_channels⟩ :=
            ih (plainWords_tail plain) isWords' (stands.word text)
          refine ⟨⟨parts, stripped, areWords, ?_⟩, is_users, is_channels⟩
          rw [flat, List.append_assoc]
          rfl
      | user name =>
          exact (ih (plainWords_tail plain) (List.forall_mem_nil _) (.inl ⟨rfl, rfl⟩)).user fragment
            isWords name
      | channel name =>
          exact (ih (plainWords_tail plain) (List.forall_mem_nil _) (.inl ⟨rfl, rfl⟩)).channel
            fragment isWords name

end Scan

section Main
variable {items : List Item}

/-- A free text is without operators when the search finds none in it. -/
def NoOperator (text : List Char) : Prop := (searchOperatorRe.findIter [] none text).1 = []

theorem starts_append {text : List Char} (starts : StartsOperator text) (rest : List Char) :
    StartsOperator (text ++ rest) := by
  obtain ⟨letters, listed, name, c, after, rfl, goods, visible⟩ := starts
  exact ⟨letters, listed, name, c, after ++ rest, by simp, goods, visible⟩

/-- No word of a free text in which the search finds nothing begins an operator. -/
theorem plain_of_search {ws : List (List Char)} (isWords : ∀ w ∈ ws, IsWord w)
    {skipped : List Char} {before : Option Char}
    (free : before.any (fun c => !isSpace c) = false)
    (none_found : (searchOperatorRe.findIter skipped before (joinWords ws)).1 = []) :
    ∀ w ∈ ws, ¬ StartsOperator w := by
  induction ws generalizing skipped before with
  | nil => exact List.forall_mem_nil _
  | cons word ws ih =>
      obtain ⟨isWord, isWords⟩ := List.forall_mem_cons.mp isWords
      rw [joinWords_cons] at none_found
      have plain : ¬ StartsOperator word := by
        intro starts
        obtain ⟨t, found⟩ := Option.ne_none_iff_exists'.mp
          (matchAt_of_starts free (starts_append starts (follow ws)))
        rw [findIter_some found] at none_found
        cases none_found
      refine List.forall_mem_cons.mpr ⟨plain, ?_⟩
      cases ws with
      | nil => exact List.forall_mem_nil _
      | cons next ws =>
          obtain ⟨c, last, visible⟩ := last_visible before isWord
          have behind : follow (next :: ws) = ' ' :: joinWords (next :: ws) := by
            rw [joinWords_cons]
            rfl
          rw [findIter_word isWord plain (follow_ends _), last, behind, findIter_space visible]
            at none_found
          exact ih isWords (by decide) none_found

/-- The search over a written query. -/
theorem findIter_reads (lower : LowerCase) (plain : PlainWords items) :
    Reads lower (searchOperatorRe.findIter [] none (joinWords (items.map Item.written))) []
      items := by
  have quote : isSpace '"' = false := by decide
  cases items with
  | nil => exact ⟨⟨[[]], by simp [joinWords, findIter_nil, strip], by simp, rfl⟩, by
      simp [joinWords, findIter_nil, users], by simp [joinWords, findIter_nil, channels]⟩
  | cons item items =>
      have nothing : strip [] = joinWords [] := rfl
      have later := fragmentsOf_reads lower (plainWords_tail plain) (List.forall_mem_nil _)
        (.inl ⟨rfl, rfl⟩)
      rw [List.map_cons, joinWords_cons]
      cases item with
      | word text =>
          obtain ⟨isWord, no_operator⟩ := plain text List.mem_cons_self
          obtain ⟨c, last, visible⟩ := last_visible none isWord
          have alone : Stands text [text] := .inr ⟨by simp, .inl (by simp [joinWords])⟩
          rw [Item.written, findIter_word isWord no_operator (follow_ends _), last,
            findIter_follow (plainWords_tail plain) visible, List.nil_append]
          obtain ⟨⟨parts, stripped, areWords, flat⟩, is_users, is_channels⟩ :=
            fragmentsOf_reads lower (plainWords_tail plain) (by simpa using isWord) alone
          exact ⟨⟨parts, stripped, areWords, flat⟩, is_users, is_channels⟩
      | user name =>
          rw [Item.written, findIter_written (by simp) rfl,
            findIter_follow (plainWords_tail plain) quote]
          exact later.user nothing (List.forall_mem_nil _) name
      | channel name =>
          rw [Item.written, findIter_written (by simp) rfl,
            findIter_follow (plainWords_tail plain) quote]
          exact later.channel nothing (List.forall_mem_nil _) name

/-- Without a name all items are words. -/
theorem written_words (no_user : users items = []) (no_channel : channels items = []) :
    items.map Item.written = words items := by
  induction items with
  | nil => rfl
  | cons item items ih =>
      cases item with
      | word text => exact congrArg (text :: ·) (ih no_user no_channel)
      | user name => cases no_user
      | channel name => cases no_channel

/-- Of a query that is written from names and words the names are read back in order, and the words
as they are joined. -/
theorem parse_written (lower : LowerCase) (isWords : ∀ w ∈ words items, IsWord w)
    (noOperator : NoOperator (joinWords (words items))) :
    parseSearchQuery lower (joinWords (items.map Item.written)) =
      ⟨joinWords (words items), users items, channels items⟩ := by
  have plain : PlainWords items := fun w member =>
    ⟨isWords w member, plain_of_search isWords rfl noOperator w member⟩
  obtain ⟨⟨parts, stripped, areWords, flat⟩, is_users, is_channels⟩ := findIter_reads lower plain
  unfold parseSearchQuery
  dsimp only
  rw [is_users, is_channels]
  split
  · rename_i none_named
    rw [written_words none_named.1 none_named.2, none_named.1, none_named.2]
  · rw [stripped, joinWords_flatten areWords, flat, List.nil_append]

/-- A name with a quote, a backslash and an operator of its own. -/
theorem parse_written_name :
    parseSearchQuery .asciiOnly (joinWords ([Item.word ['h', 'i'],
      .user ['\\', '"', ' ', 'u', 's', 'e', 'r', ':', 'x']].map Item.written)) =
        ⟨['h', 'i'], [['\\', '"', ' ', 'u', 's', 'e', 'r', ':', 'x']], []⟩ := by
  have hi : IsWord ['h', 'i'] := ⟨by simp, by simp [isSpace]⟩
  have plain : ¬ StartsOperator ['h', 'i'] := by
    rintro ⟨letters, listed, name, c, rest, same, goods, -⟩
    have short := congrArg List.length same
    have long := goods.length_eq
    simp only [List.mem_cons, List.not_mem_nil, or_false] at listed
    obtain rfl | rfl := listed <;> simp [user, channel] at short long <;> omega
  have noOperator : NoOperator (['h', 'i'] ++ []) := by
    have nothing_behind : Ends [] := by rintro c ⟨⟩
    rw [NoOperator, findIter_word hi plain nothing_behind, findIter_nil]
  exact parse_written .asciiOnly (by simpa [words, Item.word?] using hi) noOperator

end Main

end Meshloom.MessageSearch
