import Meshloom.Redaction.LogRedaction

/-! What the rules do to a line: a head in which no rule begins is kept and only shifts what is
found behind it, and of the rules of the table the first that replaces something decides. -/
namespace Meshloom.LogRedaction
open BytesLiteral Text TextSearch
variable {python : Python}

theorem begins_handlerError : Begins "Error in event handler for ".toList handlerError := by
  intro text n found
  obtain ⟨eventType, _, here⟩ := List.exists_of_findSome?_eq_some found
  have whole := (literal_eq_some_iff.mp here).1
  rw [List.append_assoc] at whole
  exact (List.prefix_append _ _).trans whole

theorem begins_parseError : Begins parseErrorStart (parseError python) := by
  intro text n found
  simp only [parseError] at found
  split at found
  · contradiction
  · rename_i start here
    exact (literal_eq_some_iff.mp here).1

/-- No rule begins in the text: that is so of the time, the name and the level of a line. -/
structure Plain (head : List Char) : Prop where
  sites : ∀ site : Site, clearOf site.start head = true
  handlerError : clearOf "Error in event handler for ".toList head = true
  parseError : clearOf parseErrorStart head = true
  line : '\n' ∉ head

theorem take_shift (head text : List Char) (n : Nat) :
    (head ++ text).take (n + head.length) = head ++ text.take n := by
  rw [Nat.add_comm, List.take_length_add_append]

theorem drop_shift (head text : List Char) (n : Nat) :
    (head ++ text).drop (n + head.length) = text.drop n := by
  rw [Nat.add_comm, List.drop_length_add_append]

theorem cutHandlerError_append (clear : clearOf "Error in event handler for ".toList head = true)
    (text : List Char) :
    cutHandlerError true (head ++ text) = head ++ cutHandlerError true text := by
  simp only [cutHandlerError, occurrence, if_true, search_append begins_handlerError clear]
  cases search handlerError text with
  | none => rfl
  | some n => simp only [Option.map_some, take_shift, List.append_assoc]

theorem cutParseError_append (clear : clearOf parseErrorStart head = true) (text : List Char) :
    cutParseError python true (head ++ text) = head ++ cutParseError python true text := by
  simp only [cutParseError, occurrence, if_true, search_append begins_parseError clear]
  cases search (parseError python) text with
  | none => rfl
  | some n =>
      simp only [Option.map_some, take_shift, drop_shift]
      split
      · split <;> simp only [List.append_assoc]
      · rw [List.append_assoc]

theorem applyMultilineRules_append
    (handler : clearOf "Error in event handler for ".toList head = true)
    (parse : clearOf parseErrorStart head = true) (text : List Char) :
    applyMultilineRules python true (head ++ text) =
      head ++ applyMultilineRules python true text := by
  rw [applyMultilineRules, cutHandlerError_append handler, cutParseError_append parse,
    applyMultilineRules]

/-- A match of either pattern ends with a blank. -/
theorem handlerError_blank (found : handlerError text = some n) :
    ∃ before, text.take n = before ++ [' '] := by
  obtain ⟨eventType, _, here⟩ := List.exists_of_findSome?_eq_some found
  obtain ⟨⟨rest, rfl⟩, rfl⟩ := literal_eq_some_iff.mp here
  refine ⟨"Error in event handler for ".toList ++ eventType ++ [':'], ?_⟩
  rw [List.take_left]
  simp

theorem parseError_blank (found : parseError python text = some n) :
    ∃ before, text.take n = before ++ [' '] := by
  simp only [parseError] at found
  split at found
  · contradiction
  · rename_i start here
    obtain ⟨⟨rest, rfl⟩, rfl⟩ := literal_eq_some_iff.mp here
    rw [List.drop_left] at found
    split at found
    · contradiction
    · rename_i c rest
      split at found
      · simp only [ite_eq_iff, Option.some.injEq, reduceCtorEq, and_false, or_false] at found
        obtain ⟨mark, rfl⟩ := found
        rw [List.isPrefixOf_iff_prefix] at mark
        obtain ⟨after, eq⟩ := mark
        have split : rest = rest.takeWhile (isTypeChar python) ++ ([':', ' '] ++ after) := by
          conv_lhs => rw [← List.take_append_drop
            (rest.takeWhile (isTypeChar python)).length rest, ← eq]
          congr 1
          exact (List.prefix_iff_eq_take.mp (List.takeWhile_prefix _)).symm
        generalize rest.takeWhile (isTypeChar python) = name at split ⊢
        refine ⟨parseErrorStart ++ c :: (name ++ [':']), ?_⟩
        subst split
        have length : parseErrorStart.length + 1 + name.length + 2 =
            (parseErrorStart ++ c :: (name ++ [':', ' '])).length := by
          simp only [List.length_append, List.length_cons, List.length_nil]
          omega
        have shape : parseErrorStart ++ c :: (name ++ ([':', ' '] ++ after)) =
            parseErrorStart ++ c :: (name ++ [':', ' ']) ++ after := by simp
        rw [length, shape, List.take_left]
        simp
      · contradiction

theorem search_blank (blank : ∀ text n, atStart text = some n → ∃ before, text.take n = before ++ [' '])
    (found : search atStart text = some n) : ∃ before, text.take n = before ++ [' '] := by
  obtain ⟨before, rest, m, rfl, here, rfl⟩ := search_eq_some found
  obtain ⟨inner, eq⟩ := blank rest m here
  refine ⟨before ++ inner, ?_⟩
  rw [List.take_length_add_append, eq, List.append_assoc]

/-- The text ends after a blank, and the rest is dropped. -/
def Cut (text kept : List Char) : Prop :=
  ∃ before, before ++ [' '] <+: text ∧ kept = before ++ [' '] ++ redacted

theorem blank_not_redacted : ' ' ∉ redacted := by decide +kernel

/-- A prefix whose last character does not come later ends before what comes later. -/
theorem prefix_of_quiet (begins : a ++ [c] <+: b ++ r) (quiet : c ∉ r) : a ++ [c] <+: b := by
  obtain short | long := Nat.lt_or_ge b.length (a ++ [c]).length |>.symm
  · exact List.prefix_of_prefix_length_le begins (List.prefix_append _ _) short
  · obtain ⟨tail, eq⟩ := List.prefix_of_prefix_length_le (List.prefix_append b r) begins
      (Nat.le_of_lt long)
    rw [← eq, List.prefix_append_right_inj] at begins
    have nonempty : tail ≠ [] := by
      rintro rfl
      rw [List.append_nil] at eq
      rw [eq] at long
      exact absurd long (Nat.lt_irrefl _)
    obtain ⟨inner, d, rfl⟩ := List.eq_nil_or_concat' tail |>.resolve_left nonempty
    rw [← List.append_assoc] at eq
    obtain ⟨_, same⟩ := List.append_inj' eq rfl
    cases same
    exact absurd (begins.subset (by simp)) quiet

theorem Cut.cut (first : Cut text kept) (second : Cut kept last) : Cut text last := by
  obtain ⟨before, begins, rfl⟩ := first
  obtain ⟨inner, inside, rfl⟩ := second
  exact ⟨inner, (prefix_of_quiet inside blank_not_redacted).trans begins, rfl⟩

theorem cut_take (found : search atStart text = some n)
    (blank : ∀ text n, atStart text = some n → ∃ before, text.take n = before ++ [' ']) :
    Cut text (text.take n ++ redacted) := by
  obtain ⟨before, eq⟩ := search_blank blank found
  exact ⟨before, eq ▸ List.take_prefix n text, by rw [eq]⟩

theorem cutHandlerError_shape (text : List Char) :
    (search handlerError text = none ∧ cutHandlerError true text = text) ∨
      Cut text (cutHandlerError true text) := by
  simp only [cutHandlerError, occurrence, if_true]
  cases found : search handlerError text with
  | none => exact .inl ⟨rfl, rfl⟩
  | some n => exact .inr (cut_take found fun _ _ => handlerError_blank)

theorem cutParseError_shape (python : Python) (text : List Char) :
    cutParseError python true text = text ∨ Cut text (cutParseError python true text) := by
  simp only [cutParseError, occurrence, if_true]
  cases found : search (parseError python) text with
  | none => exact .inl rfl
  | some n =>
      have cut := cut_take found fun _ _ => parseError_blank
      simp only
      split
      · split
        · exact .inl rfl
        · exact .inr cut
      · exact .inr cut

/-- The rules over several lines leave a text as it is, or drop what follows a blank. -/
theorem applyMultilineRules_shape (python : Python) (text : List Char) :
    applyMultilineRules python true text = text ∨ Cut text (applyMultilineRules python true text) := by
  rw [applyMultilineRules]
  obtain ⟨_, same⟩ | cut := cutHandlerError_shape text
  · rw [same]
    exact cutParseError_shape python text
  · obtain same | again := cutParseError_shape python (cutHandlerError true text)
    · rw [same]
      exact .inr cut
    · exact .inr (cut.cut again)

/-- Neither of the patterns over several lines occurs. -/
def Uncut (python : Python) (text : List Char) : Prop :=
  search handlerError text = none ∧ search (parseError python) text = none

theorem Uncut.kept (uncut : Uncut python text) : applyMultilineRules python true text = text := by
  simp only [applyMultilineRules, cutHandlerError, cutParseError, occurrence, if_true, uncut.1,
    uncut.2]

/-- No `raw=` field ends the text: its last character is no digit, and it is one line. -/
def Tailed (text : List Char) : Prop :=
  '\n' ∉ text ∧ ∀ c, text.getLast? = some c → isHex c = false ∧ c ≠ '='

theorem Tailed.tail (tailed : Tailed (c :: rest)) : Tailed rest := by
  refine ⟨fun member => tailed.1 (List.mem_cons_of_mem _ member), fun d last => tailed.2 d ?_⟩
  cases rest with
  | nil => contradiction
  | cons e rest => rwa [List.getLast?_cons_cons]

theorem Tailed.drop (tailed : Tailed text) (n : Nat) : Tailed (text.drop n) := by
  induction n generalizing text with
  | zero => exact tailed
  | succ n ih =>
      cases text with
      | nil => exact tailed
      | cons c rest => exact ih tailed.tail

theorem rawAt_tailed (tailed : Tailed text) : rawAt text = none := by
  cases found : rawAt text with
  | none => rfl
  | some digits =>
      exfalso
      simp only [rawAt] at found
      split at found
      · contradiction
      · rename_i start here
        obtain ⟨⟨rest, rfl⟩, rfl⟩ := literal_eq_some_iff.mp here
        rw [List.drop_left, List.drop_length_add_append] at found
        have rejoined : rest = rest.takeWhile isHex ++ rest.drop (rest.takeWhile isHex).length := by
          conv_lhs => rw [← List.take_append_drop (rest.takeWhile isHex).length rest]
          congr 1
          exact (List.prefix_iff_eq_take.mp (List.takeWhile_prefix _)).symm
        split at found
        · rename_i ended
          rw [ended, List.append_nil] at rejoined
          have digits : ∀ c ∈ rest, isHex c = true := by
            rw [rejoined]
            exact fun c member => List.mem_takeWhile_imp member
          cases last : rest.getLast? with
          | none =>
              rw [List.getLast?_eq_none_iff] at last
              subst last
              exact (tailed.2 '=' (by decide +kernel)).2 rfl
          | some c =>
              have digit := digits c (List.mem_of_getLast? last)
              have ends : (" | raw=".toList ++ rest).getLast? = some c := by
                rw [List.getLast?_append, last, Option.some_or]
              rw [(tailed.2 c ends).1] at digit
              contradiction
        · rename_i c tail split
          split at found
          · rename_i newline
            subst newline
            refine tailed.1 (List.mem_append_right _ ?_)
            rw [rejoined, split]
            simp
          · contradiction

theorem findRaws_tailed (tailed : Tailed text) : findRaws k text = [] := by
  fun_induction findRaws k text with
  | case1 => rfl
  | case2 skip c rest ih => exact ih tailed.tail
  | case3 c rest digits found => rw [rawAt_tailed tailed] at found; contradiction
  | case4 c rest found ih => exact ih tailed.tail

theorem Cut.tailed (cut : Cut text kept) (line : '\n' ∉ text) : Tailed kept := by
  obtain ⟨before, begins, rfl⟩ := cut
  have short : '\n' ∉ before ++ [' '] := fun member => line (begins.subset member)
  have one_line : '\n' ∉ redacted := by decide +kernel
  refine ⟨fun member => (List.mem_append.mp member).elim short one_line, fun c last => ?_⟩
  have ends : redacted.getLast? = some ']' := by decide +kernel
  rw [List.getLast?_append, ends, Option.some_or] at last
  cases last
  decide

/-- In a text without a `raw=` field at its end, a pattern that occurs cuts it. -/
theorem cut_of_not_uncut (tailed : Tailed text) (pattern : ¬ Uncut python text) :
    Cut text (applyMultilineRules python true text) := by
  have parse {text : List Char} (tailed : Tailed text) (found : search (parseError python) text ≠ none) :
      Cut text (cutParseError python true text) := by
    obtain ⟨n, found⟩ := Option.ne_none_iff_exists'.mp found
    simp only [cutParseError, occurrence, if_true, found, findRaws_tailed (tailed.drop n)]
    exact cut_take found fun _ _ => parseError_blank
  rw [applyMultilineRules]
  obtain ⟨unhandled, same⟩ | cut := cutHandlerError_shape text
  · rw [same]
    exact parse tailed fun unparsed => pattern ⟨unhandled, unparsed⟩
  · obtain same | again := cutParseError_shape python (cutHandlerError true text)
    · rwa [same]
    · exact cut.cut again

end Meshloom.LogRedaction
