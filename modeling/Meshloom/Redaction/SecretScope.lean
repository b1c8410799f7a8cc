import Meshloom.Dict
import Meshloom.Transition
import Meshloom.Redaction.LogRedaction
import Meshloom.Redaction.SecretForms

/-! The registry of literal secrets (`secret_scope` and `_scrub_literals` of
`app/log_redaction.py`): forms counted over the open scopes, and the snapshot that lines are
scrubbed with. A scope enters and leaves under the lock, in any order with the others. -/
namespace Meshloom.SecretScope
open LogRedaction SecretForms Transition

/-- An open scope, with the forms that it registered. -/
structure Scope where
  secrets : List Secret
  forms : List Form

structure State where
  counts : Dict Form Int
  snapshot : Snapshot
  openScopes : List Scope

inductive Event where
  /-- `order` is how the set of the forms is iterated -/
  | enter (secrets : List Secret) (order : List Form)
  | exit (index : Nat)

/-- `sorted(_literal_counts, key=len, reverse=True)`. -/
def refreshSnapshot (counts : Dict Form Int) : Snapshot :=
  counts.keys.mergeSort fun a b => b.length ≤ a.length

def register (counts : Dict Form Int) (form : Form) : Dict Form Int :=
  counts.set form ((counts.get? form).getD 0 + 1)

def release (counts : Dict Form Int) (form : Form) : Dict Form Int :=
  let count := (counts.get? form).getD 0 - 1
  if count ≤ 0 then counts.pop form else counts.set form count

def step (printable : Printable) (s : State) : Event → Option State
  | .enter secrets order =>
    if order.Nodup ∧ order.toFinset = (secrets.flatMap (secretForms printable)).toFinset then
      let counts := order.foldl register s.counts
      some ⟨counts, refreshSnapshot counts, ⟨secrets, order⟩ :: s.openScopes⟩
    else none
  | .exit index =>
    match s.openScopes[index]? with
    | none => none
    | some scope =>
      let counts := scope.forms.foldl release s.counts
      some ⟨counts, refreshSnapshot counts, s.openScopes.eraseIdx index⟩

def initial : State := ⟨.empty, [], []⟩

/-- How many open scopes registered a form. -/
def holders (scopes : List Scope) (form : Form) : Nat := scopes.countP fun scope => form ∈ scope.forms

structure Invariant (printable : Printable) (s : State) : Prop where
  counted : ∀ form, (s.counts.get? form).getD 0 = holders s.openScopes form
  positive : ∀ form count, s.counts.get? form = some count → 0 < count
  refreshed : s.snapshot = refreshSnapshot s.counts
  registered : ∀ scope ∈ s.openScopes, scope.forms.Nodup ∧
    ∀ form, form ∈ scope.forms ↔ ∃ secret ∈ scope.secrets, form ∈ secretForms printable secret

section Counts
variable {counts : Dict Form Int} {forms : List Form}

theorem getD_register (form other : Form) : ((register counts form).get? other).getD 0 =
    (counts.get? other).getD 0 + if other = form then 1 else 0 := by
  rw [register, Dict.get?_set]
  by_cases same : other = form <;> simp [same]

theorem getD_release (form other : Form) (held : 0 < (counts.get? form).getD 0) :
    ((release counts form).get? other).getD 0 =
      (counts.get? other).getD 0 - if other = form then 1 else 0 := by
  unfold release
  dsimp only
  split
  · rw [Dict.get?_pop]
    by_cases same : other = form
    · subst same
      simp only [if_true, Option.getD_none]
      omega
    · simp [same]
  · rw [Dict.get?_set]
    by_cases same : other = form <;> simp [same]

/-- A form is counted once more for a scope that registers it. -/
theorem getD_foldl_register (distinct : forms.Nodup) (form : Form) :
    ((forms.foldl register counts).get? form).getD 0 =
      (counts.get? form).getD 0 + if form ∈ forms then 1 else 0 := by
  induction forms generalizing counts with
  | nil => simp
  | cons first rest ih =>
      obtain ⟨fresh, distinct⟩ := List.nodup_cons.mp distinct
      rw [List.foldl_cons, ih distinct, getD_register]
      by_cases same : form = first
      · subst same
        simp [fresh]
      · simp [same]

theorem getD_foldl_release (distinct : forms.Nodup)
    (held : ∀ form ∈ forms, 0 < (counts.get? form).getD 0) (form : Form) :
    ((forms.foldl release counts).get? form).getD 0 =
      (counts.get? form).getD 0 - if form ∈ forms then 1 else 0 := by
  induction forms generalizing counts with
  | nil => simp
  | cons first rest ih =>
      obtain ⟨fresh, distinct⟩ := List.nodup_cons.mp distinct
      have first_held := held first List.mem_cons_self
      rw [List.foldl_cons, ih distinct, getD_release _ _ first_held]
      · by_cases same : form = first
        · subst same
          simp [fresh]
        · simp [same]
      · intro other member
        have apart : other ≠ first := fun same => fresh (same ▸ member)
        rw [getD_release _ _ first_held, if_neg apart]
        simpa using held other (List.mem_cons_of_mem _ member)

theorem positive_register (positive : ∀ form count, counts.get? form = some count → 0 < count) :
    ∀ form count, (forms.foldl register counts).get? form = some count → 0 < count := by
  induction forms generalizing counts with
  | nil => exact positive
  | cons first rest ih =>
      refine ih fun form count found => ?_
      rw [register, Dict.get?_set] at found
      split at found
      · cases stored : counts.get? first with
        | none => simp [stored] at found; omega
        | some old =>
            have := positive first old stored
            simp [stored] at found
            omega
      · exact positive form count found

theorem positive_release (positive : ∀ form count, counts.get? form = some count → 0 < count) :
    ∀ form count, (forms.foldl release counts).get? form = some count → 0 < count := by
  induction forms generalizing counts with
  | nil => exact positive
  | cons first rest ih =>
      refine ih fun form count found => ?_
      unfold release at found
      dsimp only at found
      split at found
      · rw [Dict.get?_pop] at found
        split at found
        · simp at found
        · exact positive form count found
      · rename_i more
        rw [Dict.get?_set] at found
        split at found
        · simp only [Option.some.injEq] at found
          omega
        · exact positive form count found

end Counts

section Run
variable {printable : Printable} {s t : State}

theorem holders_cons (scope : Scope) (scopes : List Scope) (form : Form) :
    holders (scope :: scopes) form = holders scopes form + if form ∈ scope.forms then 1 else 0 := by
  simp [holders, List.countP_cons]

theorem holders_eraseIdx {scopes : List Scope} {index : Nat} {scope : Scope}
    (found : scopes[index]? = some scope) (form : Form) :
    holders scopes form =
      holders (scopes.eraseIdx index) form + if form ∈ scope.forms then 1 else 0 := by
  obtain ⟨bound, rfl⟩ := List.getElem?_eq_some_iff.mp found
  have same := (List.getElem_cons_eraseIdx_perm bound).symm.countP_eq fun scope => form ∈ scope.forms
  rw [holders, same]
  exact holders_cons _ _ form

theorem invariant_initial : Invariant printable initial where
  counted _ := rfl
  positive := by intros; contradiction
  refreshed := by simp [refreshSnapshot, initial, Dict.keys, Dict.empty]
  registered := by intros; contradiction

theorem invariant_step (inv : Invariant printable s) (event : Event)
    (stepped : step printable s event = some t) : Invariant printable t := by
  cases event with
  | enter secrets order =>
      simp only [step, Option.ite_none_right_eq_some, Option.some.injEq] at stepped
      obtain ⟨⟨distinct, listed⟩, rfl⟩ := stepped
      refine ⟨fun form => ?_, positive_register inv.positive, rfl, fun scope member => ?_⟩
      · rw [getD_foldl_register distinct, inv.counted, holders_cons]
        push_cast
        split <;> rfl
      · rcases List.mem_cons.mp member with rfl | member
        · refine ⟨distinct, fun form => ?_⟩
          rw [← List.mem_toFinset, listed, List.mem_toFinset, List.mem_flatMap]
        · exact inv.registered scope member
  | exit index =>
      simp only [step] at stepped
      split at stepped
      · contradiction
      rename_i scope found
      cases stepped
      obtain ⟨distinct, _⟩ := inv.registered scope (List.mem_of_getElem? found)
      have held : ∀ form ∈ scope.forms, 0 < (s.counts.get? form).getD 0 := by
        intro form member
        rw [inv.counted, holders_eraseIdx found, if_pos member]
        positivity
      refine ⟨fun form => ?_, positive_release inv.positive, rfl, fun scope member => ?_⟩
      · rw [getD_foldl_release distinct held, inv.counted, holders_eraseIdx found]
        push_cast
        split <;> omega
      · exact inv.registered scope (List.mem_of_mem_eraseIdx member)

theorem invariant_run (run : Reaches (step printable) Any initial s) : Invariant printable s :=
  run.invariant (fun inv _ stepped => invariant_step inv _ stepped) invariant_initial

/-- The snapshot has the forms of the open scopes, and no others. -/
theorem mem_snapshot_iff (inv : Invariant printable s) (form : Form) :
    form ∈ s.snapshot ↔ ∃ scope ∈ s.openScopes, form ∈ scope.forms := by
  have counted : form ∈ s.snapshot ↔ 0 < holders s.openScopes form := by
    rw [inv.refreshed, refreshSnapshot, List.mem_mergeSort, Dict.mem_keys_iff]
    have same := inv.counted form
    constructor
    · rintro ⟨count, found⟩
      have := inv.positive form count found
      simp only [found, Option.getD_some] at same
      omega
    · intro more
      cases found : s.counts.get? form with
      | none =>
          simp only [found, Option.getD_none] at same
          omega
      | some count => exact ⟨count, rfl⟩
  rw [counted, holders, List.countP_pos_iff]
  simp

theorem snapshot_sorted (inv : Invariant printable s) :
    s.snapshot.Pairwise (fun a b => b.length ≤ a.length) ∧ s.snapshot.Nodup := by
  rw [inv.refreshed, refreshSnapshot]
  refine ⟨?_, (List.mergeSort_perm _ _).nodup_iff.mpr s.counts.nodup⟩
  have transitive : ∀ a b c : Form, decide (b.length ≤ a.length) = true →
      decide (c.length ≤ b.length) = true → decide (c.length ≤ a.length) = true := by
    intro a b c
    simp only [decide_eq_true_eq]
    omega
  have total : ∀ a b : Form,
      (decide (b.length ≤ a.length) || decide (a.length ≤ b.length)) = true := by
    intro a b
    simp only [Bool.or_eq_true, decide_eq_true_eq]
    omega
  simpa using List.pairwise_mergeSort transitive total s.counts.keys

end Run

/-- In no text does the form overlap the word that replaces it. -/
def Apart (form : Form) : Prop :=
  ∀ front back front' back' : List Char,
    front ++ form ++ back = front' ++ redacted ++ back' →
      front.length + form.length ≤ front'.length ∨
        front'.length + redacted.length ≤ front.length

section Scrub
variable {form other : Form} {text : List Char}

theorem replaceAll_drop (form : Form) (skip : Nat) (text : List Char) :
    replaceAll form skip text = replaceAll form 0 (text.drop skip) := by
  induction text generalizing skip with
  | nil => cases skip <;> simp [replaceAll]
  | cons c rest ih =>
      cases skip with
      | zero => rfl
      | succ skip => rw [replaceAll, ih, List.drop_succ_cons]

/-- An occurrence goes away whole, and the rest is replaced behind it. -/
theorem replaceAll_found (written : form ≠ []) (found : form <+: text) :
    replaceAll form 0 text = redacted ++ replaceAll form 0 (text.drop form.length) := by
  obtain ⟨d, form, rfl⟩ := List.exists_cons_of_ne_nil written
  cases text with
  | nil => simp at found
  | cons c rest =>
      rw [replaceAll, if_pos (List.isPrefixOf_iff_prefix.mpr found), replaceAll_drop]
      rfl

theorem replaceAll_kept {c : Char} {rest : List Char} (other : ¬ form <+: c :: rest) :
    replaceAll form 0 (c :: rest) = c :: replaceAll form 0 rest := by
  rw [replaceAll, if_neg fun found => other (List.isPrefixOf_iff_prefix.mp found)]

/-- What the replaced text starts with, the text starts with, for a form that keeps apart from the
replacement. -/
theorem prefix_of_replaced (written : form ≠ []) (apart : Apart other) (front : List Char)
    (found : other <+: front ++ replaceAll form 0 text) : other <+: front ++ text := by
  induction text generalizing front with
  | nil => simpa [replaceAll] using found
  | cons c rest ih =>
      by_cases occurs : form <+: c :: rest
      · rw [replaceAll_found written occurs] at found
        obtain ⟨back, same⟩ := found
        have clear := apart [] back front _ (by simpa using same)
        have some_length : 0 < redacted.length := by decide +kernel
        have before : other.length ≤ front.length := by
          simp only [List.length_nil, Nat.zero_add] at clear
          omega
        have within_front : other <+: front :=
          List.prefix_of_prefix_length_le ⟨back, same⟩ (List.prefix_append _ _) before
        exact within_front.trans (List.prefix_append _ _)
      · rw [replaceAll_kept occurs] at found
        simpa using ih (front ++ [c]) (by simpa using found)

/-- An occurrence behind the replacement is an occurrence in what follows it. -/
theorem infix_behind (written : other ≠ []) (apart : Apart other)
    (found : other <:+: redacted ++ text) : other <:+: text := by
  obtain ⟨front, back, same⟩ := found
  have clear := apart front back [] text (by simpa using same)
  have some_length := List.length_pos_of_ne_nil written
  have behind : redacted.length ≤ front.length := by
    simp only [List.length_nil, Nat.zero_add] at clear
    omega
  obtain ⟨rest, rfl⟩ : redacted <+: front := by
    refine List.prefix_of_prefix_length_le (List.prefix_append redacted text) ?_ behind
    exact ⟨other ++ back, by simpa using same⟩
  refine ⟨rest, back, ?_⟩
  simpa using same

/-- A replacement makes no occurrence of a form that keeps apart from it. -/
theorem infix_of_replaced (written : form ≠ []) (other_written : other ≠ []) (apart : Apart other)
    (found : other <:+: replaceAll form 0 text) : other <:+: text := by
  induction length : text.length using Nat.strong_induction_on generalizing text with
  | _ n ih =>
    subst length
    cases text with
    | nil => simpa [replaceAll] using found
    | cons c rest =>
        by_cases occurs : form <+: c :: rest
        · rw [replaceAll_found written occurs] at found
          have shorter : ((c :: rest).drop form.length).length < (c :: rest).length := by
            have := List.length_pos_of_ne_nil written
            rw [List.length_drop, List.length_cons]
            omega
          exact (ih _ shorter (infix_behind other_written apart found) rfl).trans
            (List.drop_suffix _ _).isInfix
        · rw [replaceAll_kept occurs] at found
          rcases List.infix_cons_iff.mp found with start | later
          · exact (prefix_of_replaced written apart [c] start).isInfix
          · exact List.infix_cons (ih rest.length (by simp) later rfl)

/-- A replacement leaves no occurrence of its own form. -/
theorem not_infix_replaced (written : form ≠ []) (apart : Apart form) :
    ¬ form <:+: replaceAll form 0 text := by
  induction length : text.length using Nat.strong_induction_on generalizing text with
  | _ n ih =>
    subst length
    cases text with
    | nil => simpa [replaceAll] using written
    | cons c rest =>
        intro found
        by_cases occurs : form <+: c :: rest
        · rw [replaceAll_found written occurs] at found
          have shorter : ((c :: rest).drop form.length).length < (c :: rest).length := by
            have := List.length_pos_of_ne_nil written
            rw [List.length_drop, List.length_cons]
            omega
          exact ih _ shorter rfl (infix_behind written apart found)
        · rw [replaceAll_kept occurs] at found
          rcases List.infix_cons_iff.mp found with start | later
          · exact occurs (prefix_of_replaced written apart [c] start)
          · exact ih rest.length (by simp) rfl later

theorem scrubLiterals_clean (snapshot : Snapshot) (written : ∀ form ∈ snapshot, form ≠ [])
    (apart : ∀ form ∈ snapshot, Apart form) (text : List Char) :
    ∀ form ∈ snapshot, ¬ form <:+: scrubLiterals snapshot text := by
  have kept (later : Snapshot) (written : ∀ form ∈ later, form ≠ []) {form : Form} (text : List Char)
      (form_written : form ≠ []) (apart : Apart form) (absent : ¬ form <:+: text) :
      ¬ form <:+: scrubLiterals later text := by
    induction later generalizing text with
    | nil => exact absent
    | cons first later ih =>
        refine ih (fun form member => written form (List.mem_cons_of_mem _ member)) _ fun found => ?_
        exact absent (infix_of_replaced (written first List.mem_cons_self) form_written apart found)
  induction snapshot generalizing text with
  | nil => simp
  | cons first later ih =>
      intro form member
      have later_written := fun form member => written form (List.mem_cons_of_mem first member)
      rcases List.mem_cons.mp member with rfl | member
      · exact kept later later_written _ (written _ List.mem_cons_self)
          (apart _ List.mem_cons_self) (not_infix_replaced (written _ List.mem_cons_self)
            (apart _ List.mem_cons_self))
      · exact ih later_written (fun form member => apart form (List.mem_cons_of_mem _ member)) _
          form member

end Scrub

/-- A form without a character of the replacement keeps apart from it. -/
theorem apart_of_disjoint {form : Form} (written : form ≠ [])
    (disjoint : ∀ c ∈ form, c ∉ redacted) : Apart form := by
  intro front back front' back' same
  by_contra overlap
  simp only [not_or, not_le] at overlap
  have some_length := List.length_pos_of_ne_nil written
  have replacement : 0 < redacted.length := by decide +kernel
  -- the later of the two starts lies in both
  let i := max front.length front'.length
  have lengths := congrArg List.length same
  simp only [List.length_append] at lengths
  have in_form : i - front.length < form.length := by omega
  have in_redacted : i - front'.length < redacted.length := by omega
  have read : (front ++ form ++ back)[i]? = (front' ++ redacted ++ back')[i]? := by rw [same]
  rw [List.append_assoc, List.getElem?_append_right (by omega), List.getElem?_append_left in_form,
    List.append_assoc, List.getElem?_append_right (by omega),
    List.getElem?_append_left in_redacted] at read
  have member := List.getElem_mem in_form
  refine disjoint _ member (List.mem_of_getElem? (i := i - front'.length) ?_)
  rw [← read, List.getElem?_eq_getElem in_form]

theorem secretForms_written {printable : Printable} {secret : Secret} {form : Form}
    (listed : form ∈ secretForms printable secret) : form ≠ [] := by
  unfold secretForms at listed
  dsimp only at listed
  split at listed
  · simp at listed
  · simpa using (List.mem_filter.mp listed).2

theorem snapshot_forms {printable : Printable} {s : State} (inv : Invariant printable s)
    (form : Form) : form ∈ s.snapshot ↔
      ∃ scope ∈ s.openScopes, ∃ secret ∈ scope.secrets, form ∈ secretForms printable secret := by
  rw [mem_snapshot_iff inv]
  refine exists_congr fun scope => and_congr_right fun member => ?_
  exact (inv.registered scope member).2 form

/-- After any scopes were entered and left, the snapshot has exactly the forms of the secrets in the
open ones, the longest first. A line that shows a value with a long secret inside holds a form of
it, and a scrubbed line holds no form, where every form keeps apart from the replacement. -/
theorem registered_literals_scrubbed (printable : Printable) {s : State}
    (run : Reaches (step printable) Any initial s) :
    (∀ form, form ∈ s.snapshot ↔
      ∃ scope ∈ s.openScopes, ∃ secret ∈ scope.secrets, form ∈ secretForms printable secret) ∧
    s.snapshot.Nodup ∧ s.snapshot.Pairwise (fun a b => b.length ≤ a.length) ∧
    (∀ (secret : Secret) (value : Value) (line : List Char),
      secretMinLiteralBytes ≤ secret.raw.length → secret.Inside value →
        Shows printable value line → ∃ form ∈ secretForms printable secret, form <:+: line) ∧
    ((∀ form ∈ s.snapshot, Apart form) → ∀ (text : List Char), ∀ form ∈ s.snapshot,
      ¬ form <:+: scrubLiterals s.snapshot text) := by
  have inv := invariant_run run
  have forms := snapshot_forms inv
  obtain ⟨sorted, distinct⟩ := snapshot_sorted inv
  refine ⟨forms, distinct, sorted, fun secret value line => shown_form, fun apart text => ?_⟩
  refine scrubLiterals_clean s.snapshot (fun form member => ?_) apart text
  obtain ⟨_, _, _, _, listed⟩ := (forms form).mp member
  exact secretForms_written listed

/-- Two scopes that share a secret, of which the first has left. -/
theorem registered_literals_scrubbed_shared :
    let digits : Secret := .text ['1', '2', '3', '4']
    let others : Secret := .bytes [53, 54, 55, 56]
    let forms := [['3', '1', '3', '2', '3', '3', '3', '4'], ['1', '2', '3', '4']]
    let more := [['3', '5', '3', '6', '3', '7', '3', '8'], ['5', '6', '7', '8']]
    ∃ s, Reaches (step fun _ => true) Any initial s ∧ s.openScopes.map (·.secrets) = [[digits]] ∧
      (∀ form, form ∈ s.snapshot ↔ form ∈ forms) ∧
      (∀ text, ¬ ['1', '2', '3', '4'] <:+: scrubLiterals s.snapshot text) ∧
      ∃ form ∈ secretForms (fun _ => true) others, form <:+: more.flatten := by
  intro digits others forms more
  have ran : (execute (step fun _ => true) initial
      [.enter [digits, others] (forms ++ more), .enter [digits] forms, .exit 1]).any
      (fun s => decide (s.openScopes.map (·.secrets) = [[digits]])) = true := by
    decide +kernel
  obtain ⟨s, executed, reached⟩ := (Option.any_eq_true _ _).mp ran
  have scopes : s.openScopes.map (·.secrets) = [[digits]] := of_decide_eq_true reached
  have run := execute_reaches executed
  obtain ⟨listed, _, _, shown, clean⟩ := registered_literals_scrubbed (fun _ => true) run
  have forms_of (form : Form) : form ∈ secretForms (fun _ => true) digits ↔ form ∈ forms := by
    have same : (secretForms (fun _ => true) digits).toFinset = forms.toFinset := by decide +kernel
    rw [← List.mem_toFinset, same, List.mem_toFinset]
  have kept (form : Form) : form ∈ s.snapshot ↔ form ∈ forms := by
    obtain ⟨scope, alone, secrets⟩ := List.map_eq_singleton_iff.mp scopes
    rw [listed, alone]
    simp [secrets, forms_of]
  refine ⟨s, run, scopes, kept, fun text => ?_, ?_⟩
  · refine clean (fun form member => ?_) text _ ((kept _).mpr (by simp [forms]))
    have plain : ∀ form ∈ forms, form ≠ [] ∧ ∀ c ∈ form, c.toNat < 64 := by simp [forms]
    have letters : redacted.all (fun c => decide (64 ≤ c.toNat)) = true := by decide +kernel
    obtain ⟨written, digit⟩ := plain form ((kept form).mp member)
    refine apart_of_disjoint written fun c inside letter => ?_
    exact absurd (digit c inside) (not_lt.mpr (of_decide_eq_true (List.all_eq_true.mp letters c letter)))
  · refine shown others (.text more.flatten) more.flatten (by decide) ?_ (.itself _)
    have within : ['5', '6', '7', '8'] <:+: more.flatten :=
      ⟨more.flatten.take 8, [], by decide +kernel⟩
    exact .decoded (by decide +kernel) within

end Meshloom.SecretScope
