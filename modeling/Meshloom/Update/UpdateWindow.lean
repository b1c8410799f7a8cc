import Meshloom.Text

/-! The window of automatic updates (`app/services/update_window.py`). With a fixed UTC offset a
local time is a number of microseconds since the midnight of some Monday; the calendar has no last
day. -/
namespace Meshloom.UpdateWindow
open Text

section Openings
variable {T : Type} [LinearOrder T] {opens inside : T → Prop} {now t : T}

/-- Whoever is inside has been inside since an opening. -/
def SinceOpening (opens inside : T → Prop) : Prop :=
  ∀ t, inside t → ∃ o, opens o ∧ o ≤ t ∧ ∀ u, o ≤ u → u ≤ t → inside u

/-- From a time that is outside nothing is inside before the next opening. -/
theorem SinceOpening.outside_until (since : SinceOpening opens inside) (outside : ¬ inside now)
    (next : ∀ u, opens u → now ≤ u → t ≤ u) (u : T) (later : now ≤ u) (before : u < t) :
    ¬ inside u := by
  intro inside_u
  obtain ⟨o, opening, reached, all⟩ := since u inside_u
  obtain early | late := le_total o now
  · exact outside (all now early later)
  · exact absurd (next o opening late) (not_le_of_gt (lt_of_le_of_lt reached before))

end Openings

/-- The decimal digits of Unicode, which `\d` and `int` take. -/
structure Decimal where
  value : Char → Option Nat
  le_nine : ∀ c d, value c = some d → d ≤ 9

def Decimal.ascii : Decimal where
  value c := if 48 ≤ c.toNat ∧ c.toNat ≤ 57 then some (c.toNat - 48) else none
  le_nine := by
    intro c d digit
    obtain ⟨bounds, same⟩ := Option.ite_none_right_eq_some.mp digit
    obtain rfl := Option.some.inj same
    omega

inductive ValueError where
  /-- `invalid HH:MM: {value!r}` -/
  | invalidHhmm (value : List Char)
  /-- `invalid weekday: {day!r}` -/
  | invalidWeekday (day : Int)
  deriving DecidableEq

/-- `[01]\d|2[0-3]` -/
def matchHour (digits : Decimal) (c c' : Char) : Option Nat :=
  if c = '0' ∨ c = '1' then (digits.value c').map (10 * (c.toNat - 48) + ·)
  else if c = '2' ∧ c' ∈ ['0', '1', '2', '3'] then some (20 + (c'.toNat - 48))
  else none

/-- `[0-5]\d` -/
def matchMinute (digits : Decimal) (c c' : Char) : Option Nat :=
  if c ∈ ['0', '1', '2', '3', '4', '5'] then (digits.value c').map (10 * (c.toNat - 48) + ·)
  else none

/-- `_HHMM.fullmatch` -/
def matchHhmm (digits : Decimal) : List Char → Option (Nat × Nat)
  | [h, h', ':', m, m'] =>
    (matchHour digits h h').bind fun hour => (matchMinute digits m m').map (hour, ·)
  | _ => none

def parseHhmm (digits : Decimal) (value : List Char) : Except ValueError (Nat × Nat) :=
  match matchHhmm digits (strip value) with
  | some clock => .ok clock
  | none => .error (.invalidHhmm value)

/-- The days that were collected, and those of the rest that are new. -/
def collectWeekdays (out : List Int) : List Int → Except ValueError (List Int)
  | [] => .ok out
  | day :: rest =>
    if day < 0 ∨ 6 < day then .error (.invalidWeekday day)
    else collectWeekdays (if day ∈ out then out else out ++ [day]) rest

def normalizeWeekdays (weekdays : List Int) : Except ValueError (List Int) :=
  (collectWeekdays [] weekdays).map (·.mergeSort (· ≤ ·))

abbrev minuteMicros : Int := 60000000
abbrev dayMicros : Int := 86400000000

/-- A `datetime`: a wall clock without a time zone, or an instant in UTC. -/
inductive DateTime where
  | naive (wall : Int)
  | aware (utc : Int)
  deriving DecidableEq

/-- `_as_local`, as the local wall clock. -/
def asLocal (utcOffset : Int) : DateTime → Int
  | .naive wall => wall
  | .aware utc => utc + utcOffset

def day (t : Int) : Int := t / dayMicros

def weekday (t : Int) : Int := day t % 7

/-- `_clock_minutes` of the hour and the minute. -/
def clockMinutes (clock : Nat × Nat) : Nat := clock.1 * 60 + clock.2

def nowMinutes (t : Int) : Int := t % dayMicros / minuteMicros

/-- `day.replace(hour=.., minute=.., second=0, microsecond=0)` -/
def replaceClock (t : Int) (minutes : Nat) : Int := day t * dayMicros + minutes * minuteMicros

/-- Whether a local time is in the window of the days and the two clock times. -/
def holds (days : List Int) (startMin endMin : Nat) (t : Int) : Bool :=
  if startMin = endMin then weekday t ∈ days
  else if startMin < endMin then
    weekday t ∈ days && decide (startMin ≤ nowMinutes t) && decide (nowMinutes t < endMin)
  -- A window over midnight belongs to the weekday on which it opened.
  else if startMin ≤ nowMinutes t then weekday t ∈ days
  else if nowMinutes t < endMin then (weekday t - 1) % 7 ∈ days
  else false

/-- The day is selected and its opening is not over. -/
def opensAfter (days : List Int) (openMin : Nat) (t : Int) (offset : Nat) : Bool :=
  weekday (t + offset * dayMicros) ∈ days ∧ t ≤ replaceClock (t + offset * dayMicros) openMin

/-- The loop over today and the seven days that follow. -/
def search (days : List Int) (openMin : Nat) (t : Int) : Option Int :=
  ((List.range 8).find? (opensAfter days openMin t)).map
    fun (offset : Nat) => replaceClock (t + offset * dayMicros) openMin

section Functions
variable (digits : Decimal) (utcOffset : Int) (now : DateTime) (start stop : List Char)
  (weekdays : List Int)

def inWindow : Except ValueError Bool :=
  match normalizeWeekdays weekdays with
  | .error e => .error e
  | .ok [] => .ok false
  | .ok days =>
    match parseHhmm digits start, parseHhmm digits stop with
    | .error e, _ => .error e
    | _, .error e => .error e
    | .ok start, .ok stop =>
      .ok (holds days (clockMinutes start) (clockMinutes stop) (asLocal utcOffset now))

def nextWindowStart : Except ValueError (Option DateTime) :=
  match normalizeWeekdays weekdays with
  | .error e => .error e
  | .ok [] => .ok none
  | .ok days =>
    match parseHhmm digits start, parseHhmm digits stop with
    | .error e, _ => .error e
    | _, .error e => .error e
    | .ok start, .ok stop =>
      let startMin := clockMinutes start
      -- Equal bounds are a whole selected day, which opens at midnight.
      let openMin := if startMin = clockMinutes stop then 0 else startMin
      .ok ((search days openMin (asLocal utcOffset now)).map fun wall => .aware (wall - utcOffset))

end Functions

/-- The window of the days opens at a local time. -/
def Opens (days : List Int) (openMin : Nat) (t : Int) : Prop :=
  weekday t ∈ days ∧ t % dayMicros = openMin * minuteMicros

section Clock
variable {digits : Decimal} {value : List Char} {clock : Nat × Nat} {c c' : Char}
  {hour minute : Nat}

theorem matchHour_le (matched : matchHour digits c c' = some hour) : hour ≤ 23 := by
  unfold matchHour at matched
  split at matched
  · rename_i first
    obtain ⟨d, digit, rfl⟩ := Option.map_eq_some_iff.mp matched
    have := digits.le_nine _ _ digit
    obtain rfl | rfl := first <;> simp <;> omega
  · obtain ⟨⟨-, member⟩, same⟩ := Option.ite_none_right_eq_some.mp matched
    obtain rfl := Option.some.inj same
    simp only [List.mem_cons, List.not_mem_nil, or_false] at member
    obtain rfl | rfl | rfl | rfl := member <;> decide

theorem matchMinute_le (matched : matchMinute digits c c' = some minute) : minute ≤ 59 := by
  obtain ⟨member, matched⟩ := Option.ite_none_right_eq_some.mp matched
  obtain ⟨d, digit, rfl⟩ := Option.map_eq_some_iff.mp matched
  have := digits.le_nine _ _ digit
  simp only [List.mem_cons, List.not_mem_nil, or_false] at member
  obtain rfl | rfl | rfl | rfl | rfl | rfl := member <;> simp <;> omega

theorem matchHhmm_lt (matched : matchHhmm digits value = some clock) : clockMinutes clock < 1440 := by
  unfold matchHhmm at matched
  split at matched
  · obtain ⟨hour, is_hour, matched⟩ := Option.bind_eq_some_iff.mp matched
    obtain ⟨minute, is_minute, rfl⟩ := Option.map_eq_some_iff.mp matched
    have := matchHour_le is_hour
    have := matchMinute_le is_minute
    unfold clockMinutes
    omega
  · cases matched

theorem parseHhmm_lt (parsed : parseHhmm digits value = .ok clock) : clockMinutes clock < 1440 := by
  unfold parseHhmm at parsed
  split at parsed
  · rename_i matched
    cases parsed
    exact matchHhmm_lt matched
  · cases parsed

end Clock

section Weekdays
variable {out weekdays days : List Int}

theorem collectWeekdays_spec (valid : ∀ d ∈ weekdays, 0 ≤ d ∧ d ≤ 6) :
    ∃ days, collectWeekdays out weekdays = .ok days ∧ ∀ d, d ∈ days ↔ d ∈ out ∨ d ∈ weekdays := by
  induction weekdays generalizing out with
  | nil => exact ⟨out, rfl, by simp⟩
  | cons d rest ih =>
      obtain ⟨range, valid⟩ := List.forall_mem_cons.mp valid
      have in_range : ¬ (d < 0 ∨ 6 < d) := by omega
      rw [collectWeekdays, if_neg in_range]
      obtain ⟨days, collected, members⟩ := ih valid
      refine ⟨days, collected, fun e => ?_⟩
      rw [members, List.mem_cons]
      split
      · rename_i known
        constructor
        · rintro (before | after)
          · exact .inl before
          · exact .inr (.inr after)
        · rintro (before | rfl | after)
          · exact .inl before
          · exact .inl known
          · exact .inr after
      · rw [List.mem_append, List.mem_singleton, or_assoc]

theorem normalizeWeekdays_spec (valid : ∀ d ∈ weekdays, 0 ≤ d ∧ d ≤ 6) :
    ∃ days, normalizeWeekdays weekdays = .ok days ∧ ∀ d, d ∈ days ↔ d ∈ weekdays := by
  have collects : ∃ days, collectWeekdays [] weekdays = .ok days ∧
      ∀ d, d ∈ days ↔ d ∈ ([] : List Int) ∨ d ∈ weekdays := collectWeekdays_spec valid
  obtain ⟨days, collected, members⟩ := collects
  refine ⟨days.mergeSort (· ≤ ·), by rw [normalizeWeekdays, collected]; rfl, fun d => ?_⟩
  simp [List.mem_mergeSort, members]

end Weekdays

section Core
variable {days : List Int} {startMin endMin openMin : Nat} {t now : Int}

theorem weekday_add (t : Int) (offset : Nat) :
    weekday (t + offset * dayMicros) = (day t + offset) % 7 := by
  unfold weekday day dayMicros
  omega

theorem replaceClock_add (t : Int) (offset openMin : Nat) :
    replaceClock (t + offset * dayMicros) openMin =
      (day t + offset) * dayMicros + openMin * minuteMicros := by
  unfold replaceClock day dayMicros
  omega

theorem opens_at {k : Int} (lt : openMin < 1440) (selected : k % 7 ∈ days) :
    Opens days openMin (k * dayMicros + openMin * minuteMicros) := by
  have same : weekday (k * dayMicros + openMin * minuteMicros) = k % 7 := by
    unfold weekday day dayMicros minuteMicros
    omega
  refine ⟨same ▸ selected, ?_⟩
  unfold dayMicros minuteMicros
  omega

/-- Since a clock time of the same day it is the same day, and later than then. -/
theorem since_clock {u : Int} (since : day t * dayMicros + openMin * minuteMicros ≤ u)
    (before : u ≤ t) :
    day u = day t ∧ (openMin : Int) ≤ nowMinutes u ∧ nowMinutes u ≤ nowMinutes t := by
  unfold nowMinutes day dayMicros minuteMicros at *
  omega

/-- Since a clock time of the day before it is that day and later, or it is the same day. -/
theorem since_clock_before {u : Int}
    (since : (day t - 1) * dayMicros + openMin * minuteMicros ≤ u) (before : u ≤ t) :
    (day u = day t - 1 ∧ (openMin : Int) ≤ nowMinutes u) ∨
      (day u = day t ∧ nowMinutes u ≤ nowMinutes t) := by
  unfold nowMinutes day dayMicros minuteMicros at *
  omega

theorem weekday_sub_one (t : Int) : (weekday t - 1) % 7 = (day t - 1) % 7 := by
  unfold weekday
  omega

theorem holds_within (different : startMin ≠ endMin) (within : startMin < endMin) :
    holds days startMin endMin t = true ↔
      weekday t ∈ days ∧ (startMin : Int) ≤ nowMinutes t ∧ nowMinutes t < endMin := by
  simp [holds, if_neg different, if_pos within, and_assoc]

theorem holds_wrapping (different : startMin ≠ endMin) (wraps : ¬ startMin < endMin) :
    holds days startMin endMin t = true ↔
      ((startMin : Int) ≤ nowMinutes t ∧ weekday t ∈ days) ∨
        (nowMinutes t < startMin ∧ nowMinutes t < endMin ∧ (weekday t - 1) % 7 ∈ days) := by
  rw [holds, if_neg different, if_neg wraps]
  by_cases late : (startMin : Int) ≤ nowMinutes t
  · simp [late, not_lt.mpr late]
  · simp [late, not_le.mp late]

/-- Whenever the window holds, it has held since it opened. -/
theorem holds_since (start_lt : startMin < 1440) :
    SinceOpening (Opens days (if startMin = endMin then 0 else startMin))
      (fun t => holds days startMin endMin t = true) := by
  intro t inside
  have now_later : day t * dayMicros + nowMinutes t * minuteMicros ≤ t := by
    unfold nowMinutes day dayMicros minuteMicros
    omega
  by_cases whole : startMin = endMin
  · rw [if_pos whole]
    simp only [holds, if_pos whole, decide_eq_true_eq] at inside ⊢
    refine ⟨_, opens_at (by decide) inside, ?_, fun u since before => ?_⟩
    · unfold day dayMicros
      omega
    · rw [weekday, (since_clock since before).1]
      exact inside
  rw [if_neg whole]
  by_cases within : startMin < endMin
  · obtain ⟨selected, from_start, to_end⟩ := (holds_within whole within).mp inside
    refine ⟨_, opens_at start_lt selected, ?_, fun u since before => ?_⟩
    · unfold minuteMicros at *
      omega
    · obtain ⟨same_day, later, earlier⟩ := since_clock since before
      have same : weekday u = weekday t := congrArg (· % 7) same_day
      exact (holds_within whole within).mpr ⟨same ▸ selected, later, by omega⟩
  · obtain ⟨evening, selected⟩ | ⟨-, morning, selected⟩ := (holds_wrapping whole within).mp inside
    · refine ⟨_, opens_at start_lt selected, ?_, fun u since before => ?_⟩
      · unfold minuteMicros at *
        omega
      · obtain ⟨same_day, later, -⟩ := since_clock since before
        have same : weekday u = weekday t := congrArg (· % 7) same_day
        exact (holds_wrapping whole within).mpr (.inl ⟨later, same ▸ selected⟩)
    · rw [weekday_sub_one] at selected
      refine ⟨_, opens_at start_lt selected, ?_, fun u since before => ?_⟩
      · unfold day dayMicros minuteMicros
        omega
      · refine (holds_wrapping whole within).mpr ?_
        obtain ⟨day_before, later⟩ | ⟨same_day, earlier⟩ := since_clock_before since before
        · exact .inl ⟨later, by rw [weekday, day_before]; exact selected⟩
        · have not_evening : nowMinutes u < startMin := by omega
          refine .inr ⟨not_evening, by omega, ?_⟩
          rw [weekday_sub_one, same_day]
          exact selected

/-- The window holds at its opening. -/
theorem holds_opening
    (opening : Opens days (if startMin = endMin then 0 else startMin) t) :
    holds days startMin endMin t = true := by
  obtain ⟨selected, clock⟩ := opening
  by_cases whole : startMin = endMin
  · simp [holds, if_pos whole, selected]
  · rw [if_neg whole] at clock
    have start : nowMinutes t = startMin := by
      unfold nowMinutes minuteMicros at *
      omega
    by_cases within : startMin < endMin
    · exact (holds_within whole within).mpr ⟨selected, start.ge, by omega⟩
    · exact (holds_wrapping whole within).mpr (.inl ⟨start.ge, selected⟩)

/-- An opening that is not over is that of one of the days to come. -/
theorem opens_ahead (opening : Opens days openMin u) (later : t ≤ u) :
    ∃ offset : Nat, u = replaceClock (t + offset * dayMicros) openMin ∧
      weekday (t + offset * dayMicros) ∈ days := by
  obtain ⟨selected, clock⟩ := opening
  have ahead : day t ≤ day u := by
    unfold day dayMicros
    omega
  obtain ⟨offset, is_offset⟩ := Int.eq_ofNat_of_zero_le (Int.sub_nonneg.mpr ahead)
  have that_day : day t + offset = day u := by omega
  refine ⟨offset, ?_, ?_⟩
  · rw [replaceClock_add, that_day, ← clock]
    unfold day dayMicros
    omega
  · rw [weekday_add, that_day]
    exact selected

/-- The search finds the least opening that is not over. -/
theorem search_least (range : ∀ d ∈ days, 0 ≤ d ∧ d ≤ 6) (some_day : days ≠ [])
    (lt : openMin < 1440) :
    ∃ o, search days openMin t = some o ∧ t ≤ o ∧ Opens days openMin o ∧
      ∀ u, Opens days openMin u → t ≤ u → o ≤ u := by
  cases found : (List.range 8).find? (opensAfter days openMin t) with
  | none =>
      exfalso
      obtain ⟨d, member⟩ := List.exists_mem_of_ne_nil days some_day
      have in_range := range d member
      -- The day after today or later that is `d`.
      have ahead : ∃ offset : Nat, 1 ≤ offset ∧ offset < 8 ∧ (day t + offset) % 7 = d :=
        ⟨(1 + (d - day t - 1) % 7).toNat, by omega, by omega, by omega⟩
      obtain ⟨offset, tomorrow, within, is_d⟩ := ahead
      have missed := List.find?_range_eq_none.mp found offset within
      have later : t ≤ replaceClock (t + offset * dayMicros) openMin := by
        rw [replaceClock_add]
        unfold day dayMicros minuteMicros
        omega
      rw [← weekday_add] at is_d
      simp [opensAfter, is_d, member, later] at missed
  | some offset =>
      obtain ⟨chosen, -, first⟩ := List.find?_range_eq_some.mp found
      obtain ⟨selected, later⟩ := of_decide_eq_true chosen
      have opening : Opens days openMin (replaceClock (t + offset * dayMicros) openMin) := by
        rw [replaceClock_add]
        exact opens_at lt (weekday_add t offset ▸ selected)
      refine ⟨_, by rw [search, found, Option.map_some], later, opening, fun u opens after => ?_⟩
      obtain ⟨other, rfl, other_selected⟩ := opens_ahead opens after
      by_contra earlier
      have fewer : other < offset := by
        rw [replaceClock_add, replaceClock_add] at earlier
        unfold dayMicros at earlier
        omega
      have missed := first other fewer
      simp [opensAfter, other_selected, after] at missed

end Core

section Main
variable {digits : Decimal} {utcOffset : Int} {now : DateTime} {start stop : List Char}
  {weekdays days : List Int} {startClock stopClock : Nat × Nat}

theorem inWindow_of (normalized : normalizeWeekdays weekdays = .ok days) (some_day : days ≠ [])
    (startParsed : parseHhmm digits start = .ok startClock)
    (stopParsed : parseHhmm digits stop = .ok stopClock) (now : DateTime) :
    inWindow digits utcOffset now start stop weekdays =
      .ok (holds days (clockMinutes startClock) (clockMinutes stopClock)
        (asLocal utcOffset now)) := by
  rw [inWindow, normalized, startParsed, stopParsed]
  cases days with
  | nil => exact absurd rfl some_day
  | cons first rest => rfl

theorem nextWindowStart_of (normalized : normalizeWeekdays weekdays = .ok days)
    (some_day : days ≠ []) (startParsed : parseHhmm digits start = .ok startClock)
    (stopParsed : parseHhmm digits stop = .ok stopClock) (now : DateTime) :
    nextWindowStart digits utcOffset now start stop weekdays =
      .ok ((search days (if clockMinutes startClock = clockMinutes stopClock then 0
        else clockMinutes startClock) (asLocal utcOffset now)).map
          fun wall => .aware (wall - utcOffset)) := by
  rw [nextWindowStart, normalized, startParsed, stopParsed]
  cases days with
  | nil => exact absurd rfl some_day
  | cons first rest => rfl

theorem nextWindowStart_nil :
    nextWindowStart digits utcOffset now start stop [] = .ok none := by
  simp [nextWindowStart, normalizeWeekdays, collectWeekdays, Except.map]

/-- The window opens at a local time: at the start of a selected day's window, or at its midnight
when the bounds are the same. -/
def OpensAt (weekdays : List Int) (startClock stopClock : Nat × Nat) (t : Int) : Prop :=
  Opens weekdays (if clockMinutes startClock = clockMinutes stopClock then 0
    else clockMinutes startClock) t

/-- The least opening that is not over; the window holds there, and from a time outside it does not
hold before. -/
structure NextStart (digits : Decimal) (utcOffset : Int) (now : DateTime) (start stop : List Char)
    (weekdays : List Int) (startClock stopClock : Nat × Nat) (t : DateTime) : Prop where
  later : asLocal utcOffset now ≤ asLocal utcOffset t
  opens : OpensAt weekdays startClock stopClock (asLocal utcOffset t)
  least : ∀ u, OpensAt weekdays startClock stopClock u → asLocal utcOffset now ≤ u →
    asLocal utcOffset t ≤ u
  inside : inWindow digits utcOffset t start stop weekdays = .ok true
  outside : inWindow digits utcOffset now start stop weekdays = .ok false →
    ∀ u, asLocal utcOffset now ≤ asLocal utcOffset u → asLocal utcOffset u < asLocal utcOffset t →
      inWindow digits utcOffset u start stop weekdays = .ok false

/-- A selected day gives a next start. -/
theorem nextWindowStart_some (valid : ∀ d ∈ weekdays, 0 ≤ d ∧ d ≤ 6)
    (startParsed : parseHhmm digits start = .ok startClock)
    (stopParsed : parseHhmm digits stop = .ok stopClock) (some_weekday : weekdays ≠ []) :
    ∃ t, nextWindowStart digits utcOffset now start stop weekdays = .ok (some t) ∧
      NextStart digits utcOffset now start stop weekdays startClock stopClock t := by
  obtain ⟨days, normalized, members⟩ := normalizeWeekdays_spec valid
  have some_day : days ≠ [] := by
    obtain ⟨d, member⟩ := List.exists_mem_of_ne_nil weekdays some_weekday
    exact List.ne_nil_of_mem ((members d).mpr member)
  have opens_iff (u : Int) : OpensAt weekdays startClock stopClock u ↔
      Opens days (if clockMinutes startClock = clockMinutes stopClock then 0
        else clockMinutes startClock) u := by
    rw [OpensAt, Opens, Opens, members]
  have range : ∀ d ∈ days, 0 ≤ d ∧ d ≤ 6 := fun d member => valid d ((members d).mp member)
  have lt : (if clockMinutes startClock = clockMinutes stopClock then 0
      else clockMinutes startClock) < 1440 := by
    split
    · decide
    · exact parseHhmm_lt startParsed
  obtain ⟨o, is_o, later, opening, least⟩ :=
    search_least (t := asLocal utcOffset now) range some_day lt
  have wall : asLocal utcOffset (.aware (o - utcOffset)) = o := Int.sub_add_cancel o utcOffset
  have window (u : DateTime) : inWindow digits utcOffset u start stop weekdays =
      .ok (holds days (clockMinutes startClock) (clockMinutes stopClock) (asLocal utcOffset u)) :=
    inWindow_of normalized some_day startParsed stopParsed u
  refine ⟨.aware (o - utcOffset), ?_, ?_, ?_, ?_, ?_, fun outside u after before => ?_⟩
  · rw [nextWindowStart_of normalized some_day startParsed stopParsed, is_o, Option.map_some]
  · rw [wall]
    exact later
  · rw [wall, opens_iff]
    exact opening
  · intro u opens_u after
    rw [wall]
    exact least u ((opens_iff u).mp opens_u) after
  · rw [window, wall]
    exact congrArg Except.ok (holds_opening opening)
  · rw [wall] at before
    rw [window] at outside ⊢
    have not_now := Bool.eq_false_iff.mp (Except.ok.inj outside)
    have closed := (holds_since (parseHhmm_lt startParsed)).outside_until not_now least
      (asLocal utcOffset u) after before
    exact congrArg Except.ok (Bool.eq_false_iff.mpr closed)

theorem nextWindowStart_spec (valid : ∀ d ∈ weekdays, 0 ≤ d ∧ d ≤ 6)
    (startParsed : parseHhmm digits start = .ok startClock)
    (stopParsed : parseHhmm digits stop = .ok stopClock) :
    (nextWindowStart digits utcOffset now start stop weekdays = .ok none ↔ weekdays = []) ∧
    (weekdays ≠ [] → ∃ t, nextWindowStart digits utcOffset now start stop weekdays = .ok (some t) ∧
      NextStart digits utcOffset now start stop weekdays startClock stopClock t) := by
  refine ⟨⟨fun nothing => ?_, fun none_selected => none_selected ▸ nextWindowStart_nil⟩,
    nextWindowStart_some valid startParsed stopParsed⟩
  by_contra some_weekday
  obtain ⟨t, something, -⟩ := nextWindowStart_some valid startParsed stopParsed some_weekday
  rw [nothing] at something
  cases something

/-- A window over midnight on Mondays and Wednesdays, looked for on a Monday at noon. -/
theorem nextWindowStart_spec_monday :
    let noon := DateTime.aware (12 * 60 * minuteMicros)
    ∃ t, nextWindowStart .ascii 0 noon ['2', '2', ':', '0', '0'] ['0', '6', ':', '0', '0'] [2, 0] =
        .ok (some t) ∧
      NextStart .ascii 0 noon ['2', '2', ':', '0', '0'] ['0', '6', ':', '0', '0'] [2, 0] (22, 0)
        (6, 0) t := by
  have valid : ∀ d ∈ ([2, 0] : List Int), 0 ≤ d ∧ d ≤ 6 := by decide
  have start : parseHhmm .ascii ['2', '2', ':', '0', '0'] = .ok (22, 0) := by decide
  have stop : parseHhmm .ascii ['0', '6', ':', '0', '0'] = .ok (6, 0) := by decide
  exact (nextWindowStart_spec valid start stop).2 (by decide)

end Main

end Meshloom.UpdateWindow
