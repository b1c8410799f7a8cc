import Meshloom.Double
import Meshloom.Packet.RouteProofs

/-! The route override as the frontend's editor shows it: the stored path split into
hops with the arithmetic of the frontend's numbers, and the text that the user finds in
the input field. -/
namespace Meshloom.Frontend
open Bytes Packet Text

/-- `toUpperCase()` of a hexadecimal text. -/
def toUpperCase (text : List Char) : List Char := text.map Char.toUpper

/-- `toLowerCase()` of a hexadecimal text. -/
def toLowerCase (text : List Char) : List Char := text.map Char.toLower

/-- The operator `%`, which is exact and takes the sign of the dividend. -/
def remainder (a b : ℚ) : ℚ := a - b * (if 0 ≤ a / b then (a / b).floor else (a / b).ceil)

structure ContactRoute where
  path : JsString
  pathLen : ℚ
  pathHashMode : ℚ

/-- The fields of a contact that the override editor reads. -/
structure Contact where
  routeOverride : Option ContactRoute
  routeOverridePath : Option JsString
  routeOverrideLen : Option ℚ
  routeOverrideHashMode : Option ℚ

section Editor
variable (r : Rounding)

def normalizePathHashMode (mode : Option ℚ) : Option ℚ :=
  mode.filter fun mode => mode.isInt ∧ 0 ≤ mode ∧ mode ≤ 2

def inferPathHashMode (path : Option JsString) (hopCount : Option ℚ) : Option ℚ :=
  match path, hopCount with
  | some path, some hopCount =>
    if path.chars = [] ∨ hopCount ≤ 0 then none
    else
      let charsPerHop := r.div path.chars.length hopCount
      if charsPerHop < 2 ∨ charsPerHop > 6 ∨ remainder charsPerHop 2 ≠ 0 ∨
          r.mul charsPerHop hopCount ≠ path.chars.length then none
      else some (charsPerHop / 2 - 1)
  | _, _ => none

/-- The `charsPerHop` of `parsePathHops`. -/
def charsPerHop (length : Nat) (hopCount : Option ℚ) : ℚ :=
  match hopCount with
  | some hopCount =>
    if hopCount > 0 then
      let derived := r.div length hopCount
      if derived ≥ 2 ∧ remainder derived 2 = 0 ∧ r.mul derived hopCount = length then derived else 2
    else 2
  | none => 2

def parsePathHops (path : Option JsString) (hopCount : Option ℚ) : List (List Char) :=
  match path with
  | none => []
  | some path =>
    if path.chars = [] then []
    else
      let normalized := toUpperCase path.chars
      -- the width is whole, so the loop runs for as many whole widths as there are
      let width := (charsPerHop r normalized.length hopCount).floor.toNat
      (List.range (normalized.length / width)).map fun i => (normalized.drop (i * width)).take width

def hasRoutingOverride (contact : Contact) : Bool :=
  contact.routeOverride.isSome || contact.routeOverrideLen.isSome

def getRouteOverride (contact : Contact) : Option ContactRoute :=
  match contact.routeOverride with
  | some route => some route
  | none =>
    if hasRoutingOverride contact then
      let pathLen := contact.routeOverrideLen.getD (-1)
      let pathHashMode :=
        if pathLen = -1 then -1
        else
          match normalizePathHashMode contact.routeOverrideHashMode with
          | some mode => mode
          | none => (inferPathHashMode r contact.routeOverridePath pathLen).getD 0
      some ⟨contact.routeOverridePath.getD ⟨[], by decide⟩, pathLen, pathHashMode⟩
    else none

def formatRoutingOverrideInput (contact : Contact) : List Char :=
  match getRouteOverride r contact with
  | none => []
  | some routeOverride =>
    if routeOverride.pathLen = -1 then ['-', '1']
    else if routeOverride.pathLen = 0 then ['0']
    else
      [','].intercalate
        ((parsePathHops r (some routeOverride.path) (some routeOverride.pathLen)).map toLowerCase)

end Editor

/-- The contact carries the override, either as a route or in its flat fields. -/
def Stores (contact : Contact) (path : JsString) (hops mode : ℕ) : Prop :=
  contact.routeOverride = some ⟨path, hops, mode⟩ ∨
    contact.routeOverride = none ∧ contact.routeOverridePath = some path ∧
      contact.routeOverrideLen = some (hops : ℚ) ∧ contact.routeOverrideHashMode = some (mode : ℚ)

/-- Nothing but hexadecimal digits. -/
def IsHex (text : List Char) : Prop := ∀ c ∈ text, (hexValue c).isSome = true

/-- The hop width of the backend. -/
def wholeWidth (length count : ℕ) : ℕ :=
  if length / count < 2 ∨ length / count % 2 ≠ 0 ∨ length / count * count ≠ length then 2
  else length / count

theorem remainder_two {a : ℚ} (positive : 0 ≤ a) (zero : remainder a 2 = 0) :
    ∃ half : ℕ, a = ((2 * half : ℕ) : ℚ) := by
  have nonneg : (0 : ℚ) ≤ a / 2 := by positivity
  rw [remainder, if_pos nonneg, sub_eq_zero] at zero
  have floor : 0 ≤ (a / 2).floor := Rat.le_floor_iff.mpr (by simpa using nonneg)
  obtain ⟨half, eq⟩ := Int.eq_ofNat_of_zero_le floor
  refine ⟨half, zero.trans ?_⟩
  rw [eq]
  push_cast
  ring

theorem remainder_even (half : ℕ) : remainder ((2 * half : ℕ) : ℚ) 2 = 0 := by
  have quotient : ((2 * half : ℕ) : ℚ) / 2 = (half : ℤ) := by
    push_cast
    ring
  rw [remainder, if_pos (by positivity), quotient, Rat.floor_intCast]
  push_cast
  ring

/-- The two widths agree: the rounded quotient is whole only when the exact one is. -/
theorem charsPerHop_eq (r : Rounding) {length count : ℕ} (short : length < 2 ^ 53)
    (positive : 0 < count) : charsPerHop r length (some (count : ℚ)) = wholeWidth length count := by
  have counted : (count : ℚ) > 0 := by exact_mod_cast positive
  simp only [charsPerHop, if_pos counted, wholeWidth]
  by_cases whole : length / count < 2 ∨ length / count % 2 ≠ 0 ∨ length / count * count ≠ length
  · rw [if_pos whole, if_neg]
    · norm_num
    · rintro ⟨large, even, _⟩
      obtain ⟨half, derived⟩ := remainder_two (le_trans (by norm_num) large) even
      rw [derived] at large
      have least : 2 ≤ 2 * half := by exact_mod_cast large
      have exact := r.div_whole short positive (by omega) derived
      rw [← exact, Nat.mul_div_cancel _ positive] at whole
      omega
  · rw [if_neg whole]
    push Not at whole
    obtain ⟨large, even, exact⟩ := whole
    have small : length / count ≤ 2 ^ 53 := (Nat.div_le_self _ _).trans short.le
    have derived : r.div length count = (length / count : ℕ) := by
      nth_rewrite 1 [← exact]
      exact r.div_mul positive small
    rw [derived, if_pos]
    refine ⟨by exact_mod_cast large, ?_, ?_⟩
    · rw [show length / count = 2 * (length / count / 2) by omega]
      exact remainder_even _
    · rw [Rounding.mul, ← Nat.cast_mul, exact, r.whole _ short.le]

theorem wholeWidth_dvd {length count : ℕ} (even : Even length) : wholeWidth length count ∣ length := by
  unfold wholeWidth
  split
  · exact even.two_dvd
  · rename_i whole
    push Not at whole
    exact Dvd.intro _ whole.2.2

theorem wholeWidth_pos {length count : ℕ} : 0 < wholeWidth length count := by
  unfold wholeWidth
  split
  · decide
  · rename_i whole
    push Not at whole
    omega

/-- What a table says of the digits holds of each of them. -/
theorem hexValue_table (digit : (hexValue c).isSome = true) :
    c.toUpper.toLower = c.toLower ∧ (hexValue c.toLower).isSome = true ∧
      c.toLower.toLower = c.toLower ∧ c ≠ ',' ∧ isSpace c = false := by
  have table : ∀ n < 128, (hexValue (Char.ofNat n)).isSome = true →
      (Char.ofNat n).toUpper.toLower = (Char.ofNat n).toLower ∧
        (hexValue (Char.ofNat n).toLower).isSome = true ∧
        (Char.ofNat n).toLower.toLower = (Char.ofNat n).toLower ∧
        Char.ofNat n ≠ ',' ∧ isSpace (Char.ofNat n) = false := by
    decide
  have entry := table c.toNat (hexValue_ascii digit).1
  rw [Char.ofNat_toNat] at entry
  exact entry digit

theorem slices_map (f : Char → Char) (text : List Char) :
    (slices width text).map (List.map f) = slices width (text.map f) := by
  simp only [slices, List.map_map, List.length_map, Function.comp_def, List.map_take, List.map_drop]

theorem slices_range (positive : 0 < width) {text : List Char} (divides : width ∣ text.length) :
    (List.range (text.length / width)).map (fun i => (text.drop (i * width)).take width) =
      slices width text := by
  obtain ⟨count, eq⟩ := divides
  rw [slices, eq, Nat.mul_div_cancel_left _ positive, Nat.add_sub_assoc positive,
    Nat.mul_add_div positive, Nat.div_eq_of_lt (by omega), Nat.add_zero]

theorem flatten_range_slices (width count : Nat) (text : List Char) :
    ((List.range count).map fun i => (text.drop (i * width)).take width).flatten =
      text.take (count * width) := by
  induction count with
  | zero => simp
  | succ count ih =>
      rw [List.range_succ, List.map_append, List.flatten_append, ih, Nat.succ_mul]
      simp [List.take_add]

/-- The pieces of whole widths are the text. -/
theorem flatten_slices (positive : 0 < width) {text : List Char} (divides : width ∣ text.length) :
    (slices width text).flatten = text := by
  rw [← slices_range positive divides, flatten_range_slices, Nat.div_mul_cancel divides,
    List.take_length]

theorem length_slices (positive : 0 < width) {text : List Char} (length : text.length = count * width) :
    (slices width text).length = count := by
  rw [← slices_range positive ⟨count, length.trans (Nat.mul_comm _ _)⟩, List.length_map,
    List.length_range, length, Nat.mul_div_cancel _ positive]

theorem slices_uniform (positive : 0 < width) {text : List Char} (divides : width ∣ text.length) :
    ∀ piece ∈ slices width text, piece.length = width := by
  obtain ⟨count, length⟩ := divides
  rw [← slices_range positive ⟨count, length⟩]
  intro piece member
  obtain ⟨i, inside, rfl⟩ := List.mem_map.mp member
  rw [List.mem_range, length, Nat.mul_div_cancel_left _ positive] at inside
  have room : (i + 1) * width ≤ count * width := Nat.mul_le_mul_right _ inside
  rw [Nat.succ_mul] at room
  rw [List.length_take, List.length_drop, length, Nat.mul_comm width count]
  omega

section Hops
variable (r : Rounding) {path : JsString} {count : ℕ} (digits : IsHex path.chars)
include digits

theorem lower_upper_hex : toLowerCase (toUpperCase path.chars) = toLowerCase path.chars := by
  simp only [toLowerCase, toUpperCase, List.map_map]
  exact List.map_congr_left fun c member => (hexValue_table (digits c member)).1

omit digits in
theorem parsePathHops_slices (filled : path.chars ≠ []) (even : Even path.chars.length)
    (positive : 0 < count) :
    parsePathHops r (some path) (some (count : ℚ)) =
      slices (wholeWidth path.chars.length count) (toUpperCase path.chars) := by
  have length : (toUpperCase path.chars).length = path.chars.length := List.length_map _
  simp only [parsePathHops, if_neg filled]
  rw [length, charsPerHop_eq r path.short positive, show ((wholeWidth path.chars.length count : ℕ) : ℚ) =
    ((wholeWidth path.chars.length count : ℤ) : ℚ) by push_cast; rfl, Rat.floor_intCast,
    Int.toNat_natCast, ← length]
  exact slices_range wholeWidth_pos (length ▸ wholeWidth_dvd even)

omit digits in
theorem splitPathHex_slices (filled : path.chars ≠ []) (positive : 0 < count) :
    splitPathHex (toLowerCase path.chars) count =
      slices (wholeWidth path.chars.length count) (toLowerCase path.chars) := by
  have nonempty : toLowerCase path.chars ≠ [] := by
    simpa [toLowerCase] using filled
  have length : (toLowerCase path.chars).length = path.chars.length := List.length_map _
  rw [splitPathHex, if_neg (by simp only [not_or]; exact ⟨nonempty, by omega⟩)]
  simp only [length, Int.toNat_natCast, wholeWidth, ← Nat.cast_mul, ne_eq, Nat.cast_inj]
  split <;> rfl

/-- The frontend's hops are the backend's, and together they are the path. -/
theorem parsePathHops_agrees (even : Even path.chars.length) (positive : 0 < count) :
    (parsePathHops r (some path) (some (count : ℚ))).map toLowerCase =
        splitPathHex (toLowerCase path.chars) count ∧
      (parsePathHops r (some path) (some (count : ℚ))).flatten = toUpperCase path.chars := by
  by_cases filled : path.chars = []
  · simp [parsePathHops, splitPathHex, filled, toLowerCase, toUpperCase]
  · rw [parsePathHops_slices r filled even positive, splitPathHex_slices filled positive]
    constructor
    · exact (slices_map Char.toLower _).trans (congrArg _ (lower_upper_hex digits))
    · apply flatten_slices wholeWidth_pos
      rw [toUpperCase, List.length_map]
      exact wholeWidth_dvd even

end Hops

theorem fromHex_digits {text : List Char} (digits : IsHex text) (even : Even text.length) :
    ∃ bytes, fromHex text = some bytes := by
  fun_induction fromHex text with
  | case1 => exact ⟨[], rfl⟩
  | case2 c space => exact ⟨[], rfl⟩
  | case3 c plain => simp at even
  | case4 c d rest space ih =>
      have digit := digits c List.mem_cons_self
      rw [(hexValue_ascii digit).2.2] at space
      contradiction
  | case5 c d rest plain ih =>
      have tail : IsHex rest := fun e member =>
        digits e (List.mem_cons_of_mem _ (List.mem_cons_of_mem _ member))
      obtain ⟨bytes, decoded⟩ := ih tail (by simpa [Nat.even_add_one] using even)
      obtain ⟨top, high⟩ := Option.isSome_iff_exists.mp (digits c List.mem_cons_self)
      obtain ⟨bottom, low⟩ :=
        Option.isSome_iff_exists.mp (digits d (List.mem_cons_of_mem _ List.mem_cons_self))
      refine ⟨UInt8.ofNat (16 * top + bottom) :: bytes, ?_⟩
      simp only [high, low, decoded, Option.bind_eq_bind, Option.bind_some, Option.pure_def]

/-- The parts of joined hops are the hops. -/
theorem routeParts_intercalate {hops : List (List Char)} (nonempty : hops ≠ [])
    (filled : ∀ hop ∈ hops, hop ≠ []) (digits : ∀ hop ∈ hops, IsHex hop) :
    routeParts ([','].intercalate hops) = hops := by
  have split : ([','].intercalate hops).splitOn ',' = hops := by
    refine List.splitOn_intercalate ',' ?_ nonempty
    intro hop member comma
    exact (hexValue_table (digits hop member ',' comma)).2.2.2.1 rfl
  have stripped : hops.map strip = hops := by
    nth_rewrite 2 [← List.map_id hops]
    apply List.map_congr_left
    intro hop member
    have solid (c : Char) (typed : c ∈ hop) : isSpace c = false :=
      (hexValue_table (digits hop member c typed)).2.2.2.2
    exact strip_fixed (fun c first => solid c (List.mem_of_mem_head? first))
      fun c last => solid c (List.mem_of_mem_getLast? last)
  rw [routeParts, split, stripped, List.filter_eq_self]
  simpa using filled

theorem forM_checks {check : α → Except ε Unit} {items : List α}
    (checked : ∀ item ∈ items, check item = .ok ()) : items.forM check = .ok () := by
  induction items with
  | nil => rfl
  | cons item rest ih =>
      rw [List.forM_eq_forM, List.forM_cons, checked item List.mem_cons_self]
      exact ih fun other member => checked other (List.mem_cons_of_mem _ member)

/-- Joined lower-case hops of one width are parsed into their fields. -/
theorem parseExplicitHopRoute_intercalate (lower : LowerCase) (mode : ℕ) {hops : List (List Char)}
    (nonempty : hops ≠ []) (uniform : ∀ hop ∈ hops, hop.length = 2 * (mode + 1)) (small : mode ≤ 2)
    (short : hops.length * (mode + 1) ≤ maxPathSize) (digits : ∀ hop ∈ hops, IsHex hop)
    (lowered : ∀ hop ∈ hops, toLowerCase hop = hop) :
    parseExplicitHopRoute lower ([','].intercalate hops) = .ok (hops.flatten, hops.length, mode) := by
  have filled : ∀ hop ∈ hops, hop ≠ [] := by
    intro hop member empty
    have length := uniform hop member
    rw [empty, List.length_nil] at length
    omega
  have kept : hops.map lower.apply = hops := by
    nth_rewrite 2 [← List.map_id hops]
    apply List.map_congr_left
    intro hop member
    rw [lower.ascii hop fun c typed => (hexValue_ascii (digits hop member c typed)).1]
    exact lowered hop member
  have checked : hops.forM (checkHop (2 * (mode + 1))) = .ok () := by
    apply forM_checks
    intro hop member
    have length := uniform hop member
    obtain ⟨bytes, decoded⟩ := fromHex_digits (digits hop member) (by rw [length]; exact even_two_mul _)
    simp only [checkHop, length, ne_eq, not_true, if_false, decoded]
  simp only [parseExplicitHopRoute, routeParts_intercalate nonempty filled digits, kept]
  cases hops with
  | nil => contradiction
  | cons first rest =>
      have width := uniform first List.mem_cons_self
      have known : first.length ∈ [2, 4, 6] := by
        simp only [width, List.mem_cons, List.not_mem_nil, or_false]
        omega
      have size : first.length / 2 = mode + 1 := by omega
      rw [← width] at checked
      simp only [if_neg (not_not.mpr known), checked, size, pathWireLen, if_neg (Nat.not_lt.mpr short),
        bind, Except.bind, pure, Except.pure, Nat.add_sub_cancel]

theorem getRouteOverride_stores (r : Rounding) (stores : Stores contact path hops mode) (small : mode ≤ 2) :
    getRouteOverride r contact = some ⟨path, hops, mode⟩ := by
  obtain route | ⟨none, flat, length, hash⟩ := stores
  · simp only [getRouteOverride, route]
  · have counted : (hops : ℚ) ≠ -1 := by
      have : (0 : ℚ) ≤ hops := by positivity
      linarith
    have known : normalizePathHashMode (some (mode : ℚ)) = some (mode : ℚ) := by
      have bound : (mode : ℚ) ≤ 2 := by exact_mod_cast small
      simp [normalizePathHashMode, bound, Rat.isInt]
    simp only [getRouteOverride, none, hasRoutingOverride, length, flat, hash, Option.isSome_some,
      Option.isSome_none, Bool.or_true, if_true, Option.getD_some, if_neg counted, known]

/-- The hops of a stored override in the editor. -/
theorem formatRoutingOverrideInput_stores (r : Rounding) (stores : Stores contact path hops mode)
    (small : mode ≤ 2) (positive : 0 < hops) :
    formatRoutingOverrideInput r contact =
      [','].intercalate ((parsePathHops r (some path) (some (hops : ℚ))).map toLowerCase) := by
  have counted : (0 : ℚ) < hops := by exact_mod_cast positive
  simp only [formatRoutingOverrideInput, getRouteOverride_stores r stores small,
    if_neg (show ¬ (hops : ℚ) = -1 by linarith), if_neg counted.ne']

theorem isHex_lower {text : List Char} (digits : IsHex text) : IsHex (toLowerCase text) := by
  intro c member
  obtain ⟨d, typed, rfl⟩ := List.mem_map.mp member
  exact (hexValue_table (digits d typed)).2.1

theorem lower_lowerCase {text : List Char} (digits : IsHex text) :
    toLowerCase (toLowerCase text) = toLowerCase text := by
  simp only [toLowerCase, List.map_map]
  exact List.map_congr_left fun c member => (hexValue_table (digits c member)).2.2.1

/-- The editor's text of a stored override is parsed into the override, in lower case. -/
theorem parse_format (r : Rounding) (lower : LowerCase) {path : JsString} {hops mode : ℕ}
    (digits : IsHex path.chars) (positive : 0 < hops) (small : mode ≤ 2)
    (length : path.chars.length = 2 * hops * (mode + 1)) (short : path.chars.length ≤ 128)
    (stores : Stores contact path hops mode) :
    parseExplicitHopRoute lower (formatRoutingOverrideInput r contact) =
      .ok (toLowerCase path.chars, hops, mode) := by
  have even : Even path.chars.length := by
    rw [length, mul_assoc]
    exact even_two_mul _
  have width : path.chars.length / hops = 2 * (mode + 1) := by
    rw [length, show 2 * hops * (mode + 1) = hops * (2 * (mode + 1)) by ring,
      Nat.mul_div_cancel_left _ positive]
  have lowered : (toLowerCase path.chars).length = hops * (2 * (mode + 1)) := by
    rw [toLowerCase, List.length_map, length]
    ring
  have filled : path.chars ≠ [] := by
    apply List.length_pos_iff.mp
    rw [length]
    positivity
  have pieces : (parsePathHops r (some path) (some (hops : ℚ))).map toLowerCase =
      slices (2 * (mode + 1)) (toLowerCase path.chars) := by
    rw [(parsePathHops_agrees r digits even positive).1, splitPathHex_slices filled positive,
      wholeWidth, width, if_neg]
    rw [length]
    push Not
    exact ⟨by omega, by omega, by ring⟩
  have wide : 0 < 2 * (mode + 1) := by omega
  have divides : 2 * (mode + 1) ∣ (toLowerCase path.chars).length := Dvd.intro_left _ lowered.symm
  have joined := flatten_slices wide divides
  have count := length_slices wide lowered
  have member_digits : ∀ hop ∈ slices (2 * (mode + 1)) (toLowerCase path.chars),
      ∃ part, hop = toLowerCase part ∧ IsHex part := by
    rw [toLowerCase, ← slices_map]
    intro hop member
    obtain ⟨part, inside, rfl⟩ := List.mem_map.mp member
    refine ⟨part, rfl, fun c typed => digits c ?_⟩
    obtain ⟨i, _, rfl⟩ := List.mem_map.mp inside
    exact List.mem_of_mem_drop (List.mem_of_mem_take typed)
  rw [formatRoutingOverrideInput_stores r stores small positive, pieces,
    parseExplicitHopRoute_intercalate lower mode, joined, count]
  · apply List.length_pos_iff.mp
    rw [count]
    exact positive
  · exact slices_uniform wide divides
  · exact small
  · rw [count, maxPathSize]
    rw [length, mul_assoc] at short
    omega
  · intro hop member
    obtain ⟨part, rfl, hex⟩ := member_digits hop member
    exact isHex_lower hex
  · intro hop member
    obtain ⟨part, rfl, hex⟩ := member_digits hop member
    exact lower_lowerCase hex

/-- Both sides split a path into the same hops, up to letter case, and what the editor
shows of a stored override is parsed into the override again, in lower case. -/
theorem route_editor_agrees (r : Rounding) (lower : LowerCase) (path : JsString)
    (digits : IsHex path.chars) {n : ℕ} (positive : 1 ≤ n) :
    (Even path.chars.length →
      (parsePathHops r (some path) (some (n : ℚ))).map toLowerCase =
          splitPathHex (toLowerCase path.chars) n ∧
        (parsePathHops r (some path) (some (n : ℚ))).flatten = toUpperCase path.chars) ∧
    ∀ mode ≤ 2, n ≤ 63 → path.chars.length = 2 * n * (mode + 1) → path.chars.length ≤ 128 →
      normalizeRouteOverride (some path.chars) (some (n : Int)) (some (mode : Int)) =
          (some path.chars, some (n : Int), some (mode : Int)) ∧
        ∀ contact, Stores contact path n mode →
          parseExplicitHopRoute lower (formatRoutingOverrideInput r contact) =
            .ok (toLowerCase path.chars, n, mode) := by
  refine ⟨fun even => parsePathHops_agrees r digits even positive, ?_⟩
  intro mode small few length short
  constructor
  · have fixed := normalizeRouteOverride_fixed n (mode + 1) (Nat.succ_pos _) (by omega) few
      (length.trans (by ring))
    rwa [Nat.add_sub_cancel] at fixed
  · intro contact stores
    exact parse_format r lower digits positive small length short stores

/-- An override of two hops of two bytes. -/
def sampleRoute : ContactRoute := ⟨⟨['a', 'e', '9', '2', 'f', '1', '3', 'e'], by decide⟩, 2, 1⟩

theorem sample_route_parsed :
    parseExplicitHopRoute .asciiOnly (formatRoutingOverrideInput .exact
      ⟨some sampleRoute, none, none, none⟩) = .ok (sampleRoute.path.chars, 2, 1) := by
  have digits : IsHex sampleRoute.path.chars := by
    simp only [IsHex, sampleRoute, List.forall_mem_cons, List.not_mem_nil, false_implies, implies_true]
    decide
  have agrees := (route_editor_agrees .exact .asciiOnly sampleRoute.path digits
    (n := 2) (by decide)).2 1 (by decide) (by decide) (by decide) (by decide)
  exact agrees.2 _ (.inl (by simp [sampleRoute]))

/-- The frontend shows hops in upper case, and an override that was stored in upper case
comes out of the editor in lower case. -/
theorem route_letters_change :
    (parsePathHops .exact (some ⟨['a', 'b'], by decide⟩) (some 1)).flatten ≠ ['a', 'b'] ∧
      parseExplicitHopRoute .asciiOnly (formatRoutingOverrideInput .exact
        ⟨some ⟨⟨['A', 'B'], by decide⟩, 1, 0⟩, none, none, none⟩) ≠ .ok (['A', 'B'], 1, 0) := by
  decide +kernel

end Meshloom.Frontend
