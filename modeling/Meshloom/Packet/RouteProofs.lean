import Meshloom.Packet.Route

/-! The explicit route of a user through parsing, storage and splitting. -/
namespace Meshloom.Packet
open Bytes Text
variable {lower : LowerCase}

theorem length_flatten_uniform {hops : List (List Char)}
    (uniform : ∀ hop ∈ hops, hop.length = width) : hops.flatten.length = hops.length * width := by
  rw [List.length_flatten, List.map_congr_left uniform, List.map_const', List.sum_replicate,
    smul_eq_mul]

theorem slice_flatten {hops : List (List Char)} (uniform : ∀ hop ∈ hops, hop.length = width)
    (i : Nat) (inside : i < hops.length) :
    (hops.flatten.drop (i * width)).take width = hops[i] := by
  induction hops generalizing i with
  | nil => contradiction
  | cons hop rest ih =>
      have head := uniform hop List.mem_cons_self
      cases i with
      | zero => simp [← head]
      | succ i =>
          have tail := ih (fun other member => uniform other (List.mem_cons_of_mem _ member)) i
            (Nat.lt_of_succ_lt_succ inside)
          have skip : (i + 1) * width = hop.length + i * width := by
            rw [head, Nat.succ_mul, Nat.add_comm]
          rw [List.flatten_cons, skip, ← List.drop_drop, List.drop_left, tail]
          rfl

theorem slices_flatten (positive : 0 < width) {hops : List (List Char)}
    (uniform : ∀ hop ∈ hops, hop.length = width) : slices width hops.flatten = hops := by
  have count : (hops.flatten.length + width - 1) / width = hops.length := by
    rw [length_flatten_uniform uniform, Nat.add_sub_assoc positive, Nat.mul_comm,
      Nat.mul_add_div positive, Nat.div_eq_of_lt (by omega), Nat.add_zero]
  rw [slices, count]
  apply List.ext_getElem
  · simp
  · intro i _ inside
    rw [List.getElem_map, List.getElem_range]
    exact slice_flatten uniform i inside

/-- Hops of one even width are found again in the joined text. -/
theorem splitPathHex_flatten {hops : List (List Char)} (nonempty : hops ≠ []) (positive : 0 < size)
    (uniform : ∀ hop ∈ hops, hop.length = 2 * size) :
    splitPathHex hops.flatten hops.length = hops := by
  have total := length_flatten_uniform uniform
  have some : 0 < hops.length := List.length_pos_iff.mpr nonempty
  have filled : hops.flatten ≠ [] := by
    apply List.length_pos_iff.mp
    rw [total]
    positivity
  have charsPerHop : hops.flatten.length / (hops.length : Int).toNat = 2 * size := by
    rw [total, Int.toNat_natCast, Nat.mul_div_cancel_left _ some]
  rw [splitPathHex, if_neg (by simp only [not_or]; exact ⟨filled, by omega⟩), charsPerHop, if_neg,
    slices_flatten (by omega) uniform]
  rw [total]
  push Not
  refine ⟨by omega, by omega, ?_⟩
  push_cast
  ring

theorem checkHop_ok (checked : checkHop width hop = .ok ()) :
    hop.length = width ∧ ∃ bytes, fromHex hop = some bytes := by
  unfold checkHop at checked
  split at checked
  · contradiction
  · rename_i same
    split at checked
    · contradiction
    · rename_i bytes decoded
      exact ⟨not_not.mp same, bytes, decoded⟩

theorem forM_ok {check : α → Except ε Unit} {items : List α} (checked : items.forM check = .ok ()) :
    ∀ item ∈ items, check item = .ok () := by
  induction items with
  | nil => simp
  | cons item rest ih =>
      rw [List.forM_eq_forM, List.forM_cons] at checked
      cases first : check item with
      | error e => simp [first, bind, Except.bind] at checked
      | ok _ =>
          intro other member
          rcases List.mem_cons.mp member with rfl | member
          · exact first
          · simp only [first, bind, Except.bind] at checked
            exact ih checked other member

/-- What an accepted route text is made of. -/
structure Accepted (hops : List (List Char)) (size : Nat) : Prop where
  nonempty : hops ≠ []
  positive : 0 < size
  small : size ≤ 3
  uniform : ∀ hop ∈ hops, hop.length = 2 * size
  decoded : ∀ hop ∈ hops, ∃ bytes, fromHex hop = some bytes
  short : hops.length * size ≤ maxPathSize

theorem parseExplicitHopRoute_ok (parsed : parseExplicitHopRoute lower routeText = .ok route) :
    ∃ size, Accepted ((routeParts routeText).map lower.apply) size ∧
      route = (((routeParts routeText).map lower.apply).flatten, (routeParts routeText).length,
        size - 1) := by
  have count : ((routeParts routeText).map lower.apply).length = (routeParts routeText).length :=
    List.length_map _
  rw [← count]
  simp only [parseExplicitHopRoute] at parsed
  generalize (routeParts routeText).map lower.apply = hops at parsed ⊢
  cases hops with
  | nil => contradiction
  | cons first rest =>
      simp only [bind, Except.bind, pure, Except.pure] at parsed
      split at parsed
      · contradiction
      rename_i width
      simp only [not_not] at width
      split at parsed
      · contradiction
      rename_i checked
      split at parsed
      · contradiction
      rename_i short
      cases parsed
      have even : first.length = 2 * (first.length / 2) := by
        simp only [List.mem_cons, List.not_mem_nil, or_false] at width
        omega
      have hop := forM_ok checked
      refine ⟨first.length / 2, ⟨List.cons_ne_nil _ _, ?_, ?_, ?_, ?_, ?_⟩, rfl⟩
      · simp only [List.mem_cons, List.not_mem_nil, or_false] at width
        omega
      · simp only [List.mem_cons, List.not_mem_nil, or_false] at width
        omega
      · intro other member
        rw [← even]
        exact (checkHop_ok (hop other member)).1
      · intro other member
        exact (checkHop_ok (hop other member)).2
      · exact Nat.not_lt.mp short

/-- Lower-casing changes no space and brings in none on the way to valid
hexadecimal text, because such text is ASCII. -/
theorem space_lower (decoded : fromHex (lower.apply part) = some bytes) :
    (∃ c ∈ part, isAsciiSpace c = true) ↔ ∃ c ∈ lower.apply part, isAsciiSpace c = true := by
  have ascii : ∀ c ∈ part, c.toNat < 128 := by
    intro c member
    by_contra high
    obtain ⟨other, found, foreign⟩ := lower.foreign part ⟨c, member, Nat.not_lt.mp high⟩
    have valid : other.toNat < 128 ∧ other ≠ 'k' := by
      rcases fromHex_chars decoded other found with space | digit
      · exact isAsciiSpace_ascii space
      · exact ⟨(hexValue_ascii digit).1, (hexValue_ascii digit).2.1⟩
    rcases foreign with large | kelvin
    · omega
    · exact valid.2 kelvin
  rw [lower.ascii part ascii]
  constructor
  · rintro ⟨c, member, space⟩
    exact ⟨c.toLower, List.mem_map.mpr ⟨c, member, rfl⟩,
      (isAsciiSpace_toLower (ascii c member)).trans space⟩
  · rintro ⟨_, member, space⟩
    obtain ⟨c, typed, rfl⟩ := List.mem_map.mp member
    exact ⟨c, typed, (isAsciiSpace_toLower (ascii c typed)).symm.trans space⟩

/-- The stored form of a route, read back. -/
def storedOverride (route : List Char × Nat × Nat) : Option (List Char) × Option Int × Option Int :=
  let stored := normalizeRouteOverride (some route.1) (some route.2.1) (some route.2.2)
  normalizeRouteOverride stored.1 stored.2.1 stored.2.2

/-- A route text comes back as it was typed: the path is hexadecimal and of the
length its fields call for, splits into the hops of the text, and survives storage. -/
def RoundTrips (lower : LowerCase) (routeText : List Char) (route : List Char × Nat × Nat) : Prop :=
  (∀ c ∈ route.1, (hexValue c).isSome) ∧ route.1.length = 2 * route.2.1 * (route.2.2 + 1) ∧
  splitPathHex route.1 route.2.1 = (routeParts routeText).map lower.apply ∧
  storedOverride route = (some route.1, some (route.2.1 : Int), some (route.2.2 : Int))

theorem normalizeRouteOverride_fixed (hops size : Nat) {path : List Char} (positive : 0 < size)
    (small : size ≤ 3) (few : hops ≤ 63) (length : path.length = hops * (2 * size)) :
    normalizeRouteOverride (some path) (some (hops : Int)) (some ((size - 1 : Nat) : Int)) =
      (some path, some (hops : Int), some ((size - 1 : Nat) : Int)) := by
  have mode : ∃ mode : Nat, mode ≤ 2 ∧ size = mode + 1 := ⟨size - 1, by omega, by omega⟩
  obtain ⟨mode, le, rfl⟩ := mode
  have kept : fitRoute path hops (some (mode : Int)) = (path, (hops : Int), (mode : Int)) := by
    have actual : (path.length : Int) / 2 = hops * (mode + 1) := by
      rw [length]
      push_cast
      rw [mul_left_comm, Int.mul_ediv_cancel_left _ (by decide)]
    have known : knownMode (some (mode : Int)) = mode := by
      rw [knownMode, if_pos]
      simp only [List.mem_cons, List.not_mem_nil, or_false]
      omega
    simp only [fitRoute, known, if_neg (show ¬ (hops : Int) = -1 by omega)]
    split
    · rfl
    · rw [actual, if_neg (by omega), if_neg (by omega)]
  simp only [normalizeRouteOverride, normalizeContactRoute, Option.getD_some,
    if_neg (show ¬ ((hops : Int) < -1 ∨ (hops : Int) > 63) by omega), Nat.add_sub_cancel, kept]

theorem storedOverride_overflow {path : List Char} (length : path.length = 128) :
    storedOverride (path, 64, 0) = (some [], some 0, some 1) := by
  have filled : path ≠ [] := by
    rintro rfl
    contradiction
  simp [storedOverride, normalizeRouteOverride, normalizeContactRoute, fitRoute, knownMode, filled,
    length]

/-- Decoded hops are hexadecimal exactly when no part had a space inside it. -/
theorem hops_digits_iff {parts : List (List Char)}
    (decoded : ∀ hop ∈ parts.map lower.apply, ∃ bytes, fromHex hop = some bytes) :
    (∀ c ∈ (parts.map lower.apply).flatten, (hexValue c).isSome = true) ↔
      ∀ part ∈ parts, ∀ c ∈ part, isAsciiSpace c = false := by
  constructor
  · intro digits part member c typed
    by_contra space
    have hop : lower.apply part ∈ parts.map lower.apply := List.mem_map.mpr ⟨part, member, rfl⟩
    obtain ⟨bytes, valid⟩ := decoded _ hop
    obtain ⟨d, found, spaced⟩ := (space_lower valid).mp ⟨c, typed, by simpa using space⟩
    have digit := digits d (List.mem_flatten.mpr ⟨_, hop, found⟩)
    rw [(hexValue_ascii digit).2.2] at spaced
    contradiction
  · intro spaceless c member
    obtain ⟨hop, listed, found⟩ := List.mem_flatten.mp member
    obtain ⟨bytes, valid⟩ := decoded hop listed
    obtain ⟨part, member, rfl⟩ := List.mem_map.mp listed
    rcases fromHex_chars valid c found with space | digit
    · obtain ⟨d, typed, spaced⟩ := (space_lower valid).mpr ⟨c, found, space⟩
      rw [spaceless part member d typed] at spaced
      contradiction
    · exact digit

/-- Storage keeps a route of up to 63 hops; a 64th hop turns the hop count into
a packed byte. -/
theorem storedOverride_fixed_iff (positive : 0 < size) (small : size ≤ 3)
    (short : hops * size ≤ maxPathSize) {path : List Char}
    (length : path.length = hops * (2 * size)) :
    storedOverride (path, hops, size - 1) =
      (some path, some (hops : Int), some ((size - 1 : Nat) : Int)) ↔ hops ≤ 63 := by
  constructor
  · intro kept
    by_contra many
    have bound : hops ≤ 64 := by
      have le := Nat.le_mul_of_pos_right hops positive
      simp only [maxPathSize] at short
      omega
    obtain rfl : hops = 64 := by omega
    simp only [maxPathSize] at short
    obtain rfl : size = 1 := by omega
    rw [storedOverride_overflow length] at kept
    simp at kept
  · intro few
    have fixed := normalizeRouteOverride_fixed hops size positive small few length
    simp only [storedOverride, fixed]

/-- An accepted route comes back as it was typed unless it has 64 hops or white
space between the bytes of a hop. -/
theorem explicit_route_roundTrips (parsed : parseExplicitHopRoute lower routeText = .ok route) :
    RoundTrips lower routeText route ↔
      (routeParts routeText).length ≤ 63 ∧
        ∀ part ∈ routeParts routeText, ∀ c ∈ part, isAsciiSpace c = false := by
  obtain ⟨size, accepted, rfl⟩ := parseExplicitHopRoute_ok parsed
  obtain ⟨nonempty, positive, small, uniform, decoded, short⟩ := accepted
  have total := length_flatten_uniform uniform
  have split := splitPathHex_flatten nonempty positive uniform
  rw [List.length_map] at total short split
  have stored := storedOverride_fixed_iff positive small short total
  have digits := hops_digits_iff decoded
  constructor
  · rintro ⟨hex, _, _, kept⟩
    exact ⟨stored.mp kept, digits.mp hex⟩
  · rintro ⟨few, spaceless⟩
    refine ⟨digits.mpr spaceless, ?_, split, stored.mpr few⟩
    rw [total, show size - 1 + 1 = size by omega]
    ring

theorem typed_route_roundTrips :
    parseExplicitHopRoute .asciiOnly " AE92, f13e".toList = .ok ("ae92f13e".toList, 2, 1) ∧
      RoundTrips .asciiOnly " AE92, f13e".toList ("ae92f13e".toList, 2, 1) := by
  have parsed : parseExplicitHopRoute .asciiOnly " AE92, f13e".toList =
      .ok ("ae92f13e".toList, 2, 1) := by decide +kernel
  have parts : routeParts " AE92, f13e".toList = [['A', 'E', '9', '2'], ['f', '1', '3', 'e']] := by
    decide +kernel
  refine ⟨parsed, (explicit_route_roundTrips parsed).mpr ?_⟩
  rw [parts]
  simp [isAsciiSpace]

/-- A route of 64 one-byte hops is accepted and stored as an empty route, and
white space inside a hop is accepted and stored. -/
theorem route_not_roundTrips :
    (∃ route, parseExplicitHopRoute .asciiOnly (List.replicate 64 "ab,".toList).flatten = .ok route ∧
      ¬ RoundTrips .asciiOnly (List.replicate 64 "ab,".toList).flatten route) ∧
    ∃ route, parseExplicitHopRoute .asciiOnly "aa  bb".toList = .ok route ∧
      ¬ RoundTrips .asciiOnly "aa  bb".toList route := by
  constructor
  · refine ⟨((List.replicate 64 "ab".toList).flatten, 64, 0), by decide +kernel, ?_⟩
    rintro ⟨_, _, _, kept⟩
    rw [storedOverride_overflow (by simp)] at kept
    exact absurd (congrArg (fun stored => stored.2.1) kept) (by decide)
  · refine ⟨("aa  bb".toList, 1, 2), by decide +kernel, ?_⟩
    rintro ⟨digits, _⟩
    exact absurd (digits ' ' (by simp)) (by decide)

end Meshloom.Packet
