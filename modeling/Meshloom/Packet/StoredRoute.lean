import Meshloom.Packet.Route

/-! Stored route fields are repaired when they are written and again when they
are read: what the repair returns, and that the second one changes nothing. -/
namespace Meshloom.Packet

/-- The fields of a route that a contact may have: a flood route, or at most 63
hops of one, two or three bytes. -/
structure LegalRoute (route : List Char × Int × Int) : Prop where
  least : -1 ≤ route.2.1
  most : route.2.1 ≤ 63
  mode : route.2.2 ∈ [-1, 0, 1, 2]
  flood : route.2.2 = -1 ↔ route.2.1 = -1

def renormalized (route : List Char × Int × Int) : List Char × Int × Int :=
  normalizeContactRoute (some route.1) (some route.2.1) (some route.2.2)

/-- One repair gives a legal route, and a further repair leaves it as it is. -/
def RouteNormal (pathHex : Option (List Char)) (pathLen pathHashMode : Option Int) : Prop :=
  let route := normalizeContactRoute pathHex pathLen pathHashMode
  LegalRoute route ∧ renormalized route = route

/-- A packed byte of the reserved mode 3, signed or not, in the place of a hop count. -/
def ReservedLen (pathLen : Int) : Prop :=
  (pathLen < -1 ∨ pathLen > 63) ∧ 192 ≤ pathLen % 256 ∧ pathLen % 256 ≠ 255

instance reservedLenDecidable (pathLen : Int) : Decidable (ReservedLen pathLen) :=
  inferInstanceAs (Decidable (_ ∧ _ ∧ _))

/-- The path is a whole number of hops, at most 63 of them, and shorter than announced. -/
structure Recounted (path : List Char) (pathLen mode : Int) : Prop where
  unsigned : 63 < pathLen
  filled : path ≠ []
  whole : (path.length / 2 : Int) % (mode + 1) = 0
  few : (path.length / 2 : Int) / (mode + 1) ≤ 63

/-- The path is neither longer than announced nor a shorter whole number of hops. -/
structure Fits (path : List Char) (pathLen mode : Int) : Prop where
  within : (path.length / 2 : Int) ≤ pathLen * (mode + 1)
  uneven : (path.length / 2 : Int) < pathLen * (mode + 1) → (path.length / 2 : Int) % (mode + 1) ≠ 0

/-- A route on which a repair has nothing to do. -/
inductive Fitted : List Char × Int × Int → Prop
  | flood : Fitted ([], -1, -1)
  | routed (least : 0 ≤ len) (most : len ≤ 63) (known : mode ∈ [0, 1, 2])
      (fits : path ≠ [] → Fits path len mode) : Fitted (path, len, mode)

theorem knownMode_mem (mode : Option Int) : knownMode mode ∈ [0, 1, 2] := by
  unfold knownMode
  split
  · split
    · assumption
    · decide
  · decide

theorem knownMode_bounds (mode : Option Int) : 0 ≤ knownMode mode ∧ knownMode mode ≤ 2 := by
  have known := knownMode_mem mode
  simp only [List.mem_cons, List.not_mem_nil, or_false] at known
  omega

theorem knownMode_of_mem {mode : Int} (known : mode ∈ [0, 1, 2]) : knownMode (some mode) = mode :=
  if_pos known

theorem Fitted.legal {route : List Char × Int × Int} (fitted : Fitted route) :
    LegalRoute route := by
  cases fitted with
  | flood => exact ⟨by decide, by decide, by decide, by decide⟩
  | routed least most known fits =>
      refine ⟨by dsimp only; omega, most, List.mem_cons_of_mem _ known, ?_⟩
      simp only [List.mem_cons, List.not_mem_nil, or_false] at known
      dsimp only
      omega

/-- A count within bounds goes to `fitRoute` as it is. -/
theorem normalizeContactRoute_count {pathLen : Option Int} (least : -1 ≤ pathLen.getD (-1))
    (most : pathLen.getD (-1) ≤ 63) (pathHex : Option (List Char)) (mode : Option Int) :
    normalizeContactRoute pathHex pathLen mode =
      fitRoute (pathHex.getD []) (pathLen.getD (-1)) mode := by
  simp only [normalizeContactRoute]
  rw [if_neg (by omega)]

theorem fitRoute_fits {mode : Option Int} (routed : len ≠ -1)
    (fits : path ≠ [] → Fits path len (knownMode mode)) :
    fitRoute path len mode = (path, len, knownMode mode) := by
  simp only [fitRoute, if_neg routed]
  split
  · rfl
  · rename_i filled
    obtain ⟨within, uneven⟩ := fits filled
    rw [if_neg (by omega), if_neg]
    rintro ⟨short, _, whole⟩
    exact uneven short whole

theorem renormalized_fitted {route : List Char × Int × Int} (fitted : Fitted route) :
    renormalized route = route := by
  cases fitted with
  | flood => rfl
  | @routed len mode path least most known fits =>
      have kept : fitRoute path len (some mode) = (path, len, knownMode (some mode)) :=
        fitRoute_fits (by omega) ((knownMode_of_mem known).symm ▸ fits)
      rw [knownMode_of_mem known] at kept
      have counted : -1 ≤ (some len).getD (-1) := by
        rw [Option.getD_some]
        omega
      exact (normalizeContactRoute_count counted most (some path) (some mode)).trans kept

/-- The path cut to the announced number of bytes. -/
theorem fits_take {path : List Char} {len mode : Int} (least : 0 ≤ len * (mode + 1))
    (long : len * (mode + 1) < (path.length / 2 : Int)) :
    Fits (path.take (len * (mode + 1) * 2).toNat) len mode := by
  have cut : ((path.take (len * (mode + 1) * 2).toNat).length / 2 : Int) = len * (mode + 1) := by
    rw [List.length_take]
    omega
  exact ⟨by omega, by omega⟩

/-- A path of whole hops counted again. -/
theorem fits_recounted {path : List Char} {mode : Int}
    (whole : (path.length / 2 : Int) % (mode + 1) = 0) :
    Fits path ((path.length / 2 : Int) / (mode + 1)) mode := by
  have counted := Int.ediv_mul_cancel (Int.dvd_of_emod_eq_zero whole)
  exact ⟨by omega, by omega⟩

/-- What `fitRoute` does to a path: it is cut, its hops are counted again, or it stays. -/
theorem fitRoute_cases (mode : Option Int) (routed : len ≠ -1) (filled : path ≠ []) :
    (0 ≤ len * (knownMode mode + 1) ∧ len * (knownMode mode + 1) < (path.length / 2 : Int) ∧
      fitRoute path len mode =
        (path.take (len * (knownMode mode + 1) * 2).toNat, len, knownMode mode)) ∨
    ((path.length / 2 : Int) < len * (knownMode mode + 1) ∧
      (path.length / 2 : Int) % (knownMode mode + 1) = 0 ∧ fitRoute path len mode =
        (path, (path.length / 2 : Int) / (knownMode mode + 1), knownMode mode)) ∨
    ((0 ≤ len * (knownMode mode + 1) → Fits path len (knownMode mode)) ∧
      ((path.length / 2 : Int) < len * (knownMode mode + 1) →
        (path.length / 2 : Int) % (knownMode mode + 1) ≠ 0) ∧
      fitRoute path len mode = (path, len, knownMode mode)) := by
  have bounds := knownMode_bounds mode
  simp only [fitRoute, if_neg routed, if_neg filled]
  split
  · rename_i long
    exact .inl ⟨long.2, long.1, rfl⟩
  · rename_i long
    split
    · rename_i short
      exact .inr (.inl ⟨short.1, short.2.2, rfl⟩)
    · rename_i kept
      have uneven : (path.length / 2 : Int) < len * (knownMode mode + 1) →
          (path.length / 2 : Int) % (knownMode mode + 1) ≠ 0 :=
        fun short whole => kept ⟨short, by omega, whole⟩
      exact .inr (.inr ⟨fun least => ⟨by omega, uneven⟩, uneven, rfl⟩)

/-- Hops counted from a path that is shorter than announced. -/
theorem recount_lt {mode : Option Int} {path : List Char} {len : Int}
    (short : (path.length / 2 : Int) < len * (knownMode mode + 1)) :
    (path.length / 2 : Int) / (knownMode mode + 1) < len :=
  Int.ediv_lt_of_lt_mul (by have bounds := knownMode_bounds mode; omega) short

theorem recount_nonneg (mode : Option Int) (path : List Char) :
    0 ≤ (path.length / 2 : Int) / (knownMode mode + 1) :=
  Int.ediv_nonneg (by omega) (by have bounds := knownMode_bounds mode; omega)

theorem fitRoute_fitted {len : Int} (least : -1 ≤ len) (most : len ≤ 63) (path : List Char)
    (mode : Option Int) : Fitted (fitRoute path len mode) := by
  by_cases flood : len = -1
  · subst flood
    exact .flood
  by_cases filled : path = []
  · rw [fitRoute_fits flood fun nonempty => absurd filled nonempty]
    exact .routed (by omega) most (knownMode_mem mode) fun nonempty => absurd filled nonempty
  have bounds := knownMode_bounds mode
  have expected : 0 ≤ len * (knownMode mode + 1) := Int.mul_nonneg (by omega) (by omega)
  rcases fitRoute_cases mode flood filled with
    ⟨least, long, cut⟩ | ⟨short, whole, counted⟩ | ⟨fits, _, kept⟩
  · rw [cut]
    exact .routed (by omega) most (knownMode_mem mode) fun _ => fits_take least long
  · have fewer := recount_lt short
    rw [counted]
    exact .routed (recount_nonneg mode path) (by omega) (knownMode_mem mode) fun _ =>
      fits_recounted whole
  · rw [kept]
    exact .routed (by omega) most (knownMode_mem mode) fun _ => fits expected

/-- A reserved packed byte stays the hop count unless the path gives another one. -/
theorem fitRoute_reserved {len : Int} (reserved : ReservedLen len) (path : List Char)
    (mode : Option Int) :
    Recounted path len (knownMode mode) ∧ Fitted (fitRoute path len mode) ∨
      ¬ Recounted path len (knownMode mode) ∧ ¬ LegalRoute (fitRoute path len mode) := by
  have routed : len ≠ -1 := by
    have outside := reserved.1
    omega
  have illegal : ∀ path mode, ¬ LegalRoute (path, len, mode) := by
    rintro path mode ⟨least, most, _, _⟩
    have outside := reserved.1
    dsimp only at least most
    omega
  by_cases filled : path = []
  · rw [fitRoute_fits routed fun nonempty => absurd filled nonempty]
    exact .inr ⟨fun recounted => recounted.filled filled, illegal _ _⟩
  have bounds := knownMode_bounds mode
  have size : 0 < knownMode mode + 1 := by omega
  -- recounted hops are fewer than a count above 63 announces
  have short : Recounted path len (knownMode mode) →
      (path.length / 2 : Int) < len * (knownMode mode + 1) := fun recounted => by
    have few := recounted.few
    have large := recounted.unsigned
    exact (Int.ediv_lt_iff_lt_mul size).mp (by omega)
  rcases fitRoute_cases mode routed filled with
    ⟨_, long, cut⟩ | ⟨announced, whole, counted⟩ | ⟨_, uneven, kept⟩
  · rw [cut]
    refine .inr ⟨fun recounted => ?_, illegal _ _⟩
    have fewer := short recounted
    omega
  · have expected : 0 < len * (knownMode mode + 1) := by omega
    have positive : 0 < len := pos_of_mul_pos_left expected (by omega)
    have unsigned : 63 < len := by
      have outside := reserved.1
      omega
    rw [counted]
    by_cases few : (path.length / 2 : Int) / (knownMode mode + 1) ≤ 63
    · exact .inl ⟨⟨unsigned, filled, whole, few⟩, .routed (recount_nonneg mode path) few
        (knownMode_mem mode) fun _ => fits_recounted whole⟩
    · exact .inr ⟨fun recounted => few recounted.few, fun legal => few legal.most⟩
  · rw [kept]
    exact .inr ⟨fun recounted => uneven (short recounted) recounted.whole, illegal _ _⟩

/-- Outside the reserved packed bytes the repair always ends in a fitted route. -/
theorem normalizeContactRoute_fitted {pathLen : Option Int}
    (free : ¬ ReservedLen (pathLen.getD (-1))) (pathHex : Option (List Char)) (mode : Option Int) :
    Fitted (normalizeContactRoute pathHex pathLen mode) := by
  by_cases counted : -1 ≤ pathLen.getD (-1) ∧ pathLen.getD (-1) ≤ 63
  · rw [normalizeContactRoute_count counted.1 counted.2]
    exact fitRoute_fitted counted.1 counted.2 _ _
  · simp only [normalizeContactRoute]
    rw [if_pos (by omega)]
    split
    · exact .flood
    · rename_i packed
      have outside : pathLen.getD (-1) < -1 ∨ pathLen.getD (-1) > 63 := by omega
      have unreserved : pathLen.getD (-1) % 256 < 192 := by
        by_contra large
        exact free ⟨outside, by omega, packed⟩
      rw [if_pos (by omega)]
      exact fitRoute_fitted (by omega) (by omega) _ _

theorem normalizeContactRoute_reserved {pathLen : Option Int}
    (reserved : ReservedLen (pathLen.getD (-1))) (pathHex : Option (List Char))
    (mode : Option Int) :
    normalizeContactRoute pathHex pathLen mode =
      fitRoute (pathHex.getD []) (pathLen.getD (-1)) mode := by
  obtain ⟨outside, large, packed⟩ := reserved
  simp only [normalizeContactRoute]
  rw [if_pos outside, if_neg packed, if_neg (by omega)]

/-- A route is normal after one repair, except that a packed byte of the reserved
mode 3 stays the hop count unless the path is a whole number of at most 63 hops. -/
theorem normalizeContactRoute_normal_iff (pathHex : Option (List Char))
    (pathLen pathHashMode : Option Int) :
    RouteNormal pathHex pathLen pathHashMode ↔
      (ReservedLen (pathLen.getD (-1)) →
        Recounted (pathHex.getD []) (pathLen.getD (-1)) (knownMode pathHashMode)) := by
  constructor
  · rintro ⟨legal, _⟩ reserved
    rw [normalizeContactRoute_reserved reserved] at legal
    rcases fitRoute_reserved reserved (pathHex.getD []) pathHashMode with
      ⟨recounted, _⟩ | ⟨_, illegal⟩
    · exact recounted
    · exact absurd legal illegal
  · intro recounts
    have fitted : Fitted (normalizeContactRoute pathHex pathLen pathHashMode) := by
      by_cases reserved : ReservedLen (pathLen.getD (-1))
      · rw [normalizeContactRoute_reserved reserved]
        rcases fitRoute_reserved reserved (pathHex.getD []) pathHashMode with
          ⟨_, fitted⟩ | ⟨unchanged, _⟩
        · exact fitted
        · exact absurd (recounts reserved) unchanged
      · exact normalizeContactRoute_fitted reserved pathHex pathHashMode
    exact ⟨fitted.legal, renormalized_fitted fitted⟩

/-- The byte `0xC0` as a hop count, and the signed byte of `0xC2` beside a path. -/
theorem reserved_byte_kept :
    ¬ RouteNormal none (some 192) none ∧
      ¬ RouteNormal (some "aabb".toList) (some (-62)) (some 0) := by
  constructor
  · rintro ⟨⟨_, most, _, _⟩, _⟩
    exact absurd most (by decide)
  · rintro ⟨⟨least, _, _, _⟩, _⟩
    exact absurd least (by decide)

end Meshloom.Packet
