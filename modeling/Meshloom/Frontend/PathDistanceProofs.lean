import Meshloom.Frontend.PathDistance

/-! The total distance of a path is the sum of its known legs, except that the leg from a
last hop to the receiver is lost when nothing before that hop has a known location. -/
namespace Meshloom.PathDistance
open Frontend

/-- The point of a valid location. -/
def located (lat lon : Option ℚ) : Option Point :=
  if isValidLocation lat lon then some (lat.getD 0, lon.getD 0) else none

def Endpoint.point (e : Endpoint) : Option Point := located e.lat e.lon

/-- The point of a hop with exactly one match. -/
def hopPoint : List Contact → Option Point
  | [c] => located c.lat c.lon
  | _ => none

/-- The adjacent pairs of known points. -/
def legs {α : Type} : List (Option α) → List (α × α)
  | some a :: some b :: rest => (a, b) :: legs (some b :: rest)
  | _ :: rest => legs rest
  | [] => []

/-- The points of a path, from the sender to the receiver. -/
def pathPoints (sender : Endpoint) (candidates : List (List Char × List Contact))
    (receiver : Endpoint) : List (Option Point) :=
  sender.point :: (candidates.map fun hop => hopPoint hop.2) ++ [receiver.point]

section Spec
variable {M : Type} [AddMonoid M]

/-- The sum of the distances of the legs, and nothing when there is none. -/
def expectedTotal (d : Point → Point → M) (pairs : List (Point × Point)) : Option (List M) :=
  if pairs = [] then none else some [(pairs.map fun leg => d leg.1 leg.2).sum]

/-- The total of a path is the sum over its legs. -/
def TotalExact [LinearOrder M] (d : Point → Point → M) (sender : Endpoint)
    (candidates : List (List Char × List Contact)) (receiver : Endpoint) : Prop :=
  (resolveHops d sender candidates receiver).totalDistances =
    expectedTotal d (legs (pathPoints sender candidates receiver))

end Spec

/-- The last hop is the first point that is known, and the receiver's is known too. -/
def OnlyLastHop (sender : Endpoint) (candidates : List (List Char × List Contact))
    (receiver : Endpoint) : Prop :=
  sender.point = none ∧ receiver.point ≠ none ∧ ∃ unknown last,
    candidates.map (fun hop => hopPoint hop.2) = List.replicate unknown none ++ [some last]

section Legs
variable {α : Type}

@[simp]
theorem legs_nil : legs ([] : List (Option α)) = [] := rfl

@[simp]
theorem legs_none (rest : List (Option α)) : legs (none :: rest) = legs rest := by
  cases rest <;> rfl

@[simp]
theorem legs_singleton (point : Option α) : legs [point] = [] := by
  cases point <;> rfl

@[simp]
theorem legs_some_none (a : α) (rest : List (Option α)) :
    legs (some a :: none :: rest) = legs rest := by
  rw [legs, legs_none]
  rintro _ _ _ - ⟨⟩

theorem legs_nones {points : List (Option α)} (unknown : ∀ point ∈ points, point = none)
    (rest : List (Option α)) : legs (points ++ rest) = legs rest := by
  induction points with
  | nil => rfl
  | cons point points ih =>
      rw [unknown point List.mem_cons_self, List.cons_append, legs_none]
      exact ih fun other member => unknown other (List.mem_cons_of_mem _ member)

/-- A last point adds the leg from the one before it. -/
theorem legs_snoc (first : Option α) (points : List (Option α)) (last : Option α) :
    legs (first :: points ++ [last]) =
      legs (first :: points) ++ legs [(first :: points).getLast (List.cons_ne_nil _ _), last] := by
  induction points generalizing first with
  | nil => simp
  | cons second points ih =>
      rw [List.getLast_cons (List.cons_ne_nil _ _)]
      cases first with
      | none =>
          rw [List.cons_append, legs_none, legs_none]
          exact ih second
      | some a =>
          cases second with
          | none =>
              have rest := ih none
              rw [List.cons_append, legs_none, legs_none] at rest
              rw [List.cons_append, List.cons_append, legs_some_none, legs_some_none]
              exact rest
          | some b =>
              rw [List.cons_append, List.cons_append, legs, legs, List.cons_append]
              exact congrArg ((a, b) :: ·) (ih (some b))

end Legs

theorem located_eq_some {lat lon : Option ℚ} {point : Point} (known : located lat lon = some point) :
    isValidLocation lat lon = true ∧ lat = some point.1 ∧ lon = some point.2 := by
  rw [located] at known
  split at known
  · rename_i valid
    refine ⟨valid, ?_⟩
    cases lat with
    | none => exact absurd valid (by simp [isValidLocation])
    | some lat =>
        cases lon with
        | none => exact absurd valid (by simp [isValidLocation])
        | some lon =>
            cases known
            exact ⟨rfl, rfl⟩
  · contradiction

theorem located_eq_none {lat lon : Option ℚ} :
    located lat lon = none ↔ isValidLocation lat lon = false := by
  rw [located]
  split <;> simp_all

theorem soleLocated_eq_none {candidates : List Contact} :
    soleLocated candidates = none ↔ hopPoint candidates = none := by
  rcases candidates with _ | ⟨c, _ | ⟨_, _⟩⟩
  · simp [soleLocated, hopPoint]
  · rw [soleLocated, hopPoint, located_eq_none]
    split <;> simp_all
  · simp [soleLocated, hopPoint]

theorem soleLocated_located {candidates : List Contact} {c : Contact}
    (sole : soleLocated candidates = some c) : ∃ point, hopPoint candidates = some point ∧
      c.lat = some point.1 ∧ c.lon = some point.2 ∧ isValidLocation c.lat c.lon = true := by
  rcases candidates with _ | ⟨other, _ | ⟨_, _⟩⟩
  · contradiction
  · rw [soleLocated] at sole
    split at sole
    · rename_i valid
      cases sole
      cases known : located c.lat c.lon with
      | none =>
          rw [located_eq_none.mp known] at valid
          contradiction
      | some point =>
          obtain ⟨_, lat, lon⟩ := located_eq_some known
          exact ⟨point, known, lat, lon, valid⟩
    · contradiction
  · contradiction

/-- Sorting does not change what a hop with exactly one match is. -/
theorem hopPoint_perm {left right : List Contact} (perm : left.Perm right) :
    hopPoint left = hopPoint right := by
  have length := perm.length_eq
  rcases right with _ | ⟨c, _ | ⟨_, _⟩⟩
  · rw [perm.eq_nil]
  · rw [List.perm_singleton.mp perm]
  · rcases left with _ | ⟨_, _ | ⟨_, _⟩⟩
    · contradiction
    · simp at length
    · rfl

section Sorted
variable {M : Type} [LinearOrder M]

theorem sortContactsByDistance_perm (d : Point → Point → M) (contacts : List Contact)
    (fromLat fromLon : Option ℚ) :
    (sortContactsByDistance d contacts fromLat fromLon).Perm contacts := by
  rw [sortContactsByDistance]
  split
  · exact .refl _
  · exact List.mergeSort_perm _ _

/-- The hops that are built have the points of their candidates. -/
theorem buildHops_points (d : Point → Point → M) (prev : Previous)
    (candidates : List (List Char × List Contact)) :
    (buildHops d prev candidates).map (fun hop => hopPoint hop.hopMatches) =
      candidates.map fun hop => hopPoint hop.2 := by
  induction candidates generalizing prev with
  | nil => rfl
  | cons hop rest ih =>
      rw [buildHops, List.map_cons, List.map_cons, ih]
      congr 1
      exact hopPoint_perm (sortContactsByDistance_perm d _ _ _)

end Sorted

section Loop
variable {M : Type} [AddMonoid M] {d : Point → Point → M}

/-- The loop stands at a point, with the sum of the legs so far. -/
structure Total.At (d : Point → Point → M) (t : Total M) (point : Option Point)
    (pairs : List (Point × Point)) : Prop where
  lat : t.prevLat = point.map Prod.fst
  lon : t.prevLon = point.map Prod.snd
  sum : t.totalDistance = (pairs.map fun leg => d leg.1 leg.2).sum
  any : t.hasAnyDistance = !pairs.isEmpty

/-- A leg to a known point is added when the previous point is known. -/
theorem Total.At.addLeg {t : Total M} {point : Option Point} {pairs : List (Point × Point)}
    (at_ : t.At d point pairs) (next : Point) :
    let after := t.addLeg (calculateDistance d t.prevLat t.prevLon (some next.1) (some next.2))
    after.totalDistance =
        ((pairs ++ legs [point, some next]).map fun leg => d leg.1 leg.2).sum ∧
      after.hasAnyDistance = !(pairs ++ legs [point, some next]).isEmpty := by
  cases point with
  | none =>
      rw [at_.lat, at_.lon]
      simp [calculateDistance, Total.addLeg, at_.sum, at_.any]
  | some point =>
      rw [at_.lat, at_.lon]
      simp [calculateDistance, Total.addLeg, at_.sum, legs]

/-- The loop over hops adds the legs between them. -/
theorem sumHops_at {t : Total M} {point : Option Point} {pairs : List (Point × Point)}
    (at_ : t.At d point pairs) (i : Nat) (hops : List (PathHop M)) :
    (t.sumHops d i hops).At d
      ((point :: hops.map fun hop => hopPoint hop.hopMatches).getLast (List.cons_ne_nil _ _))
      (pairs ++ legs (point :: hops.map fun hop => hopPoint hop.hopMatches)) := by
  induction hops generalizing t point pairs i with
  | nil =>
      rw [Total.sumHops, List.map_nil, legs_singleton, List.append_nil]
      exact at_
  | cons hop rest ih =>
      rw [Total.sumHops, List.map_cons, List.getLast_cons (List.cons_ne_nil _ _)]
      cases sole : soleLocated hop.hopMatches with
      | none =>
          have unknown := soleLocated_eq_none.mp sole
          have after : ({ t with prevLat := none, prevLon := none } : Total M).At d none pairs :=
            ⟨rfl, rfl, at_.sum, at_.any⟩
          have step := ih after (i + 1)
          have same : legs (point :: hopPoint hop.hopMatches ::
              rest.map fun hop => hopPoint hop.hopMatches) =
              legs (none :: rest.map fun hop => hopPoint hop.hopMatches) := by
            rw [unknown]
            cases point <;> simp
          rw [same, unknown]
          exact step
      | some c =>
          obtain ⟨next, known, lat, lon, _⟩ := soleLocated_located sole
          have leg := at_.addLeg next
          have after : ({ t.addLeg (calculateDistance d t.prevLat t.prevLon c.lat c.lon) with
              prevLat := c.lat
              prevLon := c.lon
              lastUnambiguousHopIndex := i } : Total M).At d (some next)
              (pairs ++ legs [point, some next]) := by
            refine ⟨lat, lon, ?_, ?_⟩
            · rw [lat, lon]
              exact leg.1
            · rw [lat, lon]
              exact leg.2
          have step := ih after (i + 1)
          have same : legs (point :: hopPoint hop.hopMatches ::
              rest.map fun hop => hopPoint hop.hopMatches) =
              legs [point, some next] ++
                legs (some next :: rest.map fun hop => hopPoint hop.hopMatches) := by
            rw [known]
            cases point <;> simp [legs]
          rw [same, known, ← List.append_assoc]
          exact step

/-- The last unambiguous hop of the loop is the last one when its point is known. -/
theorem sumHops_index (t : Total M) (i : Nat) (hops : List (PathHop M)) (nonempty : hops ≠ [])
    (fresh : t.lastUnambiguousHopIndex < i) :
    (t.sumHops d i hops).lastUnambiguousHopIndex = (i + hops.length : Int) - 1 ↔
      hopPoint (hops.getLast nonempty).hopMatches ≠ none := by
  induction hops generalizing t i with
  | nil => contradiction
  | cons hop rest ih =>
      rw [Total.sumHops, ne_eq, ← soleLocated_eq_none]
      cases rest with
      | nil =>
          rw [List.getLast_singleton]
          cases soleLocated hop.hopMatches with
          | none =>
              simp [Total.sumHops]
              omega
          | some c => simp [Total.sumHops]
      | cons second rest =>
          rw [List.getLast_cons (List.cons_ne_nil _ _), soleLocated_eq_none, ← ne_eq]
          have shifted : (i + (hop :: second :: rest).length : Int) - 1 =
              ((i + 1 : Nat) + (second :: rest).length : Int) - 1 := by
            simp only [List.length_cons, Nat.cast_add, Nat.cast_one]
            ring
          rw [shifted]
          cases soleLocated hop.hopMatches with
          | none => exact ih _ (i + 1) (List.cons_ne_nil _ _) (by simpa using by omega)
          | some c => exact ih _ (i + 1) (List.cons_ne_nil _ _) (by simp)

/-- The final leg is added when the loop ended at the last hop. -/
theorem Total.At.finish {t : Total M} {point : Option Point} {pairs : List (Point × Point)}
    (at_ : t.At d point pairs) {count : Nat} (receiver : Endpoint)
    (reached : point ≠ none → t.lastUnambiguousHopIndex = (count : Int) - 1) :
    let after := t.finish d count receiver
    after.totalDistance =
        ((pairs ++ legs [point, receiver.point]).map fun leg => d leg.1 leg.2).sum ∧
      after.hasAnyDistance = !(pairs ++ legs [point, receiver.point]).isEmpty := by
  rw [Total.finish]
  cases point with
  | none =>
      rw [if_neg (fun last => last.2.1 (by rw [at_.lat]; rfl)), legs_none, legs_singleton,
        List.append_nil]
      exact ⟨at_.sum, at_.any⟩
  | some point =>
      rw [if_pos ⟨reached (Option.some_ne_none _), by simp [at_.lat], by simp [at_.lon]⟩]
      cases known : receiver.point with
      | none =>
          have invalid := located_eq_none.mp known
          rw [if_neg (by simp [invalid]), legs_some_none, legs_nil, List.append_nil]
          exact ⟨at_.sum, at_.any⟩
      | some last =>
          obtain ⟨valid, lat, lon⟩ := located_eq_some known
          rw [if_pos valid, lat, lon]
          exact at_.addLeg last

/-- The final leg is left out when the last hop of the loop is not the last of the path. -/
theorem Total.finish_early {t : Total M} {count : Nat} (receiver : Endpoint)
    (early : t.lastUnambiguousHopIndex ≠ (count : Int) - 1) : t.finish d count receiver = t :=
  if_neg fun last => early last.1

/-- The value that the total of known legs is reported as. -/
theorem expectedTotal_of {t : Total M} {pairs : List (Point × Point)}
    (reached : t.totalDistance = (pairs.map fun leg => d leg.1 leg.2).sum ∧
      t.hasAnyDistance = !pairs.isEmpty) :
    (if t.hasAnyDistance then some [t.totalDistance] else none) = expectedTotal d pairs := by
  rw [reached.1, reached.2, expectedTotal]
  cases pairs <;> rfl

/-- From a known start, the loop and the final leg give the sum over the legs of the rest. -/
theorem total_from (start : Point) (startIndex : Nat) (hops : List (PathHop M)) (count : Nat)
    (receiver : Endpoint) (counted : startIndex + hops.length = count) (nonempty : hops ≠ []) :
    let t : Total M := ⟨0, false, some start.1, some start.2, -1⟩
    let t := (t.sumHops d startIndex hops).finish d count receiver
    (if t.hasAnyDistance then some [t.totalDistance] else none) =
      expectedTotal d (legs (some start :: (hops.map fun hop => hopPoint hop.hopMatches) ++
        [receiver.point])) := by
  intro t
  have at_ : t.At d (some start) [] := ⟨rfl, rfl, rfl, rfl⟩
  have summed := sumHops_at at_ startIndex hops
  rw [List.nil_append] at summed
  rw [legs_snoc]
  refine expectedTotal_of (summed.finish receiver fun known => ?_)
  have fresh : t.lastUnambiguousHopIndex < startIndex := by
    simp only [t]
    omega
  rw [← counted, Nat.cast_add, sumHops_index t startIndex hops nonempty fresh]
  rw [List.getLast_cons (by simpa using nonempty), List.getLast_map] at known
  exact known

end Loop

section Start
variable {M : Type}

/-- The search stops behind the first hop of known location. -/
theorem firstLocated_spec (i : Nat) (hops : List (PathHop M)) :
    (firstLocated i hops = none ∧ ∀ hop ∈ hops, hopPoint hop.hopMatches = none) ∨
      ∃ before hop rest point c, hops = before ++ hop :: rest ∧
        (∀ other ∈ before, hopPoint other.hopMatches = none) ∧
        hopPoint hop.hopMatches = some point ∧ c.lat = some point.1 ∧ c.lon = some point.2 ∧
        firstLocated i hops = some (c, i + before.length + 1) := by
  induction hops generalizing i with
  | nil => exact .inl ⟨rfl, by simp⟩
  | cons hop rest ih =>
      rw [firstLocated]
      cases sole : soleLocated hop.hopMatches with
      | some c =>
          obtain ⟨point, known, lat, lon, _⟩ := soleLocated_located sole
          exact .inr ⟨[], hop, rest, point, c, rfl, by simp, known, lat, lon, rfl⟩
      | none =>
          have unknown := soleLocated_eq_none.mp sole
          obtain ⟨missing, all⟩ | ⟨before, first, after, point, c, split, all, known, lat, lon,
            found⟩ := ih (i + 1)
          · exact .inl ⟨missing, List.forall_mem_cons.mpr ⟨unknown, all⟩⟩
          · refine .inr ⟨hop :: before, first, after, point, c, by rw [split]; rfl,
              List.forall_mem_cons.mpr ⟨unknown, all⟩, known, lat, lon, ?_⟩
            rw [found, List.length_cons, Nat.add_right_comm i 1, Nat.add_assoc i]

theorem hopPoints_replicate {hops : List (PathHop M)}
    (unknown : ∀ hop ∈ hops, hopPoint hop.hopMatches = none) :
    hops.map (fun hop => hopPoint hop.hopMatches) = List.replicate hops.length none := by
  rw [List.eq_replicate_iff]
  refine ⟨List.length_map _, fun point member => ?_⟩
  obtain ⟨hop, among, rfl⟩ := List.mem_map.mp member
  exact unknown hop among

theorem legs_replicate {α : Type} (count : Nat) (rest : List (Option α)) :
    legs (List.replicate count none ++ rest) = legs rest :=
  legs_nones (fun _ member => List.eq_of_mem_replicate member) rest

/-- Two splits of a list at its first known point agree. -/
theorem split_eq {α : Type} {left right : Nat} {a b : α} {after : List (Option α)}
    (same : List.replicate left none ++ some a :: after =
      List.replicate right none ++ [some b]) : after = [] := by
  induction left generalizing right with
  | zero =>
      cases right with
      | zero => exact (List.cons.inj same).2
      | succ right => cases (List.cons.inj same).1
  | succ left ih =>
      cases right with
      | zero => cases (List.cons.inj same).1
      | succ right => exact ih (List.cons.inj same).2

end Start

section Exact
variable {M : Type} [AddMonoid M] (d : Point → Point → M)

theorem total_noHops (sender receiver : Endpoint) :
    calculateTotalDistances d sender [] receiver =
      expectedTotal d (legs [sender.point, receiver.point]) := by
  rw [calculateTotalDistances, if_pos List.length_nil]
  cases knownSender : sender.point with
  | none =>
      rw [if_pos (.inl (by simp [located_eq_none.mp knownSender])), legs_none, legs_singleton]
      rfl
  | some start =>
      cases knownReceiver : receiver.point with
      | none =>
          rw [if_pos (.inr (by simp [located_eq_none.mp knownReceiver])), legs_some_none]
          rfl
      | some last =>
          obtain ⟨validSender, lat1, lon1⟩ := located_eq_some knownSender
          obtain ⟨validReceiver, lat2, lon2⟩ := located_eq_some knownReceiver
          rw [if_neg (by simp [validSender, validReceiver]), lat1, lon1, lat2, lon2]
          simp [calculateDistance, expectedTotal, legs]

/-- A sender of known location starts the loop at the first hop. -/
theorem total_located {sender : Endpoint} {start : Point} (known : sender.point = some start)
    {hops : List (PathHop M)} (nonempty : hops ≠ []) (receiver : Endpoint) :
    calculateTotalDistances d sender hops receiver =
      expectedTotal d (legs (some start :: (hops.map fun hop => hopPoint hop.hopMatches) ++
        [receiver.point])) := by
  obtain ⟨valid, lat, lon⟩ := located_eq_some known
  rw [calculateTotalDistances, if_neg (by simpa using nonempty), startAt, if_pos valid, lat, lon]
  exact total_from start 0 hops hops.length receiver (Nat.zero_add _) nonempty

/-- Without a sender the loop starts behind the first hop of known location. -/
theorem total_unlocated {sender : Endpoint} (unknown : sender.point = none)
    {before : List (PathHop M)} {hop : PathHop M} {rest : List (PathHop M)} {point : Point}
    {c : Contact} (lat : c.lat = some point.1) (lon : c.lon = some point.2)
    (found : firstLocated 0 (before ++ hop :: rest) = some (c, before.length + 1))
    (receiver : Endpoint) :
    calculateTotalDistances d sender (before ++ hop :: rest) receiver =
      if rest = [] then none
      else expectedTotal d (legs (some point :: (rest.map fun hop => hopPoint hop.hopMatches) ++
        [receiver.point])) := by
  have behind : (before ++ hop :: rest).drop (before.length + 1) = rest := by
    rw [List.drop_append, List.drop_of_length_le (by omega)]
    simp
  rw [calculateTotalDistances, if_neg (by simp), startAt,
    if_neg (by simp [located_eq_none.mp unknown]), found]
  simp only [Option.map_some, behind, lat, lon]
  cases rest with
  | nil =>
      have short : ¬ (-1 : Int) = ((before ++ [hop]).length : Int) - 1 := by
        rw [List.length_append, List.length_singleton]
        omega
      rw [Total.sumHops, Total.finish_early _ short]
      rfl
  | cons second rest =>
      have counted : before.length + 1 + (second :: rest).length =
          (before ++ hop :: second :: rest).length := by
        simp only [List.length_append, List.length_cons]
        omega
      exact total_from point (before.length + 1) (second :: rest) _ receiver counted
        (List.cons_ne_nil _ _)

/-- The total over hops that are built, against the sum over the legs of the path. -/
theorem calculateTotalDistances_exact_iff (sender : Endpoint) (hops : List (PathHop M))
    (receiver : Endpoint) :
    calculateTotalDistances d sender hops receiver =
        expectedTotal d (legs (sender.point ::
          (hops.map fun hop => hopPoint hop.hopMatches) ++ [receiver.point])) ↔
      ¬ (sender.point = none ∧ receiver.point ≠ none ∧ ∃ unknown last,
        hops.map (fun hop => hopPoint hop.hopMatches) =
          List.replicate unknown none ++ [some last]) := by
  cases knownSender : sender.point with
  | some start =>
      refine iff_of_true ?_ (fun failing => Option.some_ne_none _ failing.1)
      cases hops with
      | nil => rw [total_noHops, knownSender, List.map_nil, List.cons_append, List.nil_append]
      | cons hop rest => exact total_located d knownSender (List.cons_ne_nil _ _) receiver
  | none =>
      rw [List.cons_append, legs_none]
      obtain ⟨missing, all⟩ | ⟨before, hop, rest, point, c, rfl, all, known, lat, lon, found⟩ :=
        firstLocated_spec 0 hops
      · -- No hop is known either, so there is no leg.
        have points := hopPoints_replicate all
        rw [points, legs_replicate, legs_singleton]
        refine iff_of_true ?_ ?_
        · cases hops with
          | nil => rw [total_noHops, knownSender, legs_none, legs_singleton]
          | cons hop rest =>
              rw [calculateTotalDistances, if_neg (by simp), startAt,
                if_neg (by simp [located_eq_none.mp knownSender]), missing]
              rfl
        · rintro ⟨-, -, count, last, same⟩
          have member : some last ∈ List.replicate hops.length (none : Option Point) := by
            rw [same]
            simp
          cases List.eq_of_mem_replicate member
      · rw [Nat.zero_add] at found
        rw [total_unlocated d knownSender lat lon found receiver, List.map_append, List.map_cons,
          hopPoints_replicate all, known, List.append_assoc, legs_replicate, List.cons_append]
        cases rest with
        | nil =>
            -- The first known hop is the last one: the leg to the receiver is dropped.
            rw [if_pos rfl, List.map_nil, List.nil_append]
            cases knownReceiver : receiver.point with
            | none => simp [expectedTotal]
            | some last =>
                refine iff_of_false (by simp [legs, expectedTotal]) ?_
                rw [not_not]
                exact ⟨rfl, Option.some_ne_none _, _, _, rfl⟩
        | cons second rest =>
            rw [if_neg (List.cons_ne_nil _ _)]
            refine iff_of_true rfl ?_
            rintro ⟨-, -, count, last, same⟩
            cases split_eq same

/-- The total distance of a path is the sum of its legs exactly when the last hop is not the
only known point before a known receiver. -/
theorem resolveHops_totalDistances_iff [LinearOrder M] (sender : Endpoint)
    (candidates : List (List Char × List Contact)) (receiver : Endpoint) :
    TotalExact d sender candidates receiver ↔ ¬ OnlyLastHop sender candidates receiver := by
  have total := calculateTotalDistances_exact_iff d sender
    (buildHops d ⟨sender.lat, sender.lon, !isValidLocation sender.lat sender.lon⟩ candidates)
    receiver
  rw [buildHops_points] at total
  exact total

/-- A repeater of known location hears a sender of none: the leg to the receiver is missing. -/
theorem repeater_leg_missing : ¬ TotalExact (fun a b => |a.1 - b.1| + |a.2 - b.2|) ⟨none, none⟩
    [(['A', '1'], [⟨['A', '1', 'B', '2'], contactTypeRepeater, some 50, some 14⟩])]
    ⟨some 49, some 16⟩ := by
  unfold TotalExact
  decide +kernel

end Exact

end Meshloom.PathDistance
