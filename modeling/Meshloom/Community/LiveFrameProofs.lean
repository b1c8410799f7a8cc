import Meshloom.Community.LiveFrame

/-! A relayed frame is a fixed point of the relay's check, and the browser reads it as it is exactly
when its numbers are doubles and its places are on the map. -/
namespace Meshloom.LiveFrame
open Text

@[simp]
theorem bind_eq_ok {ε α β : Type} {x : Except ε α} {f : α → Except ε β} {b : β} :
    x >>= f = .ok b ↔ ∃ a, x = .ok a ∧ f a = .ok b := by
  cases x with
  | error e => simp [bind, Except.bind]
  | ok a => simp [bind, Except.bind]

@[simp]
theorem required_eq_ok {α : Type} {o : Option α} {a : α} : required o = .ok a ↔ o = some a := by
  cases o <;> simp [required]

theorem optionalText_eq_some {value : PyValue} {text : Chars} :
    optionalText value = some text ↔ value = .string text ∧ text ≠ [] := by
  unfold optionalText
  split
  · rename_i s
    by_cases empty : s = []
    · simp [empty]
    · simp only [if_neg empty, Option.some.injEq, PyValue.string.injEq]
      constructor
      · rintro rfl
        exact ⟨rfl, empty⟩
      · exact And.left
  · rename_i other
    exact iff_of_false (by simp) fun both => other text both.1

@[simp]
theorem Confidence.ofText_text (confidence : Confidence) :
    Confidence.ofText confidence.text = some confidence := by
  cases confidence <;> decide

@[simp]
theorem EarSource.ofText_text (source : EarSource) : EarSource.ofText source.text = some source := by
  cases source <;> decide

@[simp]
theorem RouteKind.ofText_text (kind : RouteKind) : RouteKind.ofText kind.text = some kind := by
  cases kind <;> decide

/-- A hop as the relay leaves it. -/
structure HopForm (hop : CommunityPacketHop) : Prop where
  token : hop.token ≠ []
  reason : hop.reason ≠ some []
  pubkey : hop.pubkey ≠ some []
  name : hop.name ≠ some []
  unplaced : hop.confidence = .unresolved → hop.lat = none ∧ hop.lon = none
  placed : hop.confidence ≠ .unresolved → hop.lat ≠ none ∧ hop.lon ≠ none
  reasoned : hop.confidence ≠ .exact → hop.reason ≠ none
  nameless : hop.confidence ≠ .exact → hop.name = none

def CommunityPacketHop.Placed (hop : CommunityPacketHop) : Prop :=
  ∀ lat ∈ hop.lat, ∀ lon ∈ hop.lon, OnMap lat lon

/-- A hop that the browser reads as it is. -/
structure CommunityPacketHop.Drawable (hop : CommunityPacketHop) : Prop where
  token : Browser.trim hop.token = hop.token
  placed : hop.Placed

section Hops
variable {lang : Languages} {raw : PyValue} {hop : CommunityPacketHop} {token : Chars}

theorem optionalText_ne (value : PyValue) : optionalText value ≠ some [] := by
  intro empty
  exact (optionalText_eq_some.mp empty).2 rfl

theorem sanitizeKnown_spec {confidence : Confidence} (filled : token ≠ [])
    (done : sanitizeKnown lang token raw confidence = .ok hop) :
    HopForm hop ∧ hop.token = token ∧
      hop.pubkey = (if hop.confidence = .exact then optionalText (raw.field "pubkey") else none) ∧
      (Placeable lang raw ↔ hop.Placed) := by
  simp only [sanitizeKnown, bind_eq_ok] at done
  obtain ⟨lat, lat_read, lon, lon_read, done⟩ := done
  have placeable (x y : PyFloat) (is_lat : lat = some x) (is_lon : lon = some y) :
      Placeable lang raw ↔ OnMap x y := by
    simp [Placeable, lat_read, lon_read, is_lat, is_lon]
  cases confidence with
  | unresolved =>
      dsimp only at done
      split at done
      · cases done
      · rename_i unplaced
        obtain ⟨no_lat, no_lon, reason⟩ : lat = none ∧ lon = none ∧
            optionalText (raw.field "reason") ≠ none := by
          simpa only [not_or, not_not] using unplaced
        cases done
        exact ⟨⟨filled, optionalText_ne _, by simp, by simp, by simp, by simp, by simpa using reason,
          by simp⟩, rfl, by simp,
          by simp [Placeable, lat_read, no_lat, CommunityPacketHop.Placed]⟩
  | probable =>
      dsimp only at done
      split at done
      · cases done
      · rename_i full
        obtain ⟨has_lat, has_lon, reason⟩ : lat ≠ none ∧ lon ≠ none ∧
            optionalText (raw.field "reason") ≠ none := by
          simpa only [not_or] using full
        obtain ⟨x, is_lat⟩ := Option.ne_none_iff_exists'.mp has_lat
        obtain ⟨y, is_lon⟩ := Option.ne_none_iff_exists'.mp has_lon
        cases done
        exact ⟨⟨filled, optionalText_ne _, by simp, by simp, by simp, by simp [is_lat, is_lon],
          by simpa using reason, by simp⟩, rfl, by simp,
          by simp [placeable x y is_lat is_lon, CommunityPacketHop.Placed, is_lat, is_lon]⟩
  | exact =>
      dsimp only at done
      split at done
      · cases done
      · rename_i full
        obtain ⟨has_lat, has_lon⟩ : lat ≠ none ∧ lon ≠ none := by
          simpa only [not_or] using full
        obtain ⟨x, is_lat⟩ := Option.ne_none_iff_exists'.mp has_lat
        obtain ⟨y, is_lon⟩ := Option.ne_none_iff_exists'.mp has_lon
        cases done
        exact ⟨⟨filled, optionalText_ne _, optionalText_ne _, optionalText_ne _, by simp,
          by simp [is_lat, is_lon], by simp, by simp⟩, rfl, by simp,
          by simp [placeable x y is_lat is_lon, CommunityPacketHop.Placed, is_lat, is_lon]⟩

theorem unresolvedHop_form (filled : token ≠ []) :
    HopForm (unresolvedHop token) ∧ (unresolvedHop token).Placed :=
  ⟨⟨filled, by simp [unresolvedHop], by simp [unresolvedHop], by simp [unresolvedHop],
    by simp [unresolvedHop], by simp [unresolvedHop], by simp [unresolvedHop], by simp [unresolvedHop]⟩,
    by simp [unresolvedHop, CommunityPacketHop.Placed]⟩

theorem sanitizeV1_spec (filled : token ≠ []) (done : sanitizeV1 lang token raw = .ok hop) :
    HopForm hop ∧ hop.token = token ∧ hop.pubkey = none ∧
      ((isTrue (raw.field "unresolved") = true ∨ Placeable lang raw) ↔ hop.Placed) := by
  obtain ⟨form, placed⟩ := unresolvedHop_form filled
  unfold sanitizeV1 at done
  split at done
  · rename_i unresolved
    cases done
    exact ⟨form, rfl, rfl, by simp [unresolved, placed]⟩
  · rename_i resolved
    simp only [bind_eq_ok] at done
    obtain ⟨lat, lat_read, lon, lon_read, done⟩ := done
    split at done
    · rename_i missing
      cases done
      refine ⟨form, rfl, rfl, iff_of_true (.inr ?_) placed⟩
      intro x y is_lat is_lon
      rw [lat_read, Except.ok.injEq] at is_lat
      rw [lon_read, Except.ok.injEq] at is_lon
      simp [is_lat, is_lon] at missing
    · rename_i full
      obtain ⟨has_lat, has_lon⟩ : lat ≠ none ∧ lon ≠ none := by
        simpa only [not_or] using full
      obtain ⟨x, is_lat⟩ := Option.ne_none_iff_exists'.mp has_lat
      obtain ⟨y, is_lon⟩ := Option.ne_none_iff_exists'.mp has_lon
      cases done
      exact ⟨⟨filled, by simp, by simp, by simp, by simp, by simp [is_lat, is_lon], by simp, by simp⟩,
        rfl, rfl, by
          simp [resolved, Placeable, CommunityPacketHop.Placed, lat_read, lon_read, is_lat, is_lon]⟩

/-- A hop that passes has its form, and the browser draws it when the raw one is drawable. -/
theorem sanitizeHop_spec {allowV1 : Bool} (done : sanitizeHop lang allowV1 raw = .ok hop) :
    HopForm hop ∧ (hop.confidence ≠ .exact → hop.pubkey = none) ∧
      (hop.pubkey = none ∨ hop.pubkey = optionalText (raw.field "pubkey")) ∧
      (DrawableHop lang raw ↔ hop.Drawable) := by
  simp only [sanitizeHop, bind_eq_ok, required_eq_ok, optionalText_eq_some] at done
  obtain ⟨token, ⟨is_token, filled⟩, known, member, done⟩ := done
  have drawable (same : hop.token = token) (placed : (memberOf Confidence.ofText
      (raw.field "confidence") = .ok none ∧ isTrue (raw.field "unresolved") = true) ∨
        Placeable lang raw ↔ hop.Placed) : DrawableHop lang raw ↔ hop.Drawable := by
    constructor
    · exact fun drawn => ⟨same ▸ drawn.token token is_token, placed.mp drawn.placeable⟩
    · refine fun drawn => ⟨fun other is_other => ?_, placed.mpr drawn.placed⟩
      rw [is_token, PyValue.string.injEq] at is_other
      rw [← is_other, ← same]
      exact drawn.token
  cases known with
  | some confidence =>
      obtain ⟨form, same, key, placed⟩ := sanitizeKnown_spec filled done
      refine ⟨form, fun inexact => key.trans (if_neg inexact), ?_, drawable same (by simpa [member] using placed)⟩
      rw [key]
      split
      · exact .inr rfl
      · exact .inl rfl
  | none =>
      cases allowV1 with
      | false => cases done
      | true =>
          obtain ⟨form, same, keyless, placed⟩ := sanitizeV1_spec filled done
          exact ⟨form, fun _ => keyless, .inl keyless, drawable same (by simpa [member] using placed)⟩

/-- What stands in a dict for a value that may be absent. -/
@[simp]
theorem finiteCoord_float (lang : Languages) (x : Option PyFloat) :
    finiteCoord lang ((x.map .float).getD .null) = .ok x := by
  cases x <;> rfl

theorem optionalText_string {text : Option Chars} (filled : text ≠ some []) :
    optionalText ((text.map .string).getD .null) = text := by
  cases text with
  | none => rfl
  | some text => exact if_neg fun empty => filled (congrArg some empty)

/-- The fields of a hop that is written as a dict. -/
theorem field_hop (hop : CommunityPacketHop) :
    hop.toValue.field "token" = .string hop.token ∧
      hop.toValue.field "confidence" = .string hop.confidence.text ∧
      hop.toValue.field "lat" = (hop.lat.map .float).getD .null ∧
      hop.toValue.field "lon" = (hop.lon.map .float).getD .null ∧
      hop.toValue.field "reason" = (hop.reason.map .string).getD .null ∧
      hop.toValue.field "pubkey" = (hop.pubkey.map .string).getD .null ∧
      hop.toValue.field "name" = (hop.name.map .string).getD .null := by
  simp [CommunityPacketHop.toValue, CommunityPacketHop.entries, PyValue.field, PyValue.get]

/-- A hop of the form passes as it is, but for a key that only an origin has. -/
theorem sanitizeHop_toValue (lang : Languages) (form : HopForm hop) :
    sanitizeHop lang false hop.toValue =
      .ok { hop with pubkey := if hop.confidence = .exact then hop.pubkey else none } := by
  obtain ⟨token, confidence, lat, lon, reason, pubkey, name⟩ := field_hop hop
  have is_token : optionalText (.string hop.token) = some hop.token := if_neg form.token
  have known : sanitizeKnown lang hop.token hop.toValue hop.confidence =
      .ok { hop with pubkey := if hop.confidence = .exact then hop.pubkey else none } := by
    simp only [sanitizeKnown, lat, lon, reason, pubkey, name, finiteCoord_float,
      optionalText_string form.reason, optionalText_string form.pubkey, optionalText_string form.name]
    cases is : hop.confidence with
    | unresolved =>
        obtain ⟨no_lat, no_lon⟩ := form.unplaced is
        have reasoned := form.reasoned (by simp [is])
        have nameless := form.nameless (by simp [is])
        simp [bind, Except.bind, no_lat, no_lon, reasoned, nameless]
    | probable =>
        obtain ⟨has_lat, has_lon⟩ := form.placed (by simp [is])
        have reasoned := form.reasoned (by simp [is])
        have nameless := form.nameless (by simp [is])
        simp [bind, Except.bind, has_lat, has_lon, reasoned, nameless]
    | exact =>
        obtain ⟨has_lat, has_lon⟩ := form.placed (by simp [is])
        simp [bind, Except.bind, has_lat, has_lon]
  simp [sanitizeHop, token, is_token, required, confidence, memberOf, known, bind, Except.bind]

end Hops

section Origin
variable {lang : Languages} {raw : PyValue} {hop origin : CommunityPacketHop}

/-- A key of 64 digits in lower case. -/
def FullKey (pubkey : Chars) : Prop := isPubkey pubkey = true ∧ pubkey.map Char.toLower = pubkey

/-- An origin as the relay leaves it. -/
structure OriginForm (origin : CommunityPacketHop) : Prop extends HopForm origin where
  lower : ∀ pubkey ∈ origin.pubkey, isPubkey pubkey = true → FullKey pubkey
  full : origin.confidence ≠ .exact → ∀ pubkey ∈ origin.pubkey, FullKey pubkey
  keyed : origin.confidence = .unresolved → origin.pubkey ≠ none

theorem isHex_ascii {c : Char} (hex : isHex c = true) :
    c.toNat < 128 ∧ isHex c.toLower = true ∧ c.toLower.toLower = c.toLower := by
  have small : c.toNat < 128 := by
    by_contra large
    have above : ∀ d : Char, d.toNat < 128 → ¬ c ≤ d := fun d low le => by
      have : c.toNat ≤ d.toNat := le
      omega
    simp [isHex, isLowerHex, above] at hex
  have table : ∀ n < 128, isHex (Char.ofNat n) = true → isHex (Char.ofNat n).toLower = true := by
    decide
  have lower := table c.toNat small
  rw [Char.ofNat_toNat] at lower
  exact ⟨small, lower hex, by simp⟩

theorem lower_pubkey (lang : Languages) {pubkey : Chars} (key : isPubkey pubkey = true) :
    lang.lower.apply pubkey = pubkey.map Char.toLower ∧ FullKey (lang.lower.apply pubkey) := by
  simp only [isPubkey, Bool.and_eq_true, decide_eq_true_eq, List.all_eq_true] at key
  have ascii := lang.lower.ascii pubkey fun c member => (isHex_ascii (key.2 c member)).1
  rw [ascii]
  refine ⟨rfl, ?_, ?_⟩
  · simp only [isPubkey, Bool.and_eq_true, decide_eq_true_eq, List.all_eq_true, List.length_map,
      List.forall_mem_map]
    exact ⟨key.1, fun c member => (isHex_ascii (key.2 c member)).2.1⟩
  · simp [Function.comp_def]

/-- An origin that is kept has its form, and the browser draws it when the raw hop is drawable. -/
theorem sanitizeOrigin_spec (done : sanitizeOrigin lang raw = .ok (some origin)) :
    OriginForm origin ∧ (DrawableHop lang raw ↔ origin.Drawable) := by
  unfold sanitizeOrigin at done
  split at done
  · rename_i cleaned passed
    obtain ⟨form, keyless, own_key, drawable⟩ := sanitizeHop_spec passed
    rw [Except.ok.injEq, withOriginKey] at done
    split at done
    · rename_i pubkey found
      obtain ⟨own, is_key⟩ := Option.filter_eq_some_iff.mp found
      obtain ⟨-, full⟩ := lower_pubkey lang is_key
      cases done
      have filled : lang.lower.apply pubkey ≠ [] := by
        rintro empty
        have := full.1
        simp [empty, isPubkey] at this
      exact ⟨⟨⟨form.token, form.reason, by simpa using filled, form.name, form.unplaced, form.placed,
        form.reasoned, form.nameless⟩, by simpa using fun _ => full, by simpa using fun _ => full,
        by simp⟩, drawable.trans ⟨fun drawn => ⟨drawn.token, drawn.placed⟩,
          fun drawn => ⟨drawn.token, drawn.placed⟩⟩⟩
    · rename_i missing
      split at done
      · cases done
      · rename_i resolved
        cases done
        refine ⟨⟨form, ?_, ?_, fun unresolved => (resolved unresolved).elim⟩, drawable⟩
        · intro pubkey member is_key
          obtain absent | own := own_key
          · rw [absent] at member
            cases member
          · rw [← own, member, Option.filter_some_pos is_key] at missing
            cases missing
        · intro inexact pubkey member
          rw [keyless inexact] at member
          cases member
  · cases done
  · cases done

theorem lower_fullKey (lower : LowerCase) {pubkey : Chars} (full : FullKey pubkey) :
    lower.apply pubkey = pubkey := by
  have digits := full.1
  simp only [isPubkey, Bool.and_eq_true, decide_eq_true_eq, List.all_eq_true] at digits
  rw [lower.ascii pubkey fun c member => (isHex_ascii (digits.2 c member)).1, full.2]

theorem sanitizeOrigin_toValue (lang : Languages) (form : OriginForm origin) :
    sanitizeOrigin lang origin.toValue = .ok (some origin) := by
  have own : optionalText (origin.toValue.field "pubkey") = origin.pubkey := by
    rw [(field_hop origin).2.2.2.2.2.1, optionalText_string form.pubkey]
  rw [sanitizeOrigin, sanitizeHop_toValue lang form.toHopForm]
  dsimp only
  rw [own, withOriginKey]
  cases key : origin.pubkey with
  | none =>
      have resolved : origin.confidence ≠ .unresolved := fun unresolved => form.keyed unresolved key
      rw [Option.filter_none]
      dsimp only
      rw [if_neg resolved, ite_self, ← key]
  | some pubkey =>
      by_cases is_key : isPubkey pubkey = true
      · rw [Option.filter_some_pos is_key]
        simp [lower_fullKey lang.lower (form.lower pubkey key is_key), ← key]
      · have exact_ : origin.confidence = .exact := by
          by_contra inexact
          exact is_key (form.full inexact pubkey key).1
        rw [Option.filter_some_neg (Bool.eq_false_iff.mpr is_key)]
        dsimp only
        rw [if_neg (by simp [exact_]), if_pos exact_, ← key]

end Origin

section Ear
variable {lang : Languages} {raw : PyValue} {ear : Option CommunityPacketEar}

theorem field_ear (ear : CommunityPacketEar) :
    (PyValue.object ear.entries).field "lat" = .float ear.lat ∧
      (PyValue.object ear.entries).field "lon" = .float ear.lon ∧
      (PyValue.object ear.entries).field "source" = .string ear.source.text := by
  simp [CommunityPacketEar.entries, PyValue.field, PyValue.get]

theorem sanitizeEar_spec (done : sanitizeEar lang raw = .ok ear) :
    Placeable lang raw ↔ ∀ placed ∈ ear, OnMap placed.lat placed.lon := by
  unfold sanitizeEar at done
  split at done
  · cases done
    simp [Placeable, PyValue.field, finiteCoord]
  · simp only [bind_eq_ok, required_eq_ok, pure, Except.pure, Except.ok.injEq] at done
    obtain ⟨_, lat_read, _, lon_read, lat, rfl, lon, rfl, _, _, source, _, rfl⟩ := done
    simp [Placeable, lat_read, lon_read]
  · cases done

theorem sanitizeEar_earValue (lang : Languages) (ear : Option CommunityPacketEar) :
    sanitizeEar lang (earValue ear) = .ok ear := by
  cases ear with
  | none => rfl
  | some ear =>
      obtain ⟨lat, lon, source⟩ := field_ear ear
      simp only [earValue, sanitizeEar, lat, lon, source]
      simp [finiteCoord, required, memberOf, bind, Except.bind, pure, Except.pure]

end Ear

section Frames
variable {lang : Languages} {payload : PyValue} {frame : Frame}

/-- A frame as the relay leaves it. -/
structure WellFormed (frame : Frame) : Prop where
  eventId : frame.eventId ≠ []
  hash8 : isHash8 frame.hash8 = true
  packetHash : ∀ hash ∈ frame.packetHash, isPacketHash hash = true ∧ hash.take 8 = frame.hash8
  type : isPacketType frame.type = true
  length : frame.hops.length = frame.path.length
  hops : ∀ hop ∈ frame.hops, HopForm hop ∧ (hop.confidence ≠ .exact → hop.pubkey = none)
  iata : frame.iata = [] ∨ isIata frame.iata = true
  earId : frame.earId ≠ []
  origin : ∀ origin ∈ frame.origin, OriginForm origin

/-- A frame that the browser reads as it is. -/
structure DrawableFrame (lang : Languages) (frame : Frame) : Prop where
  hops : ∀ hop ∈ frame.hops, hop.Drawable
  count : lang.nearest frame.hopCount = some (frame.hops.length : ℚ)
  ear : ∀ ear ∈ frame.ear, OnMap ear.lat ear.lon
  origin : ∀ origin ∈ frame.origin, origin.Drawable
  time : lang.nearest frame.t = some (frame.t : ℚ)
  snr : ∀ snr ∈ frame.snr, snr.isFinite = true
  packetHash : frame.packetHash ≠ some zeroPacketHash

theorem forall₂_of_mapM {α β ε : Type} {f : α → Except ε β} {items : List α} {results : List β}
    (done : items.mapM f = .ok results) : List.Forall₂ (fun a b => f a = .ok b) items results := by
  induction items generalizing results with
  | nil =>
      cases done
      exact .nil
  | cons item rest ih =>
      simp only [List.mapM_cons, bind_eq_ok, pure, Except.pure, Except.ok.injEq] at done
      obtain ⟨head, head_done, tail, tail_done, rfl⟩ := done
      exact .cons head_done (ih tail_done)

theorem mapM_map {α β ε : Type} {f : α → Except ε β} {write : β → α} {results : List β}
    (back : ∀ b ∈ results, f (write b) = .ok b) : (results.map write).mapM f = .ok results := by
  induction results with
  | nil => rfl
  | cons b rest ih =>
      obtain ⟨head, tail⟩ := List.forall_mem_cons.mp back
      simp [List.mapM_cons, head, ih tail, bind, Except.bind, pure, Except.pure]

theorem readHash8_eq_ok {value : PyValue} {hash8 : Chars} (done : readHash8 lang value = .ok hash8) :
    isHash8 hash8 = true := by
  unfold readHash8 at done
  split at done
  · dsimp only at done
    split at done <;> split at done <;> cases done <;> assumption
  · cases done

theorem readPacketHash_eq_ok {value : PyValue} {hash8 : Chars} {packetHash : Option Chars}
    (done : readPacketHash lang hash8 value = .ok packetHash) :
    (∀ hash ∈ packetHash, isPacketHash hash = true ∧ hash.take 8 = hash8) ∧
      ((∀ hash, value = .string hash → lang.lower.apply hash ≠ zeroPacketHash) ↔
        packetHash ≠ some zeroPacketHash) := by
  unfold readPacketHash at done
  split at done
  · cases done
    simp
  · dsimp only at done
    split at done
    · rename_i passed
      cases done
      simpa using passed
    · cases done
  · cases done

theorem readHops_eq_ok {allowV1 : Bool} {path : List Chars} {value : PyValue}
    {hops : List CommunityPacketHop} (done : readHops lang allowV1 path value = .ok hops) :
    hops.length = path.length ∧
      (∀ hop ∈ hops, HopForm hop ∧ (hop.confidence ≠ .exact → hop.pubkey = none)) ∧
      ((∀ items, value = .array items → ∀ item ∈ items, DrawableHop lang item) ↔
        ∀ hop ∈ hops, hop.Drawable) := by
  unfold readHops at done
  split at done
  · rename_i items
    split at done
    · rename_i length
      have pairs := forall₂_of_mapM done
      refine ⟨pairs.length_eq.symm.trans length, ?_, ?_⟩
      · intro hop member
        clear done length
        induction pairs with
        | nil => cases member
        | cons passed _ ih =>
            obtain rfl | later := List.mem_cons.mp member
            · exact ⟨(sanitizeHop_spec passed).1, (sanitizeHop_spec passed).2.1⟩
            · exact ih later
      · simp only [PyValue.array.injEq, forall_eq']
        clear done length
        induction pairs with
        | nil => simp
        | cons passed _ ih =>
            rw [List.forall_mem_cons, List.forall_mem_cons, ih, (sanitizeHop_spec passed).2.2.2]
    · cases done
  · cases done

theorem sanitizeOrigin_drawable {raw : PyValue} {origin : Option CommunityPacketHop}
    (done : sanitizeOrigin lang raw = .ok origin) :
    ((∃ kept, sanitizeOrigin lang raw = .ok (some kept)) → DrawableHop lang raw) ↔
      ∀ kept ∈ origin, kept.Drawable := by
  cases origin with
  | none => simp [done]
  | some origin =>
      simp only [done, Except.ok.injEq, Option.some.injEq, exists_eq', forall_const, Option.mem_def,
        forall_eq']
      exact (sanitizeOrigin_spec done).2

theorem readType_eq_ok {value : PyValue} {type : Chars} (done : readType value = .ok type) :
    isPacketType type = true := by
  unfold readType at done
  split at done
  · split at done <;> cases done
    assumption
  · cases done

theorem readIata_eq_ok {value : PyValue} {iata : Chars} (done : readIata lang value = .ok iata) :
    iata = [] ∨ isIata iata = true := by
  unfold readIata at done
  split at done
  · dsimp only at done
    split at done <;> cases done
    assumption
  · cases done

theorem readTimestamp_eq_ok {value : PyValue} {t : Int} (done : readTimestamp value = .ok t) :
    value = .int t := by
  unfold readTimestamp at done
  split at done <;> cases done
  rfl

theorem readPath_eq_ok {value : PyValue} {path : List Chars} (done : readPath value = .ok path) :
    ∃ items, value = .array items ∧ items.length = path.length := by
  unfold readPath at done
  split at done
  · exact ⟨_, rfl, (forall₂_of_mapM done).length_eq⟩
  · cases done

/-- What the relay sends on has its form, and the browser draws it when the payload is drawable. -/
theorem sanitizePayload_spec (done : sanitizePayload lang payload = .ok frame) :
    WellFormed frame ∧ (DrawablePayload lang payload ↔ DrawableFrame lang frame) := by
  simp only [sanitizePayload, bind_eq_ok, required_eq_ok, optionalText_eq_some, pure, Except.pure,
    Except.ok.injEq] at done
  obtain ⟨allowV1, _, eventId, ⟨_, event_filled⟩, hash8, hash8_read, packetHash, packet_read, type,
    type_read, path, path_read, hops, hops_read, iata, iata_read, t, t_read, earId, ⟨_, ear_filled⟩,
    ear, ear_read, origin, origin_read, snr, snr_read, rfl⟩ := done
  obtain ⟨packet_form, packet_drawable⟩ := readPacketHash_eq_ok packet_read
  obtain ⟨length, hops_form, hops_drawable⟩ := readHops_eq_ok hops_read
  obtain ⟨items, is_path, items_length⟩ := readPath_eq_ok path_read
  have is_t := readTimestamp_eq_ok t_read
  have origin_form : ∀ kept ∈ origin, OriginForm kept := by
    rintro kept rfl
    exact (sanitizeOrigin_spec origin_read).1
  refine ⟨⟨event_filled, readHash8_eq_ok hash8_read, packet_form, readType_eq_ok type_read, length,
    hops_form, readIata_eq_ok iata_read, ear_filled, origin_form⟩, ?_⟩
  have count : (∀ items, payload.field "path" = .array items →
      lang.nearest (hopCountOf items.length (payload.field "hop_count")) = some (items.length : ℚ)) ↔
      lang.nearest (hopCountOf path.length (payload.field "hop_count")) = some (hops.length : ℚ) := by
    simp only [is_path, PyValue.array.injEq, forall_eq', items_length, length]
  constructor
  · intro drawn
    exact ⟨hops_drawable.mp drawn.hops, count.mp drawn.count,
      (sanitizeEar_spec ear_read).mp drawn.ear, (sanitizeOrigin_drawable origin_read).mp drawn.origin,
      drawn.time t is_t, fun x is_snr => drawn.snr x (snr_read.trans (congrArg _ is_snr)),
      packet_drawable.mp drawn.packetHash⟩
  · intro drawn
    refine ⟨hops_drawable.mpr drawn.hops, count.mpr drawn.count,
      (sanitizeEar_spec ear_read).mpr drawn.ear,
      (sanitizeOrigin_drawable origin_read).mpr drawn.origin, ?_, ?_,
      packet_drawable.mpr drawn.packetHash⟩
    · intro other is_other
      rw [is_t, PyValue.int.injEq] at is_other
      exact is_other ▸ drawn.time
    · intro x is_x
      rw [snr_read, Except.ok.injEq] at is_x
      exact drawn.snr x is_x

end Frames

section FixedPoint
variable {lang : Languages} {frame : Frame}

theorem isLowerHex_plain {c : Char} (hex : isLowerHex c = true) :
    c.toNat < 128 ∧ c.toLower = c ∧ isHex c = true ∧ Browser.isSpace c = false := by
  have wide : isHex c = true := by simp [isHex, hex]
  have small := (isHex_ascii wide).1
  have table : ∀ n < 128, isLowerHex (Char.ofNat n) = true →
      (Char.ofNat n).toLower = Char.ofNat n ∧ Browser.isSpace (Char.ofNat n) = false := by
    decide
  have plain := table c.toNat small
  rw [Char.ofNat_toNat] at plain
  exact ⟨small, (plain hex).1, wide, (plain hex).2⟩

theorem lower_hex (lower : LowerCase) {text : Chars} (hex : text.all isLowerHex = true) :
    lower.apply text = text := by
  rw [List.all_eq_true] at hex
  rw [lower.ascii text fun c member => (isLowerHex_plain (hex c member)).1]
  exact (List.map_congr_left fun c member => (isLowerHex_plain (hex c member)).2.1).trans
    (List.map_id _)

theorem readHash8_fixed {hash8 : Chars} (is_hash : isHash8 hash8 = true) :
    readHash8 lang (.string hash8) = .ok hash8 := by
  have parts := is_hash
  simp only [isHash8, Bool.and_eq_true, decide_eq_true_eq] at parts
  have cut : hash8.take 8 = hash8 := List.take_of_length_le parts.1.le
  simp only [readHash8, lower_hex lang.lower parts.2, cut, ite_self, is_hash, if_true]

theorem readPacketHash_fixed {hash8 : Chars} {packetHash : Option Chars}
    (form : ∀ hash ∈ packetHash, isPacketHash hash = true ∧ hash.take 8 = hash8) :
    readPacketHash lang hash8 ((packetHash.map .string).getD .null) = .ok packetHash := by
  cases packetHash with
  | none => rfl
  | some hash =>
      obtain ⟨is_hash, same⟩ := form hash rfl
      have parts := is_hash
      simp only [isPacketHash, Bool.and_eq_true, decide_eq_true_eq] at parts
      simp only [Option.map_some, Option.getD_some, readPacketHash, lower_hex lang.lower parts.2]
      rw [if_pos ⟨is_hash, same⟩]

theorem readIata_fixed {iata : Chars} (form : iata = [] ∨ isIata iata = true) :
    readIata lang (.string iata) = .ok iata := by
  have kept : lang.upper.apply iata = iata := by
    have capital : ∀ c ∈ iata, 'A' ≤ c ∧ c ≤ 'Z' := by
      obtain rfl | letters := form
      · simp
      · simp only [isIata, Bool.and_eq_true, decide_eq_true_eq, List.all_eq_true] at letters
        exact letters.2
    have plain : ∀ c ∈ iata, c.toNat < 128 ∧ c.toUpper = c := by
      intro c member
      obtain ⟨low, high⟩ := capital c member
      have low : 65 ≤ c.toNat := low
      have high : c.toNat ≤ 90 := high
      refine ⟨by omega, ?_⟩
      rw [Char.toUpper, dif_neg]
      rintro ⟨from_a, -⟩
      have from_a : 97 ≤ c.toNat := from_a
      omega
    rw [lang.upper.ascii iata fun c member => (plain c member).1]
    exact (List.map_congr_left fun c member => (plain c member).2).trans (List.map_id _)
  simp only [readIata, kept, if_pos form]

/-- The fields of a frame that is written as a dict. -/
theorem field_frame (frame : Frame) :
    frame.toValue.field "v" = .int 2 ∧
      frame.toValue.field "event_id" = .string frame.eventId ∧
      frame.toValue.field "hash8" = .string frame.hash8 ∧
      frame.toValue.field "packet_hash" = (frame.packetHash.map .string).getD .null ∧
      frame.toValue.field "type" = .string frame.type ∧
      frame.toValue.field "path" = .array (frame.path.map .string) ∧
      frame.toValue.field "hops" = .array (frame.hops.map (·.toValue)) ∧
      frame.toValue.field "iata" = .string frame.iata ∧
      frame.toValue.field "t" = .int frame.t ∧
      frame.toValue.field "ear_id" = .string frame.earId ∧
      frame.toValue.field "ear" = earValue frame.ear ∧
      frame.toValue.field "origin" = (frame.origin.map (·.toValue)).getD .null ∧
      frame.toValue.field "snr" = (frame.snr.map .float).getD .null ∧
      frame.toValue.field "hop_count" = .int frame.hopCount ∧
      frame.toValue.field "route_kind" =
        (frame.routeKind.map fun kind => .string kind.text).getD .null := by
  simp [Frame.toValue, Frame.entries, PyValue.field, PyValue.get]

/-- A frame of the form passes as it is. -/
theorem sanitizePayload_toValue (lang : Languages) (form : WellFormed frame) :
    sanitizePayload lang frame.toValue = .ok frame := by
  obtain ⟨v, eventId, hash8, packetHash, type, path, hops, iata, t, earId, ear, origin, snr, hopCount,
    routeKind⟩ := field_frame frame
  have event_text : optionalText (.string frame.eventId) = some frame.eventId := if_neg form.eventId
  have ear_text : optionalText (.string frame.earId) = some frame.earId := if_neg form.earId
  have hops_kept : (frame.hops.map (·.toValue)).mapM (sanitizeHop lang false) = .ok frame.hops := by
    refine mapM_map fun hop member => ?_
    obtain ⟨hop_form, keyless⟩ := form.hops hop member
    rw [sanitizeHop_toValue lang hop_form]
    split
    · rfl
    · rename_i inexact
      rw [← keyless inexact]
  have hops_read : readHops lang false frame.path (.array (frame.hops.map (·.toValue))) =
      .ok frame.hops := by
    rw [readHops, if_pos (by rw [List.length_map, form.length]), hops_kept]
  have path_read : readPath (.array (frame.path.map .string)) = .ok frame.path :=
    mapM_map fun _ _ => rfl
  have origin_read : sanitizeOrigin lang ((frame.origin.map (·.toValue)).getD .null) =
      .ok frame.origin := by
    cases is_origin : frame.origin with
    | none => rfl
    | some origin => exact sanitizeOrigin_toValue lang (form.origin origin is_origin)
  have kind_read : routeKindOf ((frame.routeKind.map fun kind => .string kind.text).getD .null) =
      frame.routeKind := by
    cases frame.routeKind <;> simp [routeKindOf]
  have type_read : readType (.string frame.type) = .ok frame.type := if_pos form.type
  have version : readVersion (.int 2) = .ok false := rfl
  simp only [sanitizePayload, v, eventId, hash8, packetHash, type, path, hops, iata, t, earId, ear,
    origin, snr, hopCount, routeKind, event_text, ear_text, hops_read, path_read, origin_read,
    kind_read, type_read, version, readHash8_fixed form.hash8, readPacketHash_fixed form.packetHash,
    readIata_fixed form.iata, sanitizeEar_earValue, finiteCoord_float, bind, Except.bind, required,
    readTimestamp]
  rfl

/-- Every frame that the relay sends on is a fixed point of its check. -/
theorem sanitize_idempotent {raw : PyValue} (done : sanitizeCommunityPacket lang raw = .ok frame) :
    sanitizeCommunityPacket lang frame.toValue = .ok frame := by
  simp only [sanitizeCommunityPacket, bind_eq_ok, required_eq_ok] at done ⊢
  obtain ⟨payload, -, passed⟩ := done
  exact ⟨frame.toValue, rfl, sanitizePayload_toValue lang (sanitizePayload_spec passed).1⟩

end FixedPoint
end Meshloom.LiveFrame
