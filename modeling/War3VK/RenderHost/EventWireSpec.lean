import War3VK.RenderHost.EventWire

/-!
# The WVE1 codec's two validators agree

`Header.Valid` and `Event.Valid` say what a packet may hold. `encodeHeaderError` and `decodeHeaderError`
test it in different orders (`encodeHeaderError_eq_none`, `decodeHeaderError_eq_none`), and a packet's
bytes determine its header and events and are determined by them (`readHeader_headerImage`,
`headerImage_readHeader`, and the same for records).
-/

namespace War3VK.RenderHost.Recorder

open Lib

/-! ## What a packet may hold -/

structure Header.Valid (h : Header) : Prop where
  op : h.op = .begin ∨ h.op = .data ∨ h.op = .seal
  capacity : 4 ≤ h.capacity ∧ h.capacity ≤ maxHistoryEvents
  session : h.session ≠ 0
  ordinal : h.ordinal ≠ 0
  /-- A packet holds at most `maxEvents` events. -/
  count : h.count ≤ maxEvents
  /-- A Begin is the first packet, with no events, cut, reason or totals. -/
  ofBegin : h.op = .begin → h.ordinal = 1 ∧ h.trigger = noTrigger ∧ h.count = 0 ∧ h.reason = 0 ∧
    h.attempted = 0 ∧ h.lost = 0 ∧ h.accepted = 0
  ofData : h.op = .data → h.count ≠ 0 ∧ h.reason = 0 ∧ h.attempted = 0 ∧ h.lost = 0 ∧ h.accepted = 0
  /-- A Seal has no events, a reason, totals that close, and a cut that they cover. -/
  ofSeal : h.op = .seal → h.count = 0 ∧ 1 ≤ h.reason ∧ h.reason ≤ 4 ∧ h.accepted ≤ h.attempted ∧
    h.lost = h.attempted - h.accepted ∧ (h.trigger = noTrigger ∨ h.trigger ≤ h.accepted)

structure Event.Valid (session : UInt64) (ev : Event) : Prop where
  session : ev.session = session
  /-- Sequences are neither zero nor the value for no cut. -/
  sequence : ev.sequence ≠ 0 ∧ ev.sequence ≠ noTrigger
  kind : 1 ≤ ev.kind.raw ∧ ev.kind.raw ≤ 18
  label : 0 ∈ ev.label.toList

theorem encodeHeaderError_eq_none (h : Header) : encodeHeaderError h = .none ↔ h.Valid := by
  rw [encodeHeaderError, firstError_eq_ok_iff (by simp)]
  simp only [List.forall_mem_cons, decide_eq_false_iff_not]
  constructor
  · rintro ⟨h1, h2, h3, h4, h5, h6, h7, h8, h9, h10, h11, h12, h13, h14, -⟩
    constructor <;> grind
  · rintro ⟨h1, h2, h3, h4, h5, h6, h7, h8⟩
    refine ⟨?_, ?_, ?_, ?_, ?_, ?_, ?_, ?_, ?_, ?_, ?_, ?_, ?_, ?_, by simp⟩ <;> grind

theorem encodeEventError_eq_none (session : UInt64) (ev : Event) :
    encodeEventError session ev = .none ↔ ev.Valid session := by
  rw [encodeEventError, firstError_eq_ok_iff (by simp)]
  simp only [List.forall_mem_cons, decide_eq_false_iff_not]
  constructor
  · rintro ⟨h1, h2, h3, h4, -⟩
    constructor <;> grind
  · rintro ⟨h1, h2, h3, h4⟩
    refine ⟨?_, ?_, ?_, ?_, by simp⟩ <;> grind

theorem encodeEventsError_eq_none (session : UInt64) (l : List Event) :
    encodeEventsError session l = .none ↔ ∀ ev ∈ l, ev.Valid session := by
  induction l with
  | nil => simp [encodeEventsError]
  | cons ev l ih =>
    rw [List.forall_mem_cons, ← ih, ← encodeEventError_eq_none, encodeEventsError]
    by_cases hev : encodeEventError session ev = .none
    · simp [hev]
    · simp [hev]

/-! ## The layout -/

@[simp]
theorem wireMagic_length : wireMagic.length = 4 := by simp [wireMagic]

theorem headerImage_length (h : Header) : (headerImage h).length = headerBytes := by
  simp [headerImage, headerBytes]

theorem eventImage_length (ev : Event) : (eventImage ev).length = eventBytes := by
  simp [eventImage, eventBytes]

theorem packetImage_length (h : Header) (events : ℕ → Event) :
    (packetImage h events).length = required h := by
  simp [packetImage, required, headerImage_length, eventImage_length, countedEvents, Function.comp_def]

theorem readHeader_headerImage (h : Header) (rest : Bytes) :
    readHeader (headerImage h ++ rest) = h := by
  obtain ⟨⟨op⟩, count, session, ordinal, trigger, attempted, lost, capacity, reason, accepted⟩ := h
  simp [readHeader, headerImage, getLe_append_left, getLe_append_right]

theorem readEvent_eventImage (ev : Event) (rest : Bytes) :
    readEvent (eventImage ev ++ rest) = ev := by
  obtain ⟨sequence, session, parent, qpc, ⟨owner, frame, mapEpoch, deviceEpoch⟩, thread, ⟨kind⟩,
    label, data, bits⟩ := ev
  simp [readEvent, eventImage, getLe_append_left, getLe_append_right, getArray_append_left,
    getArray_append_right]

variable {src : Bytes}

theorem eventImage_readEvent (h : src.length = eventBytes) : eventImage (readEvent src) = src := by
  have hlen : src.length = 392 := h
  simp (disch := simp [hlen]) only [eventImage, readEvent, putLe_getLe, putArray_getArray,
    width_uint8, width_uint32, width_uint64]
  simp (disch := simp) only [slice_append_slice, Nat.reduceAdd, Nat.reduceMul]
  exact slice_zero_length hlen

/-- The fixed fields of a packet's header: the magic, the version, the flags, and the sizes that
follow from its count. -/
structure Framed (src : Bytes) : Prop where
  length : src.length = headerBytes + (readHeader src).count.toNat * eventBytes
  magic : slice 0 4 src = wireMagic
  version : getLe UInt16 4 src = 1 ∧ getLe UInt16 6 src = 0
  flags : getLe UInt16 10 src = 0
  headerSize : getLe UInt32 12 src = UInt32.ofNat headerBytes
  payloadSize : getLe UInt32 16 src = UInt32.ofNat ((readHeader src).count.toNat * eventBytes)

theorem framed_packetImage (h : Header) (events : ℕ → Event) : Framed (packetImage h events) where
  length := by
    rw [packetImage_length, packetImage, readHeader_headerImage]
    rfl
  magic := by
    rw [packetImage, headerImage]
    simp [slice_append_left]
  version := by
    simp [packetImage, headerImage, getLe_append_left, getLe_append_right]
  flags := by
    simp [packetImage, headerImage, getLe_append_left, getLe_append_right]
  headerSize := by
    simp [packetImage, headerImage, getLe_append_left, getLe_append_right]
  payloadSize := by
    rw [packetImage, readHeader_headerImage, headerImage]
    simp [getLe_append_left, getLe_append_right]

theorem headerImage_readHeader (h : Framed src) :
    headerImage (readHeader src) = slice 0 headerBytes src := by
  have hlen : 80 ≤ src.length := by
    have := h.length
    simp only [headerBytes] at this
    omega
  -- The fields that are not read into the header are fixed by the framing.
  have hmajor : putLe (1 : UInt16) = slice 4 2 src := by
    rw [← h.version.1]; exact putLe_getLe (by simp; omega)
  have hminor : putLe (0 : UInt16) = slice 6 2 src := by
    rw [← h.version.2]; exact putLe_getLe (by simp; omega)
  have hflags : putLe (0 : UInt16) = slice 10 2 src := by
    rw [← h.flags]; exact putLe_getLe (by simp; omega)
  have hsize : putLe (UInt32.ofNat headerBytes) = slice 12 4 src := by
    rw [← h.headerSize]; exact putLe_getLe (by simp; omega)
  have hpayload : putLe (UInt32.ofNat ((readHeader src).count.toNat * eventBytes)) = slice 16 4 src := by
    rw [← h.payloadSize]; exact putLe_getLe (by simp; omega)
  rw [headerImage, hpayload, hsize, hmajor, ← h.magic]
  nth_rw 1 [hminor]
  rw [hflags]
  simp (disch := simp; omega) only [readHeader, putLe_getLe, width_uint16, width_uint32, width_uint64]
  simp (disch := simp) only [slice_append_slice, Nat.reduceAdd]
  rfl

theorem records_flatMap_eventImage (l : List Event) :
    records l.length (l.flatMap eventImage) = l.map eventImage := by
  apply List.ext_getElem
  · simp [records]
  · intro i h1 h2
    simp only [records, recordAt, List.getElem_map, List.getElem_range]
    exact slice_flatMap eventImage_length l i (by simpa using h2)

theorem flatten_records (count : ℕ) (events : Bytes) :
    (records count events).flatten = slice 0 (count * eventBytes) events := by
  rw [records, ← List.flatMap_def, ← flatMap_range_slice]
  simp only [Nat.zero_add]
  rfl

/-! ## The tests of `Decode` -/

theorem op_named_iff (op : Op) :
    1 ≤ op.raw ∧ op.raw ≤ 3 ↔ op = .begin ∨ op = .data ∨ op = .seal := by
  obtain ⟨raw⟩ := op
  simp only [UInt16.le_iff_toNat_le, Op.begin, Op.data, Op.seal, Op.mk.injEq, ← UInt16.toNat_inj]
  simp
  omega

theorem decodeHeaderError_eq_none (src : Bytes) :
    decodeHeaderError src = .none ↔ Framed src ∧ (readHeader src).Valid := by
  have hcount : (readHeader src).count ≤ maxEvents →
      ((readHeader src).count * UInt32.ofNat eventBytes).toNat =
        (readHeader src).count.toNat * eventBytes := by
    intro h
    have h160 : (readHeader src).count.toNat ≤ 160 := UInt32.le_iff_toNat_le.mp h
    rw [UInt32.toNat_mul]
    simp only [eventBytes, UInt32.toNat_ofNat']
    omega
  have hmul : (readHeader src).count * UInt32.ofNat eventBytes =
      UInt32.ofNat ((readHeader src).count.toNat * eventBytes) := by simp
  rw [decodeHeaderError, firstError_eq_ok_iff (by simp)]
  simp only [List.forall_mem_cons, decide_eq_false_iff_not, not_not]
  constructor
  · rintro ⟨h1, h2, h3, h4, h5, h6, h7, h8, h9, h10, h11, h12, h13, h14, h15, h16, h17, h18, h19,
      h20, h21, -⟩
    have hop := (op_named_iff (readHeader src).op).mp (by grind)
    refine ⟨⟨?_, h2, by grind, h5, ?_, ?_⟩, ?_⟩
    · rw [h9, h8, hcount (by grind)]
    · rw [← h6]; simp
    · rw [h8, hmul]
    · constructor <;> grind
  · rintro ⟨⟨f1, f2, f3, f4, f5, f6⟩, ⟨h1, h2, h3, h4, h5, h6, h7, h8⟩⟩
    have hop := (op_named_iff (readHeader src).op).mpr h1
    refine ⟨?_, f2, by grind, by grind, f4, ?_, by grind, ?_, ?_, by grind, by grind, by grind,
      by grind, by grind, by grind, by grind, by grind, by grind, by grind, by grind, by grind,
      by simp⟩
    · simp only [f1, headerBytes]; omega
    · rw [f5]; rfl
    · rw [f6, hmul]
    · rw [f6, ← hmul, hcount h5, f1]

theorem decodeRecordError_eq_none (src : Bytes) :
    decodeRecordError src = .none ↔ src.length = eventBytes ∧ (readEvent src).session ≠ 0 ∧
      (readEvent src).Valid (readEvent src).session := by
  rw [decodeRecordError, firstError_eq_ok_iff (by simp)]
  simp only [List.forall_mem_cons, decide_eq_false_iff_not, not_not]
  have hlabel : src.length = eventBytes → slice 72 32 src = (readEvent src).label.toList := by
    intro h
    rw [← putArray_uint8, readEvent, putArray_getArray (by simp [h, eventBytes])]
    rfl
  constructor
  · rintro ⟨h1, h2, h3, h4, h5, -⟩
    rw [hlabel h1] at h5
    exact ⟨h1, h3, rfl, not_or.mp h2, by simp only [readEvent]; grind, h5⟩
  · rintro ⟨h1, h2, -, h3, h4, h5⟩
    rw [hlabel h1]
    exact ⟨h1, not_or.mpr h3, h2, by simp only [readEvent] at h4; grind, h5, by simp⟩

theorem decodeRecord_of_error (h : decodeRecordError src = .none) :
    decodeRecord src = (.none, readEvent src) := by
  rw [decodeRecord, h]

theorem decodeRecord_fst (src : Bytes) : (decodeRecord src).1 = decodeRecordError src := by
  rw [decodeRecord]
  split
  · next h => exact h.symm
  · rfl

theorem decodeRecordsError_eq_none {session : UInt64} (hs : session ≠ 0) (l : List Bytes) :
    decodeRecordsError session l = .none ↔
      ∀ r ∈ l, r.length = eventBytes ∧ (readEvent r).Valid session := by
  induction l with
  | nil => simp [decodeRecordsError]
  | cons r l ih =>
    rw [List.forall_mem_cons, ← ih, decodeRecordsError, decodeRecord_fst]
    by_cases hr : decodeRecordError r = .none
    · have hval := (decodeRecordError_eq_none r).mp hr
      rw [decodeRecord_of_error hr]
      by_cases hsess : (readEvent r).session = session
      · rw [hsess] at hval
        simp [hr, hsess, hval.1, hval.2.2]
      · have hnot : ¬ (readEvent r).Valid session := fun hv => hsess hv.session
        simp [hr, hsess, hnot]
    · have hnot : ¬ (r.length = eventBytes ∧ (readEvent r).Valid session) := by
        rintro ⟨hlen, hv⟩
        refine hr ((decodeRecordError_eq_none r).mpr ⟨hlen, ?_, ?_⟩)
        · rw [hv.session]; exact hs
        · rw [hv.session]; exact hv
      simp [hr, hnot]

/-- What `Decode` accepts: framed packets with a valid header whose records are valid events of the
header's session. -/
structure Accepted (src : Bytes) : Prop where
  framed : Framed src
  header : (readHeader src).Valid
  events : ∀ r ∈ records (readHeader src).count.toNat (src.drop headerBytes),
    r.length = eventBytes ∧ (readEvent r).Valid (readHeader src).session

def viewOf (src : Bytes) : View :=
  ⟨readHeader src, if (readHeader src).count > 0 then some (src.drop headerBytes) else none⟩

theorem decodePacket_of_accepted (h : Accepted src) : decodePacket src = (.none, viewOf src) := by
  have hheader := (decodeHeaderError_eq_none src).mpr ⟨h.framed, h.header⟩
  have hrecords := (decodeRecordsError_eq_none h.header.session _).mpr h.events
  simp only [decodePacket, hheader, hrecords, viewOf]

theorem accepted_of_decodePacket (h : (decodePacket src).1 = .none) : Accepted src := by
  simp only [decodePacket] at h
  split at h
  · next hheader =>
    obtain ⟨hframed, hvalid⟩ := (decodeHeaderError_eq_none src).mp hheader
    split at h
    · next hrecords =>
      exact ⟨hframed, hvalid, (decodeRecordsError_eq_none hvalid.session _).mp hrecords⟩
    · contradiction
  · contradiction

theorem accepted_packetImage_iff (h : Header) (events : ℕ → Event) :
    Accepted (packetImage h events) ↔ h.Valid ∧ ∀ ev ∈ countedEvents h events, ev.Valid h.session := by
  have hread : readHeader (packetImage h events) = h := readHeader_headerImage h _
  have hdrop : (packetImage h events).drop headerBytes = (countedEvents h events).flatMap eventImage := by
    rw [packetImage, ← headerImage_length h, List.drop_left]
  have hrec : records h.count.toNat ((packetImage h events).drop headerBytes) =
      (countedEvents h events).map eventImage := by
    rw [hdrop, ← records_flatMap_eventImage]
    simp [countedEvents]
  have hev : ∀ ev, readEvent (eventImage ev) = ev := fun ev => by
    simpa using readEvent_eventImage ev []
  constructor
  · rintro ⟨-, hvalid, hevents⟩
    rw [hread] at hvalid hevents
    rw [hrec] at hevents
    refine ⟨hvalid, fun ev hmem => ?_⟩
    simpa [hev] using (hevents _ (List.mem_map_of_mem hmem)).2
  · rintro ⟨hvalid, hevents⟩
    refine ⟨framed_packetImage h events, by rw [hread]; exact hvalid, ?_⟩
    rw [hread, hrec]
    simp only [List.forall_mem_map, hev]
    exact fun ev hmem => ⟨eventImage_length ev, hevents ev hmem⟩

theorem packetImage_of_accepted (h : Accepted src) :
    packetImage (readHeader src) (fun i => readEvent (recordAt (src.drop headerBytes) i)) = src := by
  have hlen := h.framed.length
  have hcounted : countedEvents (readHeader src)
      (fun i => readEvent (recordAt (src.drop headerBytes) i)) =
      (records (readHeader src).count.toNat (src.drop headerBytes)).map readEvent := by
    simp [countedEvents, records, Function.comp_def]
  have himage : ((records (readHeader src).count.toNat (src.drop headerBytes)).map readEvent).flatMap
      eventImage = (records (readHeader src).count.toNat (src.drop headerBytes)).flatten := by
    rw [List.flatMap_map, List.flatMap_def]
    congr 1
    conv_rhs => rw [← List.map_id (records _ _)]
    exact List.map_congr_left fun r hr => eventImage_readEvent (h.events r hr).1
  have hrest : slice 0 ((readHeader src).count.toNat * eventBytes) (src.drop headerBytes) =
      src.drop headerBytes := slice_zero_length (by rw [List.length_drop]; omega)
  rw [packetImage, hcounted, himage, flatten_records, headerImage_readHeader h.framed, hrest]
  exact List.take_append_drop _ _

/-! ## Buffers that do not alias -/

def Apart (a an b bn : ℕ) : Prop := a + an ≤ b ∨ b + bn ≤ a

instance (a an b bn : ℕ) : Decidable (Apart a an b bn) :=
  inferInstanceAs (Decidable (a + an ≤ b ∨ b + bn ≤ a))

theorem overlaps_eq_false {uintptrMax a an b bn : ℕ} (ha : a + an ≤ uintptrMax)
    (hb : b + bn ≤ uintptrMax) (h : Apart a an b bn) : overlaps uintptrMax a an b bn = false := by
  unfold Apart at h
  unfold overlaps
  split_ifs with h0 h1
  · rfl
  · omega
  · simp only [decide_eq_false_iff_not]
    omega

/-- The arguments of a call of `Encode` lie inside the address space, and neither `written` nor the
destination shares memory with another argument. Pointers may be null. -/
structure Placement.NonAliasing (pl : Placement) (h : Header) (outSize : ℕ) : Prop where
  headerFits : pl.header + sizeofHeader ≤ pl.uintptrMax
  /-- So does `written`. -/
  writtenFits : pl.written + pl.sizeofSize ≤ pl.uintptrMax
  dstFits : pl.dst ≠ 0 → pl.dst + outSize ≤ pl.uintptrMax
  eventsFit : pl.events ≠ 0 → pl.events + h.count.toNat * sizeofEvent ≤ pl.uintptrMax
  /-- `written` and the header. -/
  writtenHeader : Apart pl.written pl.sizeofSize pl.header sizeofHeader
  /-- `written` and the destination. -/
  writtenDst : pl.dst ≠ 0 → Apart pl.written pl.sizeofSize pl.dst outSize
  /-- `written` and the events. -/
  writtenEvents : pl.events ≠ 0 →
    Apart pl.written pl.sizeofSize pl.events (h.count.toNat * sizeofEvent)
  dstHeader : pl.dst ≠ 0 → Apart pl.dst outSize pl.header sizeofHeader
  dstEvents : pl.dst ≠ 0 → pl.events ≠ 0 →
    Apart pl.dst outSize pl.events (h.count.toNat * sizeofEvent)

/-- Buffers that do not alias, with an event array and a destination of sufficient size. -/
structure Placement.Sufficient (pl : Placement) (h : Header) (outSize : ℕ) : Prop
    extends pl.NonAliasing h outSize where
  dst : pl.dst ≠ 0
  events : h.count > 0 → pl.events ≠ 0
  room : required h ≤ outSize

/-- The arguments of a call of `Decode` or `DecodeEvent` lie inside the address space, the source is
there, and the output does not share memory with it. -/
structure InPlacement.NonAliasing (pl : InPlacement) (sizeofOut size : ℕ) : Prop where
  src : pl.src ≠ 0
  srcFits : pl.src + size ≤ pl.uintptrMax
  outFits : pl.out + sizeofOut ≤ pl.uintptrMax
  apart : Apart pl.out sizeofOut pl.src size

variable {pl : Placement} {h : Header} {events : ℕ → Event} {dst : Bytes} {written : ℕ}

theorem writtenAliased_eq_false {outSize : ℕ} (hpl : pl.NonAliasing h outSize) :
    writtenAliased pl h outSize = false := by
  rw [writtenAliased, decide_eq_false_iff_not]
  rintro (⟨hev, hcount, hsize⟩ | ho | ⟨hdst, -, ho⟩ | ⟨hev, -, ho⟩)
  · have hfit := hpl.eventsFit hev
    have hpos : 0 < h.count.toNat := UInt32.lt_iff_toNat_lt.mp hcount
    have hle : sizeofEvent ≤ pl.uintptrMax / h.count.toNat := by
      rw [Nat.le_div_iff_mul_le hpos, Nat.mul_comm]
      omega
    omega
  · rw [overlaps_eq_false hpl.writtenFits hpl.headerFits hpl.writtenHeader] at ho
    contradiction
  · rw [overlaps_eq_false hpl.writtenFits (hpl.dstFits hdst) (hpl.writtenDst hdst)] at ho
    contradiction
  · rw [overlaps_eq_false hpl.writtenFits (hpl.eventsFit hev) (hpl.writtenEvents hev)] at ho
    contradiction

theorem encodeError_eq_none_iff {outSize : ℕ} (hpl : pl.Sufficient h outSize) :
    encodeError pl h events outSize = .none ↔
      h.Valid ∧ ∀ ev ∈ countedEvents h events, ev.Valid h.session := by
  have hdh : overlaps pl.uintptrMax pl.dst outSize pl.header sizeofHeader = false :=
    overlaps_eq_false (hpl.dstFits hpl.dst) hpl.headerFits (hpl.dstHeader hpl.dst)
  have hde : pl.events ≠ 0 →
      overlaps pl.uintptrMax pl.dst outSize pl.events (h.count.toNat * sizeofEvent) = false :=
    fun hev => overlaps_eq_false (hpl.dstFits hpl.dst) (hpl.eventsFit hev)
      (hpl.dstEvents hpl.dst hev)
  have hnull : ¬ (h.count > 0 ∧ pl.events = 0) := fun hn => hpl.events hn.1 hn.2
  have hroom : ¬ outSize < required h := Nat.not_lt.mpr hpl.room
  rw [encodeError, if_neg hpl.dst, if_neg (by simp [hdh]),
    if_neg (fun hc => by simp [hde hc.1] at hc), if_neg hnull, if_neg hroom,
    ← encodeHeaderError_eq_none, ← encodeEventsError_eq_none]
  by_cases hh : encodeHeaderError h = .none
  · simp [hh]
  · simp [hh]

/-- A call of `Encode` with an independent `written`, whose tests fail, leaves the destination as it
was and sets `written` to zero. -/
theorem encode_of_error (ha : writtenAliased pl h dst.length = false)
    (he : encodeError pl h events dst.length ≠ .none) :
    encode pl h events dst written = ⟨encodeError pl h events dst.length, dst, 0⟩ := by
  rw [encode, ha]
  cases hc : encodeError pl h events dst.length <;> first | exact absurd hc he | rfl

theorem encode_of_none (ha : writtenAliased pl h dst.length = false)
    (he : encodeError pl h events dst.length = .none) :
    encode pl h events dst written =
      ⟨.none, packetImage h events ++ dst.drop (required h), required h⟩ := by
  rw [encode, ha, he]
  rfl

theorem decode_of_nonAliasing {pl : InPlacement} (out : View)
    (hpl : pl.NonAliasing sizeofView src.length) : decode pl src out = decodePacket src := by
  have ho := overlaps_eq_false hpl.outFits hpl.srcFits hpl.apart
  rw [decode, if_neg (by simp [ho]), if_neg hpl.src]

theorem decodeEvent_of_nonAliasing {pl : InPlacement} (out : Event)
    (hpl : pl.NonAliasing sizeofEvent src.length) : decodeEvent pl src out = decodeRecord src := by
  have ho := overlaps_eq_false hpl.outFits hpl.srcFits hpl.apart
  rw [decodeEvent, if_neg (by simp [ho]), if_neg hpl.src]

/-! ## The codec -/

theorem encode_error_eq_none_iff (hpl : pl.Sufficient h dst.length) :
    (encode pl h events dst written).error = .none ↔ Accepted (packetImage h events) := by
  rw [accepted_packetImage_iff, ← encodeError_eq_none_iff hpl]
  by_cases he : encodeError pl h events dst.length = .none
  · simp [encode_of_none (writtenAliased_eq_false hpl.toNonAliasing) he, he]
  · simp [encode_of_error (writtenAliased_eq_false hpl.toNonAliasing) he, he]

theorem encode_dst_of_success (hpl : pl.Sufficient h dst.length)
    (hs : (encode pl h events dst written).error = .none) :
    encode pl h events dst written =
      ⟨.none, packetImage h events ++ dst.drop (required h), required h⟩ := by
  apply encode_of_none (writtenAliased_eq_false hpl.toNonAliasing)
  rw [encode_error_eq_none_iff hpl, accepted_packetImage_iff] at hs
  exact (encodeError_eq_none_iff hpl).mpr hs

/-- The bytes that a call of `Encode` says it has written. -/
def EncodeResult.bytes (r : EncodeResult) : Bytes := r.dst.take r.written

theorem encode_bytes_of_success (hpl : pl.Sufficient h dst.length)
    (hs : (encode pl h events dst written).error = .none) :
    (encode pl h events dst written).bytes = packetImage h events := by
  rw [encode_dst_of_success hpl hs, EncodeResult.bytes, ← packetImage_length h events, List.take_left]

theorem record_packetImage (h : Header) (events : ℕ → Event) {i : ℕ} (hi : i < h.count.toNat) :
    slice (headerBytes + i * eventBytes) eventBytes (packetImage h events) = eventImage (events i) := by
  rw [packetImage, slice_append_right (by rw [headerImage_length]; omega), headerImage_length,
    Nat.add_sub_cancel_left,
    slice_flatMap eventImage_length _ _ (by simpa [countedEvents] using hi)]
  simp [countedEvents]

theorem decodeEvent_packetImage (ha : Accepted (packetImage h events)) {i : ℕ}
    (hi : i < h.count.toNat) {pl : InPlacement} (out : Event)
    (hpl : pl.NonAliasing sizeofEvent eventBytes) :
    decodeEvent pl (slice (headerBytes + i * eventBytes) eventBytes (packetImage h events)) out =
      (.none, events i) := by
  obtain ⟨hheader, hevents⟩ := (accepted_packetImage_iff h events).mp ha
  have hvalid := hevents (events i) (List.mem_map.mpr ⟨i, List.mem_range.mpr hi, rfl⟩)
  have hread : readEvent (eventImage (events i)) = events i := by
    simpa using readEvent_eventImage (events i) []
  have hlen := eventImage_length (events i)
  rw [record_packetImage h events hi,
    decodeEvent_of_nonAliasing out (by rw [hlen]; exact hpl), decodeRecord_of_error, hread]
  rw [decodeRecordError_eq_none, hread, hvalid.session]
  exact ⟨hlen, hheader.session, hvalid⟩

/-- The WVE1 codec: for every header, event array and buffers, and every output that does not alias
the bytes it is decoded from,
- an `Encode` that fails changes no destination byte and sets `written` to zero, unless `written`
  itself shares memory with an argument (`writtenAliased_eq_false`);
- on a destination of sufficient size, `Encode` succeeds exactly when `Decode` accepts the bytes it
  has written, and exactly when `Decode` accepts the bytes that the header and events spell; then
  `Decode` returns the header, and `DecodeEvent` on each record its event;
- what `Decode` accepts is reproduced by encoding the decoded header and events. -/
theorem encode_decode_agree :
    (∀ (pl : Placement) (h : Header) (events : ℕ → Event) (dst : Bytes) (written : ℕ),
      (encode pl h events dst written).error ≠ .none →
        (encode pl h events dst written).dst = dst ∧
          (writtenAliased pl h dst.length = false →
            (encode pl h events dst written).written = 0)) ∧
    (∀ (pl : Placement) (h : Header) (events : ℕ → Event) (dst : Bytes) (written : ℕ),
      pl.Sufficient h dst.length →
        (∀ (pl' : InPlacement) (out : View),
          pl'.NonAliasing sizeofView (encode pl h events dst written).bytes.length →
            ((encode pl h events dst written).error = .none ↔
              (decode pl' (encode pl h events dst written).bytes out).1 = .none)) ∧
        (∀ (pl' : InPlacement) (out : View),
          pl'.NonAliasing sizeofView (packetImage h events).length →
            ((encode pl h events dst written).error = .none ↔
              (decode pl' (packetImage h events) out).1 = .none)) ∧
        ((encode pl h events dst written).error = .none →
          (∀ (pl' : InPlacement) (out : View),
            pl'.NonAliasing sizeofView (encode pl h events dst written).bytes.length →
              (decode pl' (encode pl h events dst written).bytes out).2.header = h) ∧
          ∀ i < h.count.toNat, ∀ (pl' : InPlacement) (out : Event),
            pl'.NonAliasing sizeofEvent eventBytes →
              decodeEvent pl' (slice (headerBytes + i * eventBytes) eventBytes
                (encode pl h events dst written).bytes) out = (.none, events i))) ∧
    ∀ (pl' : InPlacement) (src : Bytes) (out : View), pl'.NonAliasing sizeofView src.length →
      (decode pl' src out).1 = .none → ∃ events : ℕ → Event,
        (∀ i < (decode pl' src out).2.header.count.toNat, ∀ (pl : InPlacement) (old : Event),
          pl.NonAliasing sizeofEvent eventBytes →
            decodeEvent pl (slice (headerBytes + i * eventBytes) eventBytes src) old =
              (.none, events i)) ∧
        ∀ (pl : Placement) (dst : Bytes) (written : ℕ),
          pl.Sufficient (decode pl' src out).2.header dst.length →
            encode pl (decode pl' src out).2.header events dst written =
              ⟨.none, src ++ dst.drop src.length, src.length⟩ := by
  refine ⟨fun pl h events dst written hfail => ?_, fun pl h events dst written hpl => ?_,
    fun pl' src out hpl' hacc => ?_⟩
  · by_cases ha : writtenAliased pl h dst.length = true
    · simp [encode, ha]
    -- The only way to succeed is to pass the tests, so a failure is one of them.
    have ha : writtenAliased pl h dst.length = false := by simpa using ha
    by_cases he : encodeError pl h events dst.length = .none
    · rw [encode_of_none ha he] at hfail
      contradiction
    · simp [encode_of_error ha he]
  · have himage : ∀ pl' out, pl'.NonAliasing sizeofView (packetImage h events).length →
        ((encode pl h events dst written).error = .none ↔
          (decode pl' (packetImage h events) out).1 = .none) := by
      intro pl' out hpl'
      rw [decode_of_nonAliasing out hpl', encode_error_eq_none_iff hpl]
      exact ⟨fun ha => by rw [decodePacket_of_accepted ha], accepted_of_decodePacket⟩
    refine ⟨fun pl' out hpl' => ?_, himage, fun hs => ⟨fun pl' out hpl' => ?_,
      fun i hi pl' out hpl' => ?_⟩⟩
    · by_cases hs : (encode pl h events dst written).error = .none
      · rw [encode_bytes_of_success hpl hs] at hpl' ⊢
        exact himage pl' out hpl'
      · -- A failed call has written nothing, and no packet is empty.
        have hnone : encodeError pl h events dst.length ≠ .none := fun he =>
          hs (by rw [encode_of_none (writtenAliased_eq_false hpl.toNonAliasing) he])
        have hempty : (encode pl h events dst written).bytes = [] := by
          rw [encode_of_error (writtenAliased_eq_false hpl.toNonAliasing) hnone]; simp [EncodeResult.bytes]
        rw [hempty] at hpl' ⊢
        rw [decode_of_nonAliasing out hpl']
        exact iff_of_false hs (by decide)
    · rw [encode_bytes_of_success hpl hs] at hpl' ⊢
      have hacc := (encode_error_eq_none_iff hpl).mp hs
      rw [decode_of_nonAliasing out hpl', decodePacket_of_accepted hacc]
      exact readHeader_headerImage h _
    · rw [encode_bytes_of_success hpl hs]
      exact decodeEvent_packetImage ((encode_error_eq_none_iff hpl).mp hs) hi out hpl'
  · rw [decode_of_nonAliasing out hpl'] at hacc ⊢
    have ha := accepted_of_decodePacket hacc
    have himage := packetImage_of_accepted ha
    rw [decodePacket_of_accepted ha]
    refine ⟨fun i => readEvent (recordAt (src.drop headerBytes) i), fun i hi pl old hpl => ?_,
      fun pl dst written hpl => ?_⟩
    · rw [← himage] at ha
      conv_lhs => rw [← himage]
      exact decodeEvent_packetImage ha hi old hpl
    · have hlen := packetImage_length (readHeader src)
        fun i => readEvent (recordAt (src.drop headerBytes) i)
      -- The decoded header is the one that the bytes spell.
      have hpl : pl.Sufficient (readHeader src) dst.length := hpl
      change encode pl (readHeader src) _ dst written = _
      have hs : (encode pl (readHeader src) (fun i => readEvent (recordAt (src.drop headerBytes) i))
          dst written).error = .none :=
        (encode_error_eq_none_iff hpl).mpr (himage.symm ▸ ha)
      rw [himage] at hlen
      rw [encode_dst_of_success hpl hs, himage, hlen]

/-- The codec at a packet of one event: it is encoded and decoded again, and a destination that is
too small is left alone. -/
theorem encode_decode_agree_one_event :
    let h : Header := { op := .data, count := 1, session := 9, ordinal := 2, capacity := 4 }
    let events : ℕ → Event := fun _ => { sequence := 1, session := 9 }
    let pl : Placement := ⟨2^64 - 1, 8, 0x1000, 0x2000, 0x3000, 0x4000⟩
    let pl' : InPlacement := ⟨2^64 - 1, 0x3000, 0x5000⟩
    (encode pl h events (List.replicate 472 0) 5).error = .none ∧
      (decode pl' (packetImage h events) {}).1 = .none ∧
      (∃ back : ℕ → Event, encode pl (decode pl' (packetImage h events) {}).2.header back
        (List.replicate 472 0) 5 = ⟨.none, packetImage h events, 472⟩) ∧
      (encode pl h events [7, 7, 7] 5).dst = [7, 7, 7] ∧
      (encode pl h events [7, 7, 7] 5).written = 0 := by
  intro h events pl pl'
  obtain ⟨hfail, hok, hback⟩ := encode_decode_agree
  have hpl : pl.Sufficient h (List.replicate 472 (0 : UInt8)).length := by
    rw [List.length_replicate]
    constructor
    · constructor <;> decide
    · decide
    · decide
    · decide
  have hlen : (packetImage h events).length = 472 :=
    (packetImage_length h events).trans (by decide)
  have hpl' : pl'.NonAliasing sizeofView (packetImage h events).length := by
    rw [hlen]
    constructor <;> decide
  have hs : (encode pl h events (List.replicate 472 0) 5).error = .none := by
    rw [encode_of_none (writtenAliased_eq_false hpl.toNonAliasing)]
    exact (encodeError_eq_none_iff hpl).mpr
      ⟨(encodeHeaderError_eq_none h).mp (by decide),
        (encodeEventsError_eq_none 9 _).mp (by decide)⟩
  have hd := ((hok pl h events _ 5 hpl).2.1 pl' {} hpl').mp hs
  have hheader : (decode pl' (packetImage h events) {}).2.header = h := by
    rw [decode_of_nonAliasing _ hpl',
      decodePacket_of_accepted (accepted_of_decodePacket (decode_of_nonAliasing _ hpl' ▸ hd))]
    exact readHeader_headerImage h _
  obtain ⟨back, -, hre⟩ := hback pl' _ {} hpl' hd
  refine ⟨hs, hd, ⟨back, ?_⟩, ?_⟩
  · rw [hre pl _ 5 (by rw [hheader]; exact hpl), hlen]
    rw [List.drop_of_length_le (by rw [List.length_replicate]), List.append_nil]
  · have herr : (encode pl h events [7, 7, 7] 5).error ≠ .none := by decide
    exact ⟨(hfail pl h events _ 5 herr).1, (hfail pl h events _ 5 herr).2 (by decide)⟩

end War3VK.RenderHost.Recorder
