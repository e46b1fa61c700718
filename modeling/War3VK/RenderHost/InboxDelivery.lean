import War3VK.RenderHost.InboxSpec

/-!
# From the inbox to the validator

The consumer of an inbox wraps each sample that it pops into an envelope, with transfers 1, 2, 3 and so
on, and a validator of the same scope accepts the envelopes.
-/

namespace War3VK.RenderHost.Envelope

open Lib Slots Inbox

/-! ## Decoding what was encoded -/

@[simp]
theorem envelopeMagic_length : envelopeMagic.length = 4 := by simp [envelopeMagic]

theorem headerImage_length (h : Header) (count : ℕ) : (headerImage h count).length = headerBytes := by
  simp [headerImage, headerBytes]

theorem readHeader_headerImage (h : Header) (count : ℕ) (rest : Bytes) :
    readHeader (headerImage h count ++ rest) = h := by
  obtain ⟨⟨⟨low, high⟩, map, device⟩, sourceFrame, attempt, transfer⟩ := h
  simp [readHeader, headerImage, getLe_append_left, getLe_append_right]

/-- The payloads that `encode` takes. -/
def Sized (payload : Bytes) : Prop := payload.length ≠ 0 ∧ payload.length ≤ maxPayloadBytes

theorem decode_headerImage {h : Header} {payload : Bytes} (hcheck : check h = .none)
    (hsize : Sized payload) : decode (some (headerImage h payload.length ++ payload)) =
      (.none, ⟨h, some payload, UInt32.ofNat payload.length⟩) := by
  obtain ⟨hpos, hle⟩ := hsize
  have hmax : maxPayloadBytes = 65456 := by decide
  rw [hmax] at hle
  have hslot : slotBytes.toNat = 65536 := by decide
  have hread := readHeader_headerImage h payload.length payload
  have hlen : (headerImage h payload.length ++ payload).length = 80 + payload.length := by
    rw [List.length_append, headerImage_length]
    rfl
  have hmagic : slice 0 4 (headerImage h payload.length ++ payload) = envelopeMagic := by
    simp [headerImage, slice_append_left]
  have hfields : getLe UInt16 4 (headerImage h payload.length ++ payload) = 1 ∧
      getLe UInt16 6 (headerImage h payload.length ++ payload) = 0 ∧
      getLe UInt32 8 (headerImage h payload.length ++ payload) = UInt32.ofNat headerBytes ∧
      getLe UInt32 12 (headerImage h payload.length ++ payload) = 0 ∧
      getLe UInt32 16 (headerImage h payload.length ++ payload) =
        UInt32.ofNat (headerBytes + payload.length) ∧
      getLe UInt32 20 (headerImage h payload.length ++ payload) = UInt32.ofNat payload.length := by
    simp [headerImage, getLe_append_left, getLe_append_right]
  obtain ⟨hmajor, hminor, hheader, hflags, hcount, hbytes⟩ := hfields
  have herror : decodeError (headerImage h payload.length ++ payload) = .none := by
    unfold decodeError
    dsimp only
    apply firstError_of_forall
    simp only [List.forall_mem_cons, decide_eq_false_iff_not, hlen, hmagic, hmajor, hminor, hheader,
      hflags, hcount, hbytes, hread, hcheck, hslot, hmax, headerBytes, UInt32.toNat_ofNat']
    refine ⟨by omega, by simp, by simp, by simp, by simp, by omega, by simp, by simp⟩
  rw [decode, if_neg (not_not.mpr herror), hread, hbytes]
  rw [List.drop_left' (headerImage_length h _)]

/-- `encode` succeeds on a checked header and a payload of good size, when its buffers are there, do
not overlap and have room, and what it writes is the header and the payload. -/
theorem encode_of_checked {pl : Placement} {h : Header} {payload out : Bytes}
    (hcheck : check h = .none) (hsize : Sized payload) (hnull : pl.payload ≠ 0 ∧ pl.out ≠ 0)
    (hroom : headerBytes + payload.length ≤ out.length)
    (hapart : overlap pl.uintptrMax pl.payload payload.length pl.out
      (headerBytes + payload.length) = false) :
    (encode pl h payload out).error = .none ∧
      (encode pl h payload out).out.take (encode pl h payload out).written =
        headerImage h payload.length ++ payload := by
  obtain ⟨hpos, hle⟩ := hsize
  have herror : encodeError pl h payload out = .none := by
    apply firstError_of_forall
    simp only [List.forall_mem_cons, decide_eq_false_iff_not, hcheck, hapart]
    refine ⟨by simp [hnull], by omega, by omega, by simp, trivial, by simp⟩
  rw [encode, if_neg (not_not.mpr herror)]
  refine ⟨rfl, ?_⟩
  dsimp only
  rw [List.take_left']
  rw [List.length_append, headerImage_length]

/-- What `accept` asks of an envelope of the validator's scope, and of its key. -/
structure Acceptable (v : Validator) (key : Key) (h : Header) (count : ℕ) : Prop where
  fault : v.progress.fault = .none
  scope : h.scope = v.scope
  connection : key.connection = v.scope.connection ∧ key.map = v.scope.map ∧
    key.device = v.scope.device
  slot : key.generation ≠ 0 ∧ key.slot.toNat < slotCount
  lease : key.bytes.toNat = count ∧ key.frame = h.transfer
  limits : v.progress.transfer < v.limits.transfer ∧ h.attempt ≤ v.limits.attempt.toUInt64
  next : h.transfer = v.progress.transfer + 1
  attempt : v.progress.attempt < h.attempt
  frame : v.progress.sourceFrame ≤ h.sourceFrame

theorem accept_of_acceptable {v : Validator} {key : Key} {h : Header} {payload : Bytes}
    (hcheck : check h = .none) (hsize : Sized payload)
    (ha : Acceptable v key h (headerBytes + payload.length)) :
    accept key (some (headerImage h payload.length ++ payload)) v =
      (.none, ⟨h, some payload, UInt32.ofNat payload.length⟩,
        { v with progress := ⟨h.sourceFrame, h.attempt, h.transfer, .none⟩ }) := by
  have hlen : (headerImage h payload.length ++ payload).length = headerBytes + payload.length := by
    rw [List.length_append, headerImage_length]
  have herror : acceptError v key (headerBytes + payload.length) h = .none := by
    apply firstError_of_forall
    obtain ⟨-, hscope, ⟨hc, hm, hd⟩, ⟨hg, hs⟩, ⟨hb, hf⟩, ⟨ht, hl⟩, hn, hat, hfr⟩ := ha
    simp only [List.forall_mem_cons, decide_eq_false_iff_not, hscope, hc, hm, hd, hb, hf, hn]
    refine ⟨by simp, by simp [hg, hs], ?_, ?_, by simp⟩
    · simpa using ⟨ht, hl⟩
    · simpa using ⟨hat, hfr⟩
  unfold accept
  rw [if_neg (not_not.mpr ha.fault), decode_headerImage hcheck hsize]
  dsimp only [Option.getD_some]
  rw [hlen, if_neg (not_not.mpr herror)]

/-! ## Deliveries -/

def wrap (sample : Sample) (transfer : ℕ) : Header where
  scope := sample.scope
  sourceFrame := sample.frame
  attempt := UInt64.ofNat sample.ordinal
  transfer := UInt64.ofNat transfer

structure Passage where
  placement : Placement
  out : Bytes
  key : Key

structure Delivery where
  /-- What `encode` returned. -/
  encoded : Error
  /-- What `accept` returned. -/
  accepted : Error
  view : View

def Delivery.payload (d : Delivery) : Bytes := (d.view.data.getD []).take d.view.bytes.toNat

def deliver (passage : ℕ → Passage) : ℕ → List Sample → Validator → List Delivery
  | _, [], _ => []
  | n, sample :: rest, v =>
    let p := passage n
    let encoded := encode p.placement (wrap sample (n + 1)) sample.data p.out
    let accepted := accept p.key (some (encoded.out.take encoded.written)) v
    ⟨encoded.error, accepted.1, accepted.2.1⟩ :: deliver passage (n + 1) rest accepted.2.2

/-- What the consumer promises of a transfer: buffers with room that do not overlap, and a key of the
scope whose frame is the transfer and whose bytes are the encoded size. -/
structure Passage.Fits (p : Passage) (scope : Scope) (n : ℕ) (sample : Sample) : Prop where
  null : p.placement.payload ≠ 0 ∧ p.placement.out ≠ 0
  room : headerBytes + sample.data.length ≤ p.out.length
  apart : overlap p.placement.uintptrMax p.placement.payload sample.data.length p.placement.out
    (headerBytes + sample.data.length) = false
  connection : p.key.connection = scope.connection ∧ p.key.map = scope.map ∧
    p.key.device = scope.device
  slot : p.key.generation ≠ 0 ∧ p.key.slot.toNat < slotCount
  lease : p.key.bytes.toNat = headerBytes + sample.data.length ∧
    p.key.frame = UInt64.ofNat (n + 1)

structure Wrappable (scope : Scope) (sample : Sample) : Prop where
  scope : sample.scope = scope ∧ scope.valid
  frame : sample.frame ≠ 0
  ordinal : 0 < sample.ordinal ∧ sample.ordinal < 2^32
  size : Sized sample.data

variable {scope : Scope}

theorem Wrappable.check {sample : Sample} (h : Wrappable scope sample) {n : ℕ} (hpos : 0 < n)
    (hn : n < 2^64) : Envelope.check (wrap sample n) = .none := by
  have hordinal := h.ordinal
  apply firstError_of_forall
  simp only [List.forall_mem_cons, decide_eq_false_iff_not, wrap, h.scope.1, h.scope.2]
  refine ⟨by simp, h.frame, ?_, ?_, by simp⟩
  · rw [not_or]
    constructor
    · rw [← UInt64.toNat_inj]
      simp
      omega
    · rw [gt_iff_lt, UInt64.lt_iff_toNat_lt]
      simp
      omega
  · rw [← UInt64.toNat_inj]
    simp
    omega

structure Delivered (sample : Sample) (d : Delivery) : Prop where
  encoded : d.encoded = .none
  accepted : d.accepted = .none
  payload : d.payload = sample.data
  attempt : d.view.header.attempt.toNat = sample.ordinal

variable {samples : List Sample}

/-- Samples of a scope with increasing numbers and frames that do not decrease are all delivered, to
a validator that has come as far as their numbers. -/
theorem deliver_all {passage : ℕ → Passage} {n : ℕ} {v : Validator}
    (hv : v.scope = scope ∧ v.limits = {} ∧ v.progress.fault = .none)
    (htransfer : v.progress.transfer = UInt64.ofNat n) (hn : n + samples.length < 2^32)
    (hsamples : ∀ x ∈ samples, Wrappable scope x ∧ v.progress.attempt.toNat < x.ordinal ∧
      v.progress.sourceFrame ≤ x.frame)
    (hsorted : samples.Pairwise fun x y => x.ordinal < y.ordinal ∧ x.frame ≤ y.frame)
    (hpassage : ∀ i x, samples[i]? = some x → (passage (n + i)).Fits scope (n + i) x) :
    List.Forall₂ Delivered samples (deliver passage n samples v) := by
  induction samples generalizing n v with
  | nil => exact List.Forall₂.nil
  | cons sample rest ih =>
    obtain ⟨hwrap, hattempt, hframe⟩ := hsamples sample List.mem_cons_self
    obtain ⟨hnull, hroom, hapart, hconn, hslot, hlease⟩ := hpassage 0 sample rfl
    simp only [List.length_cons, Nat.add_zero] at hn hnull hroom hapart hconn hslot hlease
    have hordinal := hwrap.ordinal
    have hcheck := hwrap.check (Nat.succ_pos n) (show n + 1 < 2^64 by omega)
    obtain ⟨hencoded, hbytes⟩ := encode_of_checked hcheck hwrap.size hnull hroom hapart
    have hacceptable : Acceptable v (passage n).key (wrap sample (n + 1))
        (headerBytes + sample.data.length) := by
      constructor
      · exact hv.2.2
      · exact hwrap.scope.1.trans hv.1.symm
      · rw [hv.1]
        exact hconn
      · exact hslot
      · exact hlease
      · rw [hv.2.1, htransfer, UInt64.lt_iff_toNat_lt, UInt64.le_iff_toNat_le]
        simp [wrap]
        omega
      · rw [htransfer]
        simp [wrap]
      · rw [UInt64.lt_iff_toNat_lt]
        simp [wrap]
        omega
      · exact hframe
    rw [deliver]
    rw [hbytes, accept_of_acceptable hcheck hwrap.size hacceptable]
    rw [List.pairwise_cons] at hsorted
    refine List.Forall₂.cons ⟨hencoded, rfl, ?_, ?_⟩ (ih ⟨hv.1, hv.2.1, rfl⟩ rfl (by omega) ?_
      hsorted.2 fun i x hx => ?_)
    · -- The payload is all that is left after the header.
      have hsize := hwrap.size.2
      have hmax : maxPayloadBytes = 65456 := by decide
      simp only [Delivery.payload, Option.getD_some]
      rw [List.take_of_length_le]
      rw [UInt32.toNat_ofNat']
      omega
    · simp [wrap]
      omega
    · intro x hx
      refine ⟨(hsamples x (List.mem_cons_of_mem _ hx)).1, ?_, (hsorted.1 x hx).2⟩
      have := (hsorted.1 x hx).1
      simp [wrap]
      omega
    · have := hpassage (i + 1) x hx
      rwa [Nat.add_comm i, ← Nat.add_assoc] at this

theorem deliver_new {passage : ℕ → Passage} (hlength : samples.length < 2^32)
    (hsamples : ∀ x ∈ samples, Wrappable scope x)
    (hsorted : samples.Pairwise fun x y => x.ordinal < y.ordinal ∧ x.frame ≤ y.frame)
    (hpassage : ∀ n x, samples[n]? = some x → (passage n).Fits scope n x) :
    List.Forall₂ Delivered samples (deliver passage 0 samples (.new scope {})) := by
  rcases samples.eq_nil_or_concat with hnil | ⟨rest, last, hlast⟩
  · rw [hnil]
    exact List.Forall₂.nil
  · have hvalid := (hsamples last (by simp [hlast])).scope.2
    have hfault : (Validator.new scope {}).progress.fault = .none := by
      simp [Validator.new, hvalid]
    refine deliver_all ⟨rfl, rfl, hfault⟩ rfl (by omega) (fun x hx => ⟨hsamples x hx, ?_, ?_⟩)
      hsorted fun i x hx => ?_
    · exact (hsamples x hx).ordinal.1
    · exact UInt64.zero_le
    · rw [Nat.zero_add]
      exact hpassage i x hx

theorem delivered_map {deliveries : List Delivery} (h : List.Forall₂ Delivered samples deliveries) :
    deliveries.map Delivery.payload = samples.map (fun x => x.data) ∧
      (deliveries.map fun d => d.view.header.attempt.toNat) = samples.map (fun x => x.ordinal) ∧
        ∀ d ∈ deliveries, d.encoded = .none ∧ d.accepted = .none := by
  induction h with
  | nil => exact ⟨rfl, rfl, fun _ hd => (nomatch hd)⟩
  | cons hd _ ih =>
    obtain ⟨hpayload, hattempt, hall⟩ := ih
    simp only [List.map_cons, hd.payload, hpayload, hd.attempt, hattempt, List.forall_mem_cons,
      hd.encoded, hd.accepted, and_self, true_and]
    exact hall

/-- The inbox of a scope, built with `InboxLimits`. -/
def inboxOf (scope : Scope) : Config := ⟨scope, inboxLimits⟩

theorem popped_wrappable {s : State} {results : List (PushCall × Result)} {popped : List Sample}
    (ha : Attempts (inboxOf scope) s results) (ht : Taken (inboxOf scope) s results popped) :
    (∀ y ∈ popped, Wrappable scope y) ∧ popped.length < 2^32 ∧
      popped.Pairwise fun x y => x.ordinal < y.ordinal ∧ x.frame ≤ y.frame := by
  have hattempted : s.attempted ≤ 2^32 - 1 := ha.le
  obtain ⟨hordinals, hbounds, hlength⟩ := ha.published
  have hsource : ∀ (p : ℕ) y, popped[p]? = some y →
      ∃ x, (published (inboxOf scope) results)[p]? = some x ∧ y.scope = scope ∧
        Same y.toSlot x.toSlot := ht.popped
  refine ⟨fun y hy => ?_, ?_, ?_⟩
  · obtain ⟨p, hp⟩ := List.mem_iff_getElem?.mp hy
    obtain ⟨x, hx, hscope, hsame⟩ := hsource p y hp
    have hmem := List.mem_of_getElem? hx
    obtain ⟨hfit, -, hvalid⟩ := ha.fits x hmem
    have hframe : y.frame = x.frame := hsame .frame (by simp [parts])
    have hordinal : y.ordinal = x.ordinal := hsame .ordinal (by simp [parts])
    have hbound := hbounds x hmem
    have hlen : y.data.length = x.bytes := by
      rw [hsame.data]
      simp [Slot.data]
    constructor
    · exact ⟨hscope, hvalid⟩
    · rw [hframe]
      exact hfit.frame
    · omega
    · exact ⟨by rw [hlen]; exact hfit.pos.ne', by rw [hlen]; exact hfit.le⟩
  · have hle : popped.length ≤ (published (inboxOf scope) results).length := by
      by_contra hlt
      have hlast := List.getElem?_eq_getElem (not_le.mp hlt)
      obtain ⟨x, hx, -⟩ := hsource _ _ hlast
      simp at hx
    omega
  · have hframes := ha.frames
    rw [List.pairwise_map] at hordinals
    rw [List.pairwise_iff_getElem] at hordinals hframes ⊢
    intro i j hi hj hij
    obtain ⟨x, hx, -, hsame⟩ := hsource i _ (List.getElem?_eq_getElem hi)
    obtain ⟨x', hx', -, hsame'⟩ := hsource j _ (List.getElem?_eq_getElem hj)
    obtain ⟨hi', rfl⟩ := List.getElem?_eq_some_iff.mp hx
    obtain ⟨hj', rfl⟩ := List.getElem?_eq_some_iff.mp hx'
    have hordinal := hsame .ordinal (by simp [parts])
    have hordinal' := hsame' .ordinal (by simp [parts])
    have hframe := hsame .frame (by simp [parts])
    have hframe' := hsame' .frame (by simp [parts])
    simp only [Agrees] at hordinal hordinal' hframe hframe'
    rw [hordinal, hordinal', hframe, hframe']
    exact ⟨hordinals i j hi' hj' hij, hframes i j hi' hj' hij⟩

theorem popped_below {cfg : Config} {s : State} {results : List (PushCall × Result)}
    {popped : List Sample} (ha : Attempts cfg s results) (ht : Taken cfg s results popped)
    {x y : Sample} (hx : x ∈ published cfg results) (hy : y ∈ popped) (hlt : x.ordinal < y.ordinal) :
    ∃ y' ∈ popped, y'.ordinal = x.ordinal := by
  obtain ⟨j, hj⟩ := List.mem_iff_getElem?.mp hx
  obtain ⟨p, hp⟩ := List.mem_iff_getElem?.mp hy
  obtain ⟨z, hz, -, hsame⟩ := ht.popped p y hp
  have hordinal : y.ordinal = z.ordinal := hsame .ordinal (by simp [parts])
  have hsorted := ha.published.1
  rw [List.pairwise_map, List.pairwise_iff_getElem] at hsorted
  obtain ⟨hj', rfl⟩ := List.getElem?_eq_some_iff.mp hj
  obtain ⟨hz', rfl⟩ := List.getElem?_eq_some_iff.mp hz
  have hjp : j < p := by
    rcases Nat.lt_trichotomy j p with h | rfl | h
    · exact h
    · omega
    · have := hsorted p j hz' hj' h
      omega
  have hpop := hjp.trans (List.getElem?_eq_some_iff.mp hp).1
  obtain ⟨x', hx', -, hsame'⟩ := ht.popped j _ (List.getElem?_eq_getElem hpop)
  rw [hj] at hx'
  cases hx'
  exact ⟨_, List.getElem_mem hpop, hsame' .ordinal (by simp [parts])⟩

/-- From the inbox to the validator, under every interleaving of the steps of the producer, the
consumer and the callers of `requestStop`. The consumer wraps the samples that it pops with transfers
1, 2, 3 and so on, and gives them to a fresh validator of the scope with a key of the transfer, whose
frame is the transfer and whose bytes are the encoded size. Then
- every sample is encoded and accepted;
- the payloads that are delivered are the first that were published, in order, and all of them when
  the queue is empty;
- the attempts that are seen increase, and one that is left out was full or invalid. -/
theorem inbox_delivers (scope : Scope) (actions : List Action) (passage : ℕ → Passage) :
    let s := run (step (inboxOf scope)) actions {}
    let past := history (step (inboxOf scope)) actions {}
    let published := published (inboxOf scope) (returnedCalls past)
    let popped := poppedSamples past
    let deliveries := deliver passage 0 popped (.new scope {})
    (∀ n sample, popped[n]? = some sample → (passage n).Fits scope n sample) →
    (∀ d ∈ deliveries, d.encoded = .none ∧ d.accepted = .none) ∧
    (deliveries.map Delivery.payload = (published.take popped.length).map (fun x => x.data) ∧
      (s.read = s.written → popped.length = published.length)) ∧
    (deliveries.map fun d => d.view.header.attempt).Pairwise (· < ·) ∧
    ∀ d ∈ deliveries, ∀ n, 0 < n → n < d.view.header.attempt.toNat →
      (∃ d' ∈ deliveries, d'.view.header.attempt.toNat = n) ∨
        ∃ c ∈ returnedCalls past, c.2 = ⟨.full, n⟩ ∨ c.2 = ⟨.invalid, n⟩ := by
  intro s past published popped deliveries hpassage
  obtain ⟨ha, hq, ht⟩ := sound_run (inboxOf scope) actions
  obtain ⟨hwrap, hlength, hsorted⟩ := popped_wrappable ha ht
  obtain ⟨hpayload, hattempt, hall⟩ := delivered_map (deliver_new hlength hwrap hsorted hpassage)
  refine ⟨hall, ⟨?_, fun hempty => ?_⟩, ?_, fun d hd n hpos hn => ?_⟩
  · rw [hpayload]
    exact ht.map_eq Slot.data fun _ _ => Same.data
  · rw [ht.length, hempty, hq.length]
  · have hordinals : (popped.map fun x => x.ordinal).Pairwise (· < ·) :=
      List.pairwise_map.mpr (hsorted.imp And.left)
    rw [← hattempt, List.pairwise_map] at hordinals
    exact List.pairwise_map.mpr (hordinals.imp UInt64.lt_iff_toNat_lt.mpr)
  · -- The number is that of a call that has returned, since it is below that of a popped sample.
    have hmem : d.view.header.attempt.toNat ∈ popped.map fun x => x.ordinal := by
      rw [← hattempt]
      exact List.mem_map_of_mem hd
    obtain ⟨y, hy, hyd⟩ := List.mem_map.mp hmem
    obtain ⟨p, hp⟩ := List.mem_iff_getElem?.mp hy
    obtain ⟨x, hx, -, hsame⟩ := ht.popped p y hp
    have hordinal : y.ordinal = x.ordinal := hsame .ordinal (by simp [parts])
    obtain ⟨c, hc, hcn, hout⟩ := ha.returned_below (List.mem_of_getElem? hx) hpos (by omega)
    rcases hout with hout | hout | hout
    · -- A sample that was published before a popped one has been popped as well.
      have hsample : sampleOf (inboxOf scope) c = some
          ⟨⟨c.1.frame, n, c.1.bytes, c.1.source.getD fun _ => 0⟩, scope⟩ := by
        rw [sampleOf, if_pos hout, hcn]
        rfl
      obtain ⟨y', hy', hyn⟩ := popped_below ha ht (List.mem_filterMap.mpr ⟨c, hc, hsample⟩) hy
        (show n < y.ordinal by omega)
      have hmem' : n ∈ popped.map fun x => x.ordinal := List.mem_map.mpr ⟨y', hy', hyn⟩
      rw [← hattempt] at hmem'
      exact .inl (List.mem_map.mp hmem')
    · exact .inr ⟨c, hc, .inl (by rw [← hout, ← hcn])⟩
    · exact .inr ⟨c, hc, .inr (by rw [← hout, ← hcn])⟩

/-- The way of two samples, one of which comes to nothing: the producer publishes a byte, is refused a
sample without a frame, and publishes a second byte. -/
theorem inbox_delivers_two_samples :
    let scope : Scope := ⟨⟨1, 2⟩, 3, 4⟩
    let push : UInt64 → UInt8 → List Action := fun frame byte =>
      .enter ⟨frame, some fun _ => byte, 1⟩ :: [.frame, .frame, .frame, .frame, .ordinal, .bytes,
        .byte 0, .frame].map .push
    let pop : List Action := [.frame, .frame, .ordinal, .bytes, .byte 0, .frame].map (.pop · {})
    let actions := push 5 7 ++ push 0 8 ++ push 6 9 ++ pop ++ pop
    let passage : ℕ → Passage := fun n =>
      ⟨⟨2^64 - 1, 4096, 8192⟩, List.replicate 81 0,
        { connection := ⟨1, 2⟩, map := 3, device := 4, frame := UInt64.ofNat (n + 1),
          generation := 1, bytes := 81 }⟩
    let past := history (step (inboxOf scope)) actions {}
    let deliveries := deliver passage 0 (poppedSamples past) (.new scope {})
    deliveries.map Delivery.payload = [[7], [9]] ∧
      (∀ d ∈ deliveries, d.encoded = .none ∧ d.accepted = .none) ∧
      (deliveries.map fun d => d.view.header.attempt).Pairwise (· < ·) := by
  intro scope push pop actions passage past deliveries
  have hsizes : (poppedSamples past).map (fun x => x.data.length) = [1, 1] := by decide +kernel
  have hfits : ∀ n sample, (poppedSamples past)[n]? = some sample →
      (passage n).Fits scope n sample := by
    intro n sample hn
    have hsize : sample.data.length = 1 := by
      have hmem : sample.data.length ∈ (poppedSamples past).map (fun x => x.data.length) :=
        List.mem_map_of_mem (List.mem_of_getElem? hn)
      simpa [hsizes] using hmem
    constructor
    · show (4096 : ℕ) ≠ 0 ∧ (8192 : ℕ) ≠ 0
      decide
    · rw [hsize, List.length_replicate]
      decide
    · rw [hsize]
      show overlap (2^64 - 1) 4096 1 8192 (headerBytes + 1) = false
      decide
    · exact ⟨rfl, rfl, rfl⟩
    · show (1 : UInt64) ≠ 0 ∧ (0 : UInt32).toNat < slotCount
      decide
    · rw [hsize]
      exact ⟨rfl, rfl⟩
  have hall := inbox_delivers scope actions passage hfits
  exact ⟨by decide +kernel, hall.1, hall.2.2.1⟩

end War3VK.RenderHost.Envelope
