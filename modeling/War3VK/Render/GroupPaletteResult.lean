import War3VK.Render.GroupPalette

/-!
# What the kernel reads and returns

The sizes of the groups are added in 32 bits. As long as a group ends inside the matrix indices, this is
the exact sum; a group whose exact end is past them is caught only if its end in 32 bits is past them
too. Behind such a group the kernel reads on (`kernel_reads_inside_iff`).
-/

namespace War3VK.Render.GroupPalette

variable {M : Type} {arith : Arithmetic M} {input : Input M}

/-! ## Groups -/

def Input.start (input : Input M) : ℕ → ℕ
  | 0 => 0
  | group + 1 => input.start group + (input.size group).toNat

/-- A group can be averaged: it is not empty, it ends inside the matrix indices, and all of its
indices name a matrix. -/
structure Input.Whole (input : Input M) (group : ℕ) : Prop where
  size : input.size group ≠ 0
  inside : input.start (group + 1) ≤ input.matrixIndexCount
  names : ∀ i, input.start group ≤ i → i < input.start (group + 1) → input.Names i

instance (group : ℕ) : Decidable (input.Whole group) :=
  decidable_of_iff (input.size group ≠ 0 ∧ input.start (group + 1) ≤ input.matrixIndexCount ∧
    ∀ i, input.start group ≤ i → i < input.start (group + 1) → input.Names i)
    ⟨fun h => ⟨h.1, h.2.1, h.2.2⟩, fun h => ⟨h.size, h.inside, h.names⟩⟩

/-- A group runs over the end of the matrix indices: its exact end is past them and its end in 32 bits
is not, and those of its indices that are there name matrices. -/
structure Input.Overruns (input : Input M) (group : ℕ) : Prop where
  start : input.start group ≤ input.matrixIndexCount
  past : input.matrixIndexCount < input.start (group + 1)
  hidden : input.start (group + 1) % 2 ^ 32 ≤ input.matrixIndexCount
  names : ∀ i, input.start group ≤ i → i < input.matrixIndexCount → input.Names i

def Input.groupSum (arith : Arithmetic M) (input : Input M) (group : ℕ) : M :=
  (List.range' (input.start group) (input.size group).toNat).foldl
    (fun accum i => arith.add accum (input.named arith i)) arith.zero

def Input.mean (arith : Arithmetic M) (input : Input M) (group : ℕ) : M :=
  if input.size group = 1 then input.groupSum arith group
  else arith.divide (input.groupSum arith group) (input.size group)

theorem start_mono (input : Input M) : Monotone input.start :=
  monotone_nat_of_le_succ fun _ => Nat.le_add_right _ _

theorem Admitted.prefixSums_eq (h : Admitted input) {n group : ℕ}
    (hn : group + n ≤ input.groupCount.toNat) :
    prefixSums input n group (UInt32.ofNat (input.start group)) =
      some ((List.range' group n).map fun g => UInt32.ofNat (input.start g),
        UInt32.ofNat (input.start (group + n))) := by
  induction n generalizing group with
  | zero => rfl
  | succ n ih =>
    have hnext : UInt32.ofNat (input.start group) + input.size group =
        UInt32.ofNat (input.start (group + 1)) := by
      rw [Input.start, UInt32.ofNat_add, UInt32.ofNat_toNat]
    rw [prefixSums, h.sizes_read (by omega), Option.bind_eq_bind, Option.bind_some, hnext,
      ih (by omega), Option.bind_eq_bind, Option.bind_some, Nat.add_right_comm]
    rfl

theorem toNat_place {groupBase : UInt32} {b k : ℕ} (hbase : groupBase.toNat = b)
    (hlt : b + k < 2 ^ 32) : (groupBase + UInt32.ofNat k).toNat = b + k := by
  rw [UInt32.toNat_add, UInt32.toNat_ofNat', hbase]
  omega

variable {groupBase : UInt32} {b n k : ℕ} {accum : M}

section

variable (h : Admitted input)
include h

theorem Admitted.sumGroup_of_names (hbase : groupBase.toNat = b) (hlt : b + k < 2 ^ 32)
    (hinside : b + k < input.matrixIndexCount) (hnames : input.Names (b + k)) :
    sumGroup arith input groupBase (n + 1) (UInt32.ofNat k) accum =
      sumGroup arith input groupBase n (UInt32.ofNat (k + 1))
        (arith.add accum (input.named arith (b + k))) := by
  have hread : input.poses.read (input.index (b + k)).toNat = some (input.pose arith _) :=
    h.poses_read hnames.lt
  rw [sumGroup, toNat_place hbase hlt, h.indices_read hinside, Option.bind_eq_bind,
    Option.bind_some, if_neg (by rw [hnames]; simp), hread, Option.bind_eq_bind,
    Option.bind_some, UInt32.ofNat_add]
  rfl

theorem Admitted.sumGroup_of_not_names (hbase : groupBase.toNat = b) (hlt : b + k < 2 ^ 32)
    (hinside : b + k < input.matrixIndexCount) (hnames : ¬input.Names (b + k)) :
    sumGroup arith input groupBase (n + 1) (UInt32.ofNat k) accum =
      some (.error (input.index (b + k))) := by
  rw [sumGroup, toNat_place hbase hlt, h.indices_read hinside, Option.bind_eq_bind,
    Option.bind_some, if_pos (by simpa [Input.Names] using hnames)]

theorem Admitted.sumGroup_ok (hbase : groupBase.toNat = b) (hlt : b + k + n ≤ 2 ^ 32)
    (hinside : b + k + n ≤ input.matrixIndexCount)
    (hnames : ∀ i, b + k ≤ i → i < b + k + n → input.Names i) :
    sumGroup arith input groupBase n (UInt32.ofNat k) accum = some (.ok ((List.range' (b + k) n).foldl
        (fun accum i => arith.add accum (input.named arith i)) accum)) := by
  induction n generalizing k accum with
  | zero => rfl
  | succ n ih =>
    rw [h.sumGroup_of_names hbase (by omega) (by omega) (hnames _ (Nat.le_refl _) (by omega)),
      ih (by omega) (by omega) fun i hi hi' => hnames i (by omega) (by omega)]
    rfl

theorem Admitted.sumGroup_error (hbase : groupBase.toNat = b) {bad : ℕ} (hbad : b + k ≤ bad)
    (hbad' : bad < b + k + n) (hlt : bad < 2 ^ 32) (hinside : bad < input.matrixIndexCount)
    (hnames : ¬input.Names bad) :
    ∃ matrixIndex, sumGroup arith input groupBase n (UInt32.ofNat k) accum = some (.error matrixIndex) := by
  induction n generalizing k accum with
  | zero => omega
  | succ n ih =>
    by_cases hhere : input.Names (b + k)
    · have hne : bad ≠ b + k := by
        rintro rfl
        exact hnames hhere
      rw [h.sumGroup_of_names hbase (by omega) (by omega) hhere]
      exact ih (by omega) (by omega)
    · exact ⟨_, h.sumGroup_of_not_names hbase (by omega) (by omega) hhere⟩

theorem Admitted.sumGroup_none (hbase : groupBase.toNat = b)
    (hcount : input.matrixIndexCount < 2 ^ 32) (hle : b + k ≤ input.matrixIndexCount)
    (hpast : input.matrixIndexCount < b + k + n)
    (hnames : ∀ i, b + k ≤ i → i < input.matrixIndexCount → input.Names i) :
    sumGroup arith input groupBase n (UInt32.ofNat k) accum = none := by
  induction n generalizing k accum with
  | zero => omega
  | succ n ih =>
    by_cases hend : b + k = input.matrixIndexCount
    · rw [sumGroup, toNat_place hbase (by omega), View.read_of_le (Nat.le_of_eq hend.symm)]
      rfl
    · rw [h.sumGroup_of_names hbase (by omega) (by omega) (hnames _ (Nat.le_refl _) (by omega))]
      exact ih (by omega) (by omega) fun i hi hi' => hnames i (by omega) hi'

theorem Admitted.averageGroups_cons {group : ℕ} (hgroup : group < input.groupCount.toNat)
    (hbase : groupBase.toNat = input.start group)
    (hle : input.start group ≤ input.matrixIndexCount)
    (hsmall : input.matrixIndexCount < 2 ^ 32 ∨ input.start (group + 1) < 2 ^ 32)
    (rest : List UInt32) (palette : List M) (usesAveraging : Bool) :
    (input.Whole group ∧ averageGroups arith input (groupBase :: rest) group palette usesAveraging =
      averageGroups arith input rest (group + 1) (palette.set group (input.mean arith group))
        (usesAveraging || input.size group > 1)) ∨
    (¬input.Whole group ∧ input.Overruns group ∧
      averageGroups arith input (groupBase :: rest) group palette usesAveraging = none) ∨
    (¬input.Whole group ∧ ¬input.Overruns group ∧ ∃ miss,
      averageGroups arith input (groupBase :: rest) group palette usesAveraging =
        some ⟨some miss, palette, usesAveraging⟩) := by
  have hstart : input.start (group + 1) = input.start group + (input.size group).toNat := rfl
  have hend : (groupBase + input.size group).toNat = input.start (group + 1) % 2 ^ 32 := by
    rw [UInt32.toNat_add, hbase, hstart]
  have hzero : (0 : UInt32) = UInt32.ofNat 0 := rfl
  by_cases hrejected : input.size group = 0 ∨ (groupBase + input.size group).toNat > input.matrixIndexCount
  · refine .inr (.inr ⟨fun hwhole => ?_, fun hover => ?_, ?_⟩)
    · rcases hrejected with hsize | hpast
      · exact hwhole.size hsize
      · have hinside := hwhole.inside
        have hmod := Nat.mod_le (input.start (group + 1)) (2 ^ 32)
        omega
    · rcases hrejected with hsize | hpast
      · have hpast := hover.past
        rw [hstart, hsize] at hpast
        exact absurd hpast (Nat.not_lt.mpr hle)
      · have hhidden := hover.hidden
        omega
    · refine ⟨(.invalidGroupTable, UInt32.ofNat group, 0xffffffff), ?_⟩
      rw [averageGroups, h.sizes_read hgroup, Option.bind_eq_bind, Option.bind_some, if_pos hrejected]
  -- A group that is not rejected goes as its sum does.
  have hok {accum : M} (hsum : sumGroup arith input groupBase (input.size group).toNat 0 arith.zero =
      some (.ok accum)) : averageGroups arith input (groupBase :: rest) group palette usesAveraging =
      averageGroups arith input rest (group + 1)
        (palette.set group (if input.size group = 1 then accum
          else arith.divide accum (input.size group))) (usesAveraging || input.size group > 1) := by
    rw [averageGroups, h.sizes_read hgroup, Option.bind_eq_bind, Option.bind_some, if_neg hrejected, hsum]
    rfl
  have herror {matrixIndex : UInt32}
      (hsum : sumGroup arith input groupBase (input.size group).toNat 0 arith.zero =
        some (.error matrixIndex)) :
      averageGroups arith input (groupBase :: rest) group palette usesAveraging =
        some ⟨some (.matrixIndexOutOfRange, UInt32.ofNat group, matrixIndex), palette, usesAveraging⟩ := by
    rw [averageGroups, h.sizes_read hgroup, Option.bind_eq_bind, Option.bind_some, if_neg hrejected, hsum]
    rfl
  obtain ⟨hsize, hhidden⟩ := not_or.mp hrejected
  rw [hend, gt_iff_lt, not_lt] at hhidden
  by_cases hinside : input.start (group + 1) ≤ input.matrixIndexCount
  · -- The group ends inside, so that all of its indices are read, up to one that names no matrix.
    have hlt : input.start (group + 1) ≤ 2 ^ 32 := by omega
    by_cases hnames : ∀ i, input.start group ≤ i → i < input.start (group + 1) → input.Names i
    · refine .inl ⟨⟨hsize, hinside, hnames⟩, ?_⟩
      refine hok ?_
      rw [hzero, h.sumGroup_ok hbase (by omega) (by omega)
        (fun i hi hi' => hnames i (by omega) (by omega))]
      rfl
    · refine .inr (.inr ⟨fun hwhole => hnames hwhole.names, fun hover => ?_, ?_⟩)
      · have hpast := hover.past
        omega
      · push Not at hnames
        obtain ⟨bad, hbad, hbad', hno⟩ := hnames
        obtain ⟨matrixIndex, hsum⟩ := @Admitted.sumGroup_error M arith input groupBase _
          (input.size group).toNat 0 arith.zero h hbase bad (by omega) (by omega) (by omega)
          (by omega) hno
        exact ⟨(.matrixIndexOutOfRange, UInt32.ofNat group, matrixIndex), herror (hzero ▸ hsum)⟩
  · -- It ends past them, which its end in 32 bits hides.
    have hcount : input.matrixIndexCount < 2 ^ 32 := by
      rcases hsmall with hcount | hlt
      · exact hcount
      · rw [Nat.mod_eq_of_lt hlt] at hhidden
        omega
    by_cases hnames : ∀ i, input.start group ≤ i → i < input.matrixIndexCount → input.Names i
    · refine .inr (.inl ⟨fun hwhole => hinside hwhole.inside,
        ⟨hle, Nat.not_le.mp hinside, hhidden, hnames⟩, ?_⟩)
      rw [averageGroups, h.sizes_read hgroup, Option.bind_eq_bind, Option.bind_some,
        if_neg hrejected, hzero, h.sumGroup_none hbase hcount (by omega) (by omega)
          (fun i hi hi' => hnames i (by omega) hi')]
      rfl
    · refine .inr (.inr ⟨fun hwhole => hinside hwhole.inside, fun hover => hnames hover.names, ?_⟩)
      push Not at hnames
      obtain ⟨bad, hbad, hbad', hno⟩ := hnames
      obtain ⟨matrixIndex, hsum⟩ := @Admitted.sumGroup_error M arith input groupBase _
        (input.size group).toNat 0 arith.zero h hbase bad (by omega) (by omega) (by omega)
        (by omega) hno
      exact ⟨(.matrixIndexOutOfRange, UInt32.ofNat group, matrixIndex), herror (hzero ▸ hsum)⟩

end

/-! ## Reads -/

/-- The kernel reads past the matrix indices: their count has 32 bits, the sum of all sizes in 32 bits
is not above it, and behind groups that are averaged comes one that runs over the end. -/
def Input.Overrun (input : Input M) : Prop :=
  input.matrixIndexCount < 2 ^ 32 ∧
    input.start input.groupCount.toNat % 2 ^ 32 ≤ input.matrixIndexCount ∧
      ∃ group < input.groupCount.toNat, input.Overruns group ∧ ∀ g < group, input.Whole g

section

variable (h : Admitted input)
include h

theorem Admitted.averageGroups_none_iff (hcount : input.matrixIndexCount < 2 ^ 32) {n group : ℕ}
    (hn : group + n ≤ input.groupCount.toNat) (hle : input.start group ≤ input.matrixIndexCount)
    (palette : List M) (usesAveraging : Bool) :
    averageGroups arith input ((List.range' group n).map fun g => UInt32.ofNat (input.start g)) group
        palette usesAveraging = none ↔
      ∃ g, group ≤ g ∧ g < group + n ∧ input.Overruns g ∧ ∀ g', group ≤ g' → g' < g → input.Whole g' := by
  induction n generalizing group palette usesAveraging with
  | zero =>
    refine iff_of_false (by simp [averageGroups]) ?_
    rintro ⟨g, hg, hg', -⟩
    omega
  | succ n ih =>
    rw [List.range'_succ, List.map_cons]
    have hbase : (UInt32.ofNat (input.start group)).toNat = input.start group := by
      rw [UInt32.toNat_ofNat', Nat.mod_eq_of_lt (by omega)]
    obtain ⟨hwhole, heq⟩ | ⟨-, hover, heq⟩ | ⟨hnot, hnotover, miss, heq⟩ :=
      h.averageGroups_cons (by omega) hbase hle (.inl hcount)
        ((List.range' (group + 1) n).map fun g => UInt32.ofNat (input.start g)) palette usesAveraging
    · rw [heq, ih (by omega) hwhole.inside]
      constructor
      · rintro ⟨g, hg, hg', hover, hbefore⟩
        refine ⟨g, by omega, by omega, hover, fun g' hg' hlt => ?_⟩
        rcases Nat.eq_or_lt_of_le hg' with rfl | hlt'
        · exact hwhole
        · exact hbefore g' hlt' hlt
      · rintro ⟨g, hg, hg', hover, hbefore⟩
        have hne : group ≠ g := by
          rintro rfl
          exact absurd hwhole.inside (Nat.not_le.mpr hover.past)
        exact ⟨g, by omega, by omega, hover, fun g' hg' hlt => hbefore g' (by omega) hlt⟩
    · exact iff_of_true heq ⟨group, Nat.le_refl _, by omega, hover, fun g' _ _ => by omega⟩
    · rw [heq]
      refine iff_of_false (by simp) ?_
      rintro ⟨g, hg, hg', hover, hbefore⟩
      rcases Nat.eq_or_lt_of_le hg with rfl | hlt
      · exact hnotover hover
      · exact hnot (hbefore group (Nat.le_refl _) hlt)

theorem Admitted.sumGroup_isSome (hcount : 2 ^ 32 ≤ input.matrixIndexCount) (n : ℕ) (i : UInt32)
    (accum : M) : (sumGroup arith input groupBase n i accum).isSome := by
  induction n generalizing i accum with
  | zero => rfl
  | succ n ih =>
    have hlt := (groupBase + i).toNat_lt
    rw [sumGroup, h.indices_read (by omega), Option.bind_eq_bind, Option.bind_some]
    by_cases hnames : input.Names (groupBase + i).toNat
    · have hread : input.poses.read (input.index (groupBase + i).toNat).toNat =
        some (input.pose arith _) := h.poses_read hnames.lt
      rw [if_neg (by rw [hnames]; simp), hread, Option.bind_eq_bind, Option.bind_some]
      exact ih _ _
    · rw [if_pos (by simpa [Input.Names] using hnames)]
      rfl

theorem Admitted.averageGroups_isSome (hcount : 2 ^ 32 ≤ input.matrixIndexCount)
    (prefixes : List UInt32) {group : ℕ}
    (hgroup : group + prefixes.length ≤ input.groupCount.toNat) (palette : List M)
    (usesAveraging : Bool) :
    (averageGroups arith input prefixes group palette usesAveraging).isSome := by
  induction prefixes generalizing group palette usesAveraging with
  | nil => rfl
  | cons groupBase rest ih =>
    rw [List.length_cons] at hgroup
    rw [averageGroups, h.sizes_read (by omega), Option.bind_eq_bind, Option.bind_some]
    split
    · rfl
    obtain ⟨sum, hsum⟩ := Option.isSome_iff_exists.mp
      (@Admitted.sumGroup_isSome M arith input groupBase h hcount (input.size group).toNat 0
        arith.zero)
    rw [hsum, Option.bind_eq_bind, Option.bind_some]
    cases sum with
    | error matrixIndex => rfl
    | ok accum => exact ih (by omega) _ _

theorem Admitted.findBadSlot_eq {n i : ℕ} (hi : i + n ≤ input.vertexGroupSlotCount) :
    ∃ result, findBadSlot input n i = some result ∧
      (result = none ↔ ∀ k, i ≤ k → k < i + n → input.slot k < input.groupCount.toNat) := by
  induction n generalizing i with
  | zero => exact ⟨none, rfl, iff_of_true rfl fun k hk hk' => by omega⟩
  | succ n ih =>
    obtain ⟨groupSlot, hread, hslot⟩ := h.slots_read (show i < input.vertexGroupSlotCount by omega)
    rw [findBadSlot, hread, Option.bind_eq_bind, Option.bind_some, hslot]
    by_cases hbad : input.slot i ≥ input.groupCount.toNat
    · refine ⟨some groupSlot, if_pos hbad, iff_of_false (by simp) fun hall => ?_⟩
      exact absurd (hall i (Nat.le_refl _) (by omega)) (Nat.not_lt.mpr hbad)
    · obtain ⟨result, hresult, hiff⟩ := ih (show i + 1 + n ≤ input.vertexGroupSlotCount by omega)
      refine ⟨result, (if_neg hbad).trans hresult, hiff.trans ⟨fun hall k hk hk' => ?_,
        fun hall k hk hk' => hall k (by omega) (by omega)⟩⟩
      rcases Nat.eq_or_lt_of_le hk with rfl | hlt
      · exact Nat.not_le.mp hbad
      · exact hall k hlt (by omega)

theorem Admitted.prefixSums_all :
    prefixSums input input.groupCount.toNat 0 0 =
      some ((List.range' 0 input.groupCount.toNat).map fun g => UInt32.ofNat (input.start g),
        UInt32.ofNat (input.start input.groupCount.toNat)) := by
  have hsums := @Admitted.prefixSums_eq M input h input.groupCount.toNat 0 (by omega)
  rw [Nat.zero_add] at hsums
  exact hsums

theorem Admitted.buildGroups_none_iff : buildGroups arith input = none ↔ input.Overrun := by
  unfold buildGroups Input.Overrun
  rw [h.prefixSums_all, Option.bind_eq_bind, Option.bind_some, UInt32.toNat_ofNat']
  by_cases htotal : input.start input.groupCount.toNat % 2 ^ 32 ≤ input.matrixIndexCount
  · rw [if_neg (Nat.not_lt.mpr htotal)]
    have hloop : averageGroups arith input
        ((List.range' 0 input.groupCount.toNat).map fun g => UInt32.ofNat (input.start g)) 0
          (resize input.groupCount.toNat arith.identity []) false = none ↔
        input.matrixIndexCount < 2 ^ 32 ∧ ∃ group < input.groupCount.toNat, input.Overruns group ∧
          ∀ g < group, input.Whole g := by
      by_cases hcount : input.matrixIndexCount < 2 ^ 32
      · rw [h.averageGroups_none_iff hcount (by omega) (Nat.zero_le _)]
        simp only [Nat.zero_le, true_and, Nat.zero_add, true_imp_iff, hcount]
      · have hsome := @Admitted.averageGroups_isSome M arith input h (by omega)
          ((List.range' 0 input.groupCount.toNat).map fun g => UInt32.ofNat (input.start g)) 0
          (by simp) (resize input.groupCount.toNat arith.identity []) false
        refine iff_of_false (fun hnone => ?_) fun hand => hcount hand.1
        rw [hnone] at hsome
        cases hsome
    simp only [htotal, true_and]
    rw [← hloop]
    cases averageGroups arith input
        ((List.range' 0 input.groupCount.toNat).map fun g => UInt32.ofNat (input.start g)) 0
          (resize input.groupCount.toNat arith.identity []) false with
    | none => exact iff_of_true rfl rfl
    | some averages =>
      refine iff_of_false ?_ (by simp)
      rw [Option.bind_eq_bind, Option.bind_some]
      split
      · simp
      · obtain ⟨result, hresult, -⟩ := @Admitted.findBadSlot_eq M input h
          input.vertexGroupSlotCount 0 (by omega)
        rw [hresult, Option.bind_eq_bind, Option.bind_some]
        cases result with
        | none => simp
        | some groupSlot => simp
  · rw [if_pos (Nat.not_le.mp htotal)]
    exact iff_of_false (by simp) fun hand => htotal hand.2.1

theorem Admitted.fallBack_eq (fallbackSet : FallbackSet) (averages : Averages M) (detail : Detail) :
    ∃ result, fallBack arith input fallbackSet input.scan averages detail = some result ∧
      (result.ok = true ↔ (input.firstFallback arith fallbackSet).isSome) ∧
      (result.ok = true → input.firstFallback arith fallbackSet = some result.palette) ∧
      result.usesAveraging = averages.usesAveraging := by
  have hyields := @Admitted.tryFallbacks_yields M arith input h fallbackSet averages.palette
  unfold fallBack
  cases hfirst : input.firstFallback arith fallbackSet with
  | some palette =>
    rw [hfirst] at hyields
    have heq : tryFallbacks arith input fallbackSet input.scan averages.palette =
      some (true, palette) := hyields
    rw [heq]
    exact ⟨_, rfl, iff_of_true rfl rfl, fun _ => rfl, rfl⟩
  | none =>
    rw [hfirst] at hyields
    obtain ⟨left, heq⟩ := hyields
    rw [heq]
    exact ⟨_, rfl, iff_of_false (by simp) (by simp), fun hok => by simp at hok, rfl⟩

theorem Admitted.build_none_iff (fallbackSet : FallbackSet) :
    build arith input fallbackSet = none ↔ input.Overrun := by
  unfold build
  rw [h.scanSlots_all, Option.bind_eq_bind, Option.bind_some]
  by_cases hgroups : input.groupCount = 0
  · obtain ⟨result, hresult, -⟩ := h.fallBack_eq fallbackSet ⟨none, [], false⟩
      (noteMiss input input.scan.maxVertexGroupSlot (.none, 0xffffffff, 0xffffffff))
    rw [if_pos hgroups, hresult]
    refine iff_of_false (by simp) ?_
    rintro ⟨-, -, group, hgroup, -⟩
    rw [hgroups] at hgroup
    exact absurd hgroup (Nat.not_lt_zero group)
  · rw [if_neg hgroups, ← @Admitted.buildGroups_none_iff M arith input h]
    cases hbuild : buildGroups arith input with
    | none => exact iff_of_true rfl rfl
    | some averages =>
      refine iff_of_false ?_ (by simp)
      rw [Option.bind_eq_bind, Option.bind_some]
      cases averages.miss with
      | none => simp
      | some miss =>
        obtain ⟨result, hresult, -⟩ := h.fallBack_eq fallbackSet averages
          (noteMiss input input.scan.maxVertexGroupSlot miss)
        dsimp only
        rw [hresult]
        simp

end

theorem kernel_cases (maxAddress : ℕ) (storage : Storage) (fallbackSet : FallbackSet) :
    (¬(classifyOutputPoseAlias input maxAddress storage = .nonOverlapping ∧ Admitted input) ∧
      ∃ result, tryBuildRuntimeGroupPaletteKernel arith input maxAddress storage fallbackSet =
        some result ∧ result.ok = false) ∨
    (classifyOutputPoseAlias input maxAddress storage = .nonOverlapping ∧ Admitted input ∧
      tryBuildRuntimeGroupPaletteKernel arith input maxAddress storage fallbackSet =
        build arith input fallbackSet) := by
  unfold tryBuildRuntimeGroupPaletteKernel
  by_cases halias : classifyOutputPoseAlias input maxAddress storage ≠ .nonOverlapping
  · rw [if_pos halias]
    exact .inl ⟨fun hand => halias hand.1, _, rfl, rfl⟩
  by_cases hpose : input.posePalette.isNone ∨ input.posePaletteSize = 0 ∨ input.poseMatrixCount = 0
  · rw [if_neg halias, if_pos hpose]
    refine .inl ⟨fun hand => ?_, _, rfl, rfl⟩
    rcases hpose with hnone | hsize | hcount
    · rw [Option.isNone_iff_eq_none] at hnone
      have hsome := hand.2.posePalette
      rw [hnone] at hsome
      cases hsome
    · exact hand.2.posePaletteSize hsize
    · exact hand.2.poseMatrixCount hcount
  by_cases hslots : input.vertexGroupIndices.isNone ∨ input.vertexGroupSlotCount = 0
  · rw [if_neg halias, if_neg hpose, if_pos hslots]
    refine .inl ⟨fun hand => ?_, _, rfl, rfl⟩
    rcases hslots with hnone | hcount
    · rw [Option.isNone_iff_eq_none] at hnone
      have hsome := hand.2.vertexGroupIndices
      rw [hnone] at hsome
      cases hsome
    · exact hand.2.vertexGroupSlotCount hcount
  by_cases hsizes : input.groupCount ≠ 0 ∧ input.matrixGroupSizes.isNone
  · rw [if_neg halias, if_neg hpose, if_neg hslots, if_pos hsizes]
    refine .inl ⟨fun hand => ?_, _, rfl, rfl⟩
    have hsome := hand.2.matrixGroupSizes hsizes.1
    rw [Option.isNone_iff_eq_none.mp hsizes.2] at hsome
    cases hsome
  by_cases hindices : input.matrixIndexCount ≠ 0 ∧ input.matrixIndices.isNone
  · rw [if_neg halias, if_neg hpose, if_neg hslots, if_neg hsizes, if_pos hindices]
    refine .inl ⟨fun hand => ?_, _, rfl, rfl⟩
    have hsome := hand.2.matrixIndices hindices.1
    rw [Option.isNone_iff_eq_none.mp hindices.2] at hsome
    cases hsome
  refine .inr ⟨not_not.mp halias, ?_, ?_⟩
  · simp only [not_or, Option.isNone_iff_eq_none, ← Option.isSome_iff_ne_none, not_and, ne_eq] at *
    exact ⟨hpose.1, hpose.2.1, hpose.2.2, hslots.1, hslots.2, hsizes, hindices⟩
  · rw [if_neg halias, if_neg hpose, if_neg hslots, if_neg hsizes, if_neg hindices]

/-- Every read of the kernel is inside its view, unless it passes its guards and a group runs over the
end of the matrix indices. -/
theorem kernel_reads_inside_iff (arith : Arithmetic M) (input : Input M) (maxAddress : ℕ)
    (storage : Storage) (fallbackSet : FallbackSet) :
    (tryBuildRuntimeGroupPaletteKernel arith input maxAddress storage fallbackSet).isSome ↔
      ¬(classifyOutputPoseAlias input maxAddress storage = .nonOverlapping ∧ Admitted input ∧
        input.Overrun) := by
  obtain ⟨hrejected, result, heq, -⟩ | ⟨halias, hadmitted, heq⟩ :=
    @kernel_cases M arith input maxAddress storage fallbackSet
  · rw [heq]
    exact iff_of_true rfl fun hand => hrejected ⟨hand.1, hand.2.1⟩
  · rw [heq, ← not_iff_not, not_not, Option.not_isSome_iff_eq_none,
      hadmitted.build_none_iff fallbackSet]
    exact ⟨fun hover => ⟨halias, hadmitted, hover⟩, fun hand => hand.2.2⟩

/-- Two groups of sizes 1 and `2 ^ 32 - 1` with one matrix index, one pose matrix and one slot. -/
def wrappingInput : Input ℕ where
  vertexGroupIndices := some fun _ => 0
  vertexGroupSlotCount := 1
  matrixGroupSizes := some fun group => if group = 0 then 1 else 0xffffffff
  groupCount := 2
  matrixIndices := some fun _ => 0
  matrixIndexCount := 1
  posePalette := some fun _ => 7
  poseAddress := 0
  posePaletteSize := 1
  poseMatrixCount := 1

/-- The second group of these makes the kernel read the matrix index behind the last. -/
theorem kernel_reads_outside :
    tryBuildRuntimeGroupPaletteKernel ⟨1, 0, (· + ·), fun sum count => sum / count.toNat⟩
      wrappingInput 0xffffffff ⟨0, 0⟩ .matrixAndPoseRemap = none := by
  decide +kernel

end War3VK.Render.GroupPalette

/-!
## What the kernel leaves in its outputs

Where the sizes of the groups do not sum past 32 bits, the palette is that of the grouped build or of
the first fallback that succeeds. The flag of averaging is not part of this: it stays set when the
grouped build is abandoned behind a group that it has averaged.
-/

namespace War3VK.Render.GroupPalette

variable {M : Type} {arith : Arithmetic M} {input : Input M}

def Input.grouped (arith : Arithmetic M) (input : Input M) : Option (List M) :=
  if input.groupCount ≠ 0 ∧ (∀ group < input.groupCount.toNat, input.Whole group) ∧
      ∀ slot ∈ input.slotList, slot < input.groupCount.toNat then
    some ((List.range input.groupCount.toNat).map (input.mean arith))
  else none

/-- The grouped build averages a group of at least two matrices, though it may be abandoned later. -/
def Input.Averaged (input : Input M) : Prop :=
  input.start input.groupCount.toNat ≤ input.matrixIndexCount ∧
    ∃ group < input.groupCount.toNat, 1 < input.size group ∧ ∀ g ≤ group, input.Whole g

/-- What a loop over groups comes to, from a group on: it is ended by a miss unless all groups can be
averaged, and has their means and the flag of those before the miss. -/
structure Averages.Of (arith : Arithmetic M) (input : Input M) (group n : ℕ) (palette : List M)
    (usesAveraging : Bool) (averages : Averages M) : Prop where
  /-- It is ended by a miss unless all groups can be averaged. -/
  miss : averages.miss = none ↔ ∀ g, group ≤ g → g < group + n → input.Whole g
  palette : averages.miss = none →
    averages.palette = palette.take group ++ (List.range' group n).map (input.mean arith)
  /-- It has the flag of a group of at least two matrices that was averaged. -/
  usesAveraging : averages.usesAveraging = true ↔ usesAveraging = true ∨
    ∃ g, group ≤ g ∧ g < group + n ∧ 1 < input.size g ∧
      ∀ g', group ≤ g' → g' ≤ g → input.Whole g'

theorem Admitted.averageGroups_of (h : Admitted input)
    (htotal : input.start input.groupCount.toNat < 2 ^ 32) {n group : ℕ}
    (hn : group + n ≤ input.groupCount.toNat) (hle : input.start group ≤ input.matrixIndexCount)
    (palette : List M) (hlength : palette.length = group + n) (usesAveraging : Bool) :
    ∃ averages, averageGroups arith input
        ((List.range' group n).map fun g => UInt32.ofNat (input.start g)) group palette usesAveraging =
          some averages ∧ averages.Of arith input group n palette usesAveraging := by
  induction n generalizing group palette usesAveraging with
  | zero =>
    refine ⟨⟨none, palette, usesAveraging⟩, rfl, ⟨?_, fun _ => ?_, ?_⟩⟩
    · exact iff_of_true rfl fun g hg hg' => by omega
    · rw [List.take_of_length_le (by omega)]
      exact (List.append_nil _).symm
    · refine ⟨.inl, fun hor => hor.elim id ?_⟩
      rintro ⟨g, hg, hg', -⟩
      omega
  | succ n ih =>
    rw [List.range'_succ, List.map_cons]
    have hstart : input.start group < 2 ^ 32 :=
      (start_mono input (show group ≤ input.groupCount.toNat by omega)).trans_lt htotal
    have hnext : input.start (group + 1) < 2 ^ 32 :=
      (start_mono input (show group + 1 ≤ input.groupCount.toNat by omega)).trans_lt htotal
    have hbase : (UInt32.ofNat (input.start group)).toNat = input.start group := by
      rw [UInt32.toNat_ofNat', Nat.mod_eq_of_lt hstart]
    obtain ⟨hwhole, heq⟩ | ⟨-, hover, -⟩ | ⟨hnot, -, miss, heq⟩ :=
      h.averageGroups_cons (by omega) hbase hle (.inr hnext)
        ((List.range' (group + 1) n).map fun g => UInt32.ofNat (input.start g)) palette usesAveraging
    · obtain ⟨averages, hrest, hmiss, hpalette, huses⟩ :=
        ih (by omega) hwhole.inside (palette.set group (input.mean arith group))
          (by rw [List.length_set]; omega) (usesAveraging || input.size group > 1)
      refine ⟨averages, heq.trans hrest, ⟨?_, fun hnone => ?_, ?_⟩⟩
      · rw [hmiss]
        refine ⟨fun hall g hg hg' => ?_, fun hall g hg hg' => hall g (by omega) (by omega)⟩
        rcases Nat.eq_or_lt_of_le hg with rfl | hlt
        · exact hwhole
        · exact hall g hlt (by omega)
      · have htake : (palette.set group (input.mean arith group)).take (group + 1) =
            palette.take group ++ [input.mean arith group] := by
          rw [List.take_succ, List.take_set_of_le (Nat.le_refl _), List.getElem?_set_self (by omega)]
          rfl
        rw [hpalette hnone, htake, List.append_assoc]
        rfl
      · rw [huses]
        simp only [Bool.or_eq_true, decide_eq_true_eq, gt_iff_lt]
        constructor
        · rintro ((huse | hsize) | ⟨g, hg, hg', hsize, hbefore⟩)
          · exact .inl huse
          · refine .inr ⟨group, Nat.le_refl _, by omega, hsize, fun g' hg' hle' => ?_⟩
            obtain rfl := Nat.le_antisymm hg' hle'
            exact hwhole
          · refine .inr ⟨g, by omega, by omega, hsize, fun g' hg' hle' => ?_⟩
            rcases Nat.eq_or_lt_of_le hg' with rfl | hlt
            · exact hwhole
            · exact hbefore g' hlt hle'
        · rintro (huse | ⟨g, hg, hg', hsize, hbefore⟩)
          · exact .inl (.inl huse)
          · rcases Nat.eq_or_lt_of_le hg with rfl | hlt
            · exact .inl (.inr hsize)
            · exact .inr ⟨g, hlt, by omega, hsize, fun g' hg' hle' => hbefore g' (by omega) hle'⟩
    · have hpast := hover.past
      have hhidden := hover.hidden
      rw [Nat.mod_eq_of_lt hnext] at hhidden
      omega
    · refine ⟨_, heq, ⟨?_, fun hnone => ?_, ?_⟩⟩
      · exact iff_of_false (by simp) fun hall => hnot (hall group (Nat.le_refl _) (by omega))
      · simp at hnone
      · refine ⟨.inl, fun hor => hor.elim id ?_⟩
        rintro ⟨g, hg, hg', -, hbefore⟩
        exact absurd (hbefore group (Nat.le_refl _) hg) hnot

theorem Admitted.buildGroups_eq (h : Admitted input) (hgroups : input.groupCount ≠ 0)
    (htotal : input.start input.groupCount.toNat < 2 ^ 32) :
    ∃ averages, buildGroups arith input = some averages ∧
      input.grouped arith = (if averages.miss = none then some averages.palette else none) ∧
        (averages.usesAveraging = true ↔ input.Averaged) := by
  unfold buildGroups Input.grouped Input.Averaged
  rw [h.prefixSums_all, Option.bind_eq_bind, Option.bind_some, UInt32.toNat_ofNat', Nat.mod_eq_of_lt htotal]
  have hpositive : 0 < input.groupCount.toNat := by
    rw [Nat.pos_iff_ne_zero]
    exact fun hzero => hgroups (UInt32.toNat_inj.mp hzero)
  by_cases hinside : input.start input.groupCount.toNat ≤ input.matrixIndexCount
  · rw [if_neg (Nat.not_lt.mpr hinside)]
    obtain ⟨averages, hloop, hmiss, hpalette, huses⟩ :=
      @Admitted.averageGroups_of M arith input h htotal input.groupCount.toNat 0 (by omega)
        (Nat.zero_le _) (resize input.groupCount.toNat arith.identity [])
        (by rw [length_resize, Nat.zero_add]) false
    simp only [Nat.zero_le, true_imp_iff, Nat.zero_add, true_and, Bool.false_eq_true, false_or]
      at hmiss huses
    rw [hloop, Option.bind_eq_bind, Option.bind_some]
    by_cases hnone : averages.miss = none
    · obtain ⟨result, hresult, hslots⟩ := @Admitted.findBadSlot_eq M input h
        input.vertexGroupSlotCount 0 (by omega)
      rw [if_neg (by rw [hnone]; simp), hresult, Option.bind_eq_bind, Option.bind_some]
      have hslots : result = none ↔ ∀ slot ∈ input.slotList, slot < input.groupCount.toNat := by
        rw [hslots]
        simp [Input.slotList]
      cases result with
      | none =>
        refine ⟨averages, rfl, ?_, ?_⟩
        · rw [if_pos hnone, if_pos ⟨hgroups, hmiss.mp hnone, hslots.mp rfl⟩, hpalette hnone,
            List.take_zero, List.nil_append, List.range_eq_range']
        · rw [huses]
          simp only [hinside, true_and]
      | some groupSlot =>
        refine ⟨_, rfl, ?_, ?_⟩
        · have hno : ¬∀ slot ∈ input.slotList, slot < input.groupCount.toNat := fun hall =>
            absurd (hslots.mpr hall) (by simp)
          rw [if_neg fun hand => hno hand.2.2, if_neg (by simp)]
        · rw [huses]
          simp only [hinside, true_and]
    · rw [if_pos (by simpa [Option.isSome_iff_ne_none] using hnone)]
      refine ⟨averages, rfl, ?_, ?_⟩
      · rw [if_neg hnone, if_neg]
        rintro ⟨-, hall, -⟩
        exact hnone (hmiss.mpr hall)
      · rw [huses]
        simp only [hinside, true_and]
  · rw [if_pos (Nat.not_le.mp hinside)]
    refine ⟨_, rfl, ?_, ?_⟩
    · have hno : ¬∀ group < input.groupCount.toNat, input.Whole group := fun hall => by
        have hlast := (hall (input.groupCount.toNat - 1) (by omega)).inside
        rw [Nat.sub_add_cancel hpositive] at hlast
        exact hinside hlast
      rw [if_neg fun hand => hno hand.2.1, if_neg (by simp)]
    · exact iff_of_false (by simp) fun hand => hinside hand.1

theorem slot_lt_length {fallbackSet : FallbackSet} {palette : List M}
    (h : (input.grouped arith).or (input.firstFallback arith fallbackSet) = some palette) :
    ∀ slot ∈ input.slotList, slot < palette.length := by
  have hmax : ∀ slot ∈ input.slotList, slot < input.scan.maxVertexGroupSlot + 1 := fun slot hslot =>
    Nat.lt_succ_of_le ((scanned_scan input).le_max slot hslot)
  suffices hlength : (∀ slot ∈ input.slotList, slot < palette.length) ∨
      input.scan.maxVertexGroupSlot + 1 ≤ palette.length from
    hlength.elim id fun hle slot hslot => (hmax slot hslot).trans_le hle
  rcases Option.or_eq_some_iff.mp h with hgrouped | ⟨-, hfallback⟩
  · unfold Input.grouped at hgrouped
    split_ifs at hgrouped with hall
    rw [← Option.some.inj hgrouped, List.length_map, List.length_range]
    exact .inl hall.2.2
  · obtain ⟨fallback, hmem, hsome⟩ := List.exists_of_findSome?_eq_some hfallback
    rw [id_eq] at hsome
    rw [hsome] at hmem
    refine .inr ?_
    simp only [List.mem_cons, List.not_mem_nil, or_false] at hmem
    rcases hmem with hmem | hmem | hmem | hmem | hmem
    · unfold Input.directMatrixRemap at hmem
      split_ifs at hmem
      rw [Option.some.inj hmem, List.length_map, List.length_range]
    · unfold Input.sparseMatrixRemap placed at hmem
      split_ifs at hmem
      rw [Option.some.inj hmem, List.length_map, List.length_range]
    · unfold Input.directPosePalette at hmem
      split_ifs at hmem
      rw [Option.some.inj hmem, List.length_map, List.length_range]
    · unfold Input.sparsePosePalette placed at hmem
      split_ifs at hmem
      rw [Option.some.inj hmem, List.length_map, List.length_range]
    · unfold Input.uniformPosePalette at hmem
      split_ifs at hmem
      rw [Option.some.inj hmem, List.length_replicate]
      exact Nat.le_max_left _ _

structure Result.Of (arith : Arithmetic M) (input : Input M) (fallbackSet : FallbackSet)
    (result : Result M) : Prop where
  /-- It succeeds exactly when the grouped build or the first of the fallbacks does. -/
  ok : result.ok = true ↔
    (input.grouped arith).isSome ∨ (input.firstFallback arith fallbackSet).isSome
  /-- The palette is that of the grouped build, or else of the first fallback that succeeds. -/
  palette : result.ok = true →
    some result.palette = (input.grouped arith).or (input.firstFallback arith fallbackSet)
  slots : result.ok = true → ∀ slot ∈ input.slotList, slot < result.palette.length
  /-- The flag tells that the grouped build has averaged a group of at least two matrices. -/
  usesAveraging : result.usesAveraging = true ↔ input.Averaged

theorem Result.of_palette {fallbackSet : FallbackSet} {result : Result M}
    (hok : result.ok = true ↔ ((input.grouped arith).or (input.firstFallback arith fallbackSet)).isSome)
    (hpalette : result.ok = true →
      (input.grouped arith).or (input.firstFallback arith fallbackSet) = some result.palette)
    (huses : result.usesAveraging = true ↔ input.Averaged) :
    result.Of arith input fallbackSet :=
  ⟨by rw [hok, Option.isSome_or, Bool.or_eq_true], fun h => (hpalette h).symm,
    fun h => slot_lt_length (hpalette h), huses⟩

/-- For an input whose output does not alias its poses and whose sizes do not sum past 32 bits, the
kernel rejects what does not pass its guards, and otherwise the result is that of the grouped build or
of the first fallback that succeeds. -/
theorem kernel_result (arith : Arithmetic M) (input : Input M) (maxAddress : ℕ) (storage : Storage)
    (fallbackSet : FallbackSet)
    (halias : classifyOutputPoseAlias input maxAddress storage = .nonOverlapping)
    (htotal : input.start input.groupCount.toNat < 2 ^ 32) :
    ∃ result, tryBuildRuntimeGroupPaletteKernel arith input maxAddress storage fallbackSet =
        some result ∧ (¬Admitted input → result.ok = false) ∧
      (Admitted input → result.Of arith input fallbackSet) := by
  obtain ⟨hrejected, result, heq, hok⟩ | ⟨-, hadmitted, heq⟩ :=
    @kernel_cases M arith input maxAddress storage fallbackSet
  · exact ⟨result, heq, fun _ => hok, fun hadmitted => absurd ⟨halias, hadmitted⟩ hrejected⟩
  suffices hbuild : ∃ result, build arith input fallbackSet = some result ∧
      result.Of arith input fallbackSet by
    obtain ⟨result, hresult, hof⟩ := hbuild
    exact ⟨result, heq.trans hresult, fun hnot => absurd hadmitted hnot, fun _ => hof⟩
  unfold build
  rw [hadmitted.scanSlots_all, Option.bind_eq_bind, Option.bind_some]
  by_cases hgroups : input.groupCount = 0
  · have hgrouped : input.grouped arith = none := if_neg fun hand => hand.1 hgroups
    obtain ⟨result, hresult, hok, hpalette, huses⟩ := @Admitted.fallBack_eq M arith input hadmitted
      fallbackSet ⟨none, [], false⟩
      (noteMiss input input.scan.maxVertexGroupSlot (.none, 0xffffffff, 0xffffffff))
    rw [if_pos hgroups]
    refine ⟨result, hresult, Result.of_palette (by rw [hgrouped, Option.none_or]; exact hok)
      (by rw [hgrouped, Option.none_or]; exact hpalette) ?_⟩
    rw [huses]
    refine iff_of_false (by simp) ?_
    rintro ⟨-, group, hgroup, -⟩
    rw [hgroups] at hgroup
    exact absurd hgroup (Nat.not_lt_zero group)
  · obtain ⟨averages, hbuild, hgrouped, haveraged⟩ :=
      hadmitted.buildGroups_eq hgroups htotal
    rw [if_neg hgroups, hbuild, Option.bind_eq_bind, Option.bind_some]
    cases hmiss : averages.miss with
    | none =>
      rw [if_pos hmiss] at hgrouped
      refine ⟨_, rfl, Result.of_palette ?_ (fun _ => ?_) haveraged⟩
      · rw [hgrouped, Option.some_or]
        exact iff_of_true rfl rfl
      · rw [hgrouped, Option.some_or]
    | some miss =>
      rw [if_neg (by rw [hmiss]; simp)] at hgrouped
      obtain ⟨result, hresult, hok, hpalette, huses⟩ := @Admitted.fallBack_eq M arith input
        hadmitted fallbackSet averages (noteMiss input input.scan.maxVertexGroupSlot miss)
      refine ⟨result, hresult, Result.of_palette (by rw [hgrouped, Option.none_or]; exact hok)
        (by rw [hgrouped, Option.none_or]; exact hpalette) ?_⟩
      rw [huses]
      exact haveraged

def meanInput : Input ℕ where
  vertexGroupIndices := some fun slot => if slot = 0 then 0 else 1
  vertexGroupSlotCount := 2
  matrixGroupSizes := some fun group => if group = 0 then 2 else 1
  groupCount := 2
  matrixIndices := some fun i => if i = 2 then 1 else 0
  matrixIndexCount := 3
  posePalette := some fun i => 10 * (i + 1)
  poseAddress := 0
  posePaletteSize := 2
  poseMatrixCount := 2

def numbers : Arithmetic ℕ := ⟨1, 0, (· + ·), fun sum count => sum / count.toNat⟩

/-- The kernel has the means of these two groups. -/
theorem kernel_result_mean :
    ∃ result, tryBuildRuntimeGroupPaletteKernel numbers meanInput 0xffffffff ⟨0, 0⟩
        .matrixAndPoseRemap = some result ∧ (¬Admitted meanInput → result.ok = false) ∧
      (Admitted meanInput → result.Of numbers meanInput .matrixAndPoseRemap) :=
  kernel_result numbers meanInput 0xffffffff ⟨0, 0⟩ .matrixAndPoseRemap (by decide) (by decide)

/-- The second of two groups names a matrix out of the pose, behind a group of two matrices that has
been averaged. -/
def strandedInput : Input ℕ where
  vertexGroupIndices := some fun slot => if slot = 2 then 5 else 0
  vertexGroupSlotCount := 3
  matrixGroupSizes := some fun group => if group = 0 then 2 else 1
  groupCount := 2
  matrixIndices := some fun i => if i = 0 then 1 else if i = 1 then 0 else 99
  matrixIndexCount := 3
  posePalette := some fun i => 10 * (i + 1)
  poseAddress := 0
  posePaletteSize := 2
  poseMatrixCount := 2

/-- The kernel returns a fallback for these, which is no mean, with the flag of averaging set. -/
theorem kernel_strands_averaging :
    classifyOutputPoseAlias strandedInput 0xffffffff ⟨0, 0⟩ = .nonOverlapping ∧
      strandedInput.start strandedInput.groupCount.toNat < 2 ^ 32 ∧
      strandedInput.grouped numbers = none ∧
      strandedInput.directMatrixRemap numbers = none ∧
      strandedInput.sparseMatrixRemap numbers = some [20, 0, 0, 0, 0, 10] ∧
      ((tryBuildRuntimeGroupPaletteKernel numbers strandedInput 0xffffffff ⟨0, 0⟩
        .matrixAndPoseRemap).map fun result => (result.ok, result.palette, result.usesAveraging)) =
          some (true, [20, 0, 0, 0, 0, 10], true) := by
  refine ⟨by decide, by decide, by decide +kernel, by decide +kernel, by decide +kernel,
    by decide +kernel⟩

end War3VK.Render.GroupPalette
