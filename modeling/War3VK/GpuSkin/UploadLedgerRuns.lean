import War3VK.GpuSkin.UploadLedger

/-!
# Asking for an upload page, and for slices of it

`ensureUploadPage` polls only where it changes the page, so whatever it does is a poll between moves
that keep the books (`ensureUploadPage_spec`).
-/

namespace War3VK.GpuSkin.UploadLedger

open SkinResources PackageStore

variable {cfg : ResourceSetup} {s s' s'' : SkinResources} {slices : List BufferSlice}

/-- What no poll and no eviction changes: the device, the alignment and the active page. -/
def fixed (s : SkinResources) : Bool × ℕ × Option UploadPage :=
  (s.device, s.storageBufferOffsetAlignment, s.activeUpload)

variable {requiredBytes : ℕ}

/-- The slices that were not rewound in a call, with those it handed out. -/
def keptWith (before after : SkinResources) (slices handed : List BufferSlice) : List BufferSlice :=
  slices.filter (stays before.retiredUploads after.retiredUploads) ++ handed

variable {answers : UploadAnswers}

/-- What `allocateBatchUpload` hands out. -/
def handedBatch :
    Option (Except GpuSkinFallbackReason (BufferSlice × BufferSlice)) → List BufferSlice
  | some (.ok (palette, jobs)) => [palette, jobs]
  | _ => []

/-- What `allocatePaletteUpload` hands out. -/
def handedPalette : Option (Except GpuSkinFallbackReason BufferSlice) → List BufferSlice
  | some (.ok palette) => [palette]
  | _ => []

end War3VK.GpuSkin.UploadLedger

/-!
## Runs of the upload pages

The calls of an owner with `ensureUploadPage` as a call of its own, and the slices that were handed
out and whose page was not rewound since. Every call keeps the books, and takes a page out of the
retired ones only if it saw the fence of the page pass or ends all pages.
-/

namespace War3VK.GpuSkin

open War3VK.Lib

inductive UploadCall
  /-- `ensureUploadPage`, which the allocations call. -/
  | ensureUploadPage (answers : UploadAnswers) (requiredBytes : ℕ)
  /-- `retireUploads` when the retired pages cannot grow after some were moved. -/
  | retireUploadsThrew (moved : ℕ) (fence : Option ℕ) (value : UInt64)
  | resource (call : ResourceCall)

/-- The owner, and the slices whose page was not rewound since they were handed out. -/
structure UploadLedger where
  resources : SkinResources
  slices : List BufferSlice

namespace UploadLedger

open SkinResources

/-- `retireUploads` when the retired pages cannot grow: the page that could not be moved is marked
already. Those that were moved are gone from the places they had. -/
def retireUploadsThrew (moved : ℕ) (fence : Option ℕ) (value : UInt64) (s : SkinResources) :
    SkinResources :=
  let mark : UploadPage → UploadPage := fun page =>
    { page with fence := fence, retireValue := value }
  if (s.activeUpload.isNone && s.pendingUploads.isEmpty) || fence.isNone || value = 0 then s
  else
    match s.pendingUploads.drop moved with
    | next :: rest => { s with
        retiredUploads := s.retiredUploads ++ (s.pendingUploads.take moved).map mark
        pendingUploads := mark next :: rest }
    | [] => { s with
        retiredUploads := s.retiredUploads ++ s.pendingUploads.map mark
        pendingUploads := []
        activeUpload := s.activeUpload.map mark }

def handedOut : ResourceOutput → List BufferSlice
  | .slices result => handedBatch (some result)
  | .slice result => handedPalette (some result)
  | _ => []

def pollAnswers : UploadCall → Option PollAnswers
  | .ensureUploadPage answers _ => some answers.poll
  | .resource (.beginFrame _ _ _ answers) => some answers
  | .resource (.allocateBatchUpload answers _ _) => some answers.poll
  | .resource (.allocatePaletteUpload answers _) => some answers.poll
  | .resource (.allocateOutput answers _) => some answers.poll
  | .resource (.pollRetired answers) => some answers
  | _ => none

variable (cfg : ResourceSetup)

def start (device : Bool) (deviceAlignment : ℕ) : UploadLedger := ⟨.init device deviceAlignment, []⟩

/-! ### One call -/

variable {cfg} {s s' : SkinResources} {slices : List BufferSlice}

/-- What a call leaves: the books, and each retired page unless its fence was seen. -/
structure Kept (cfg : ResourceSetup) (answers : Option PollAnswers) (s : SkinResources)
    (slices handed : List BufferSlice) (s' : SkinResources) : Prop where
  books : UploadBooks cfg s' (keptWith s s' slices handed)
  /-- The pages that are not retired any more were seen. -/
  seen : ∀ page ∈ s.retiredUploads, page ∈ s'.retiredUploads ∨ ∃ poll ∈ answers, Seen poll page

theorem Kept.of_books {answers : Option PollAnswers} (h : UploadBooks cfg s' slices)
    (hretired : ∀ page ∈ s.retiredUploads, page ∈ s'.retiredUploads) :
    Kept cfg answers s slices [] s' := by
  refine ⟨?_, fun page hpage => .inl (hretired page hpage)⟩
  rw [keptWith, List.append_nil, filter_stays fun page hpage => ⟨page, hretired page hpage, rfl⟩]
  exact h

theorem Kept.of_same {answers : Option PollAnswers} (h : UploadBooks cfg s slices)
    (hsame : SameUploads s s') : Kept cfg answers s slices [] s' :=
  .of_books (h.same hsame) fun _ hpage => hsame.retiredUploads ▸ hpage

end UploadLedger

end War3VK.GpuSkin
