import War3VK.Lib.Binary32
import War3VK.Lib.Walk

/-!
# The decoders of model lights

A model file is a list of chunks, and the chunk of its lights a list of records with tracks.
`DecodeModelLightSources` lists the lights of any model that may cast shadows, and `DecodeReviewedSource`
finds the one light of a reviewed model (`src/d3d9/war3/model/war3_native_light_core.h`). A float is its
bits. A file that is accepted has at most 4 MiB, so no sum of offsets in it overflows, and one whose check
is `rejected` has the result `false`.
-/

namespace War3VK.Model.NativeLight

open Lib

/-- `Source`, without the catalogue that the decoders leave unset. -/
structure Source where
  policyIndex : Option ℕ := none
  objectId : UInt32 := 0
  ordinal : ℕ := 0
  count : ℕ := 0
  range : UInt32 := 0
  deriving DecidableEq, Repr

/-- `MDLX`. -/
def magic : Bytes := [0x4d, 0x44, 0x4c, 0x58]

/-- `VERS`. -/
def tagVersion : UInt32 := 0x53524556

/-- `LITE`. -/
def tagLite : UInt32 := 0x4554494c

/-- `KLAC` and `KLBC`. -/
def colorTracks : List UInt32 := [0x43414c4b, 0x43424c4b]

/-- `KLAI`, `KLBI` and `KLAV`. -/
def scalarTracks : List UInt32 := [0x49414c4b, 0x49424c4b, 0x56414c4b]

/-- `KLAS` and `KLAE`. -/
def attenuationTracks : List UInt32 := [0x53414c4b, 0x45414c4b]

def maxRange : UInt32 := 0x461c4000

/-- The components of a value in a track that is no attenuation, and none for other tracks. -/
def trackComponents (track : UInt32) : ℕ :=
  if track ∈ colorTracks then 3 else if track ∈ scalarTracks then 1 else 0

def trackLength (n interpolation : UInt32) (components : ℕ) : ℕ :=
  16 + n.toNat * (4 + 4 * components * if interpolation > 1 then 3 else 1)

/-! ## `DecodeModelLightSources` -/

structure Sources where
  version : Bool := false
  lite : Bool := false
  /-- `ids`, as many as `total`. -/
  ids : List UInt32 := []
  /-- `out.lights`, as many as `out.count`. -/
  lights : List Source := []
  deriving DecidableEq, Repr

def sourceTrack (data : Bytes) (stop t : ℕ) (eligible : Bool) : Except Stop (ℕ × Bool) := do
  expect (16 ≤ stop - t)
  let track ← readWord UInt32 t data
  let n ← readWord UInt32 (t + 4) data
  let interpolation ← readWord UInt32 (t + 8) data
  let components := if track ∈ attenuationTracks then 1 else trackComponents track
  let eligible := if track ∈ attenuationTracks then false else eligible
  expect (components ≠ 0 && interpolation ≤ 3)
  let length := trackLength n interpolation components
  expect (length ≤ stop - t)
  pure (t + length, eligible)

def sourceRecord (data : Bytes) (stop p : ℕ) (s : Sources) : Except Stop (ℕ × Sources) := do
  expect (144 ≤ stop - p && s.ids.length < 16)
  let record ← readWord UInt32 p data
  let node ← readWord UInt32 (p + 4) data
  expect (144 ≤ record.toNat && record.toNat ≤ stop - p && 96 ≤ node.toNat &&
    node.toNat ≤ record.toNat - 48)
  let id ← readWord UInt32 (p + 88) data
  expect (id ≠ UInt32.ofNat (2 ^ 32 - 1))
  expect (id ∉ s.ids)
  let f := p + 4 + node.toNat
  let start ← readWord UInt32 (f + 4) data
  let range ← readWord UInt32 (f + 8) data
  let kind ← readWord UInt32 f data
  let eligible := kind = 0 && Binary32.isFinite start && Binary32.isFinite range &&
    Binary32.le 0 start && Binary32.lt start range && Binary32.le range maxRange
  let eligible ←
    scan (p + record.toNat) (sourceTrack data (p + record.toNat)) (f + 44) eligible
  let light : Source := { objectId := id, ordinal := s.ids.length, range := range }
  pure (p + record.toNat,
    { s with
      ids := s.ids ++ [id]
      lights := if eligible then s.lights ++ [light] else s.lights })

def sourceVersion (data : Bytes) (p : ℕ) (bytes : UInt32) (s : Sources) : Except Stop Sources := do
  expect (!s.version && bytes = 4)
  let version ← readWord UInt32 p data
  expect (version = 800)
  pure { s with version := true }

def sourceLights (data : Bytes) (stop p : ℕ) (s : Sources) : Except Stop Sources := do
  expect !s.lite
  scan stop (sourceRecord data stop) p { s with lite := true }

def sourceChunk (data : Bytes) (p : ℕ) (s : Sources) : Except Stop (ℕ × Sources) := do
  expect (8 ≤ data.length - p)
  let tag ← readWord UInt32 p data
  let bytes ← readWord UInt32 (p + 4) data
  let p := p + 8
  expect (bytes.toNat ≤ data.length - p)
  let stop := p + bytes.toNat
  let s ← whenever (tag = tagVersion) (sourceVersion data p bytes s) s
  let s ← whenever (tag = tagLite) (sourceLights data stop p s) s
  pure (stop, s)

/-- `DecodeModelLightSources`. -/
def decodeModelLightSources (data : Bytes) : Except Stop (List Source) := do
  expect (12 ≤ data.length && data.length ≤ 4 * 1024 * 1024)
  let head ← readRange 0 4 data
  expect (head = magic)
  let s ← scan data.length (sourceChunk data) 4 {}
  expect (s.version && s.lite && s.lights ≠ [])
  pure (s.lights.map fun light => { light with count := s.ids.length })

/-! ## `DecodeReviewedSource` -/

/-- `NativeModelLightShadowCandidate`. -/
structure Candidate where
  path : Bytes
  sha256 : Bytes
  bytes : ℕ
  lightObjectId : UInt32

def asBytes (text : String) : Bytes := text.toList.map fun c => UInt8.ofNat c.toNat

/-- `kNativeModelLightShadowCandidates`. -/
def nativeModelLightShadowCandidates : List Candidate :=
  [⟨asBytes "Doodads\\Cityscape\\Props\\LanternPost\\LanternPost.mdx",
      asBytes "FDF026E90C0543D550186B8A8D568A4C0A21474E8587785E15D1A5FA56F875E8", 7144, 4⟩,
    ⟨asBytes "Doodads\\LordaeronSummer\\Props\\TorchHuman\\TorchHuman.mdx",
      asBytes "EBBA55E0DD1E7B156C884121C0A35B88120E02F7C3BAA743B1DC06DE5A08A16A", 4343, 2⟩,
    ⟨asBytes "Doodads\\LordaeronSummer\\Props\\TorchHumanOmni\\TorchHumanOmni.mdx",
      asBytes "25B05840E6B77EE3C34DF00E2A49C7B0214B5E15063C0A4B21EA111BE57EA23C", 4343, 2⟩,
    ⟨asBytes "Doodads\\LordaeronSummer\\Props\\LanternPost\\LanternPost1.mdx",
      asBytes "945F43D452B5398E61A813E464E8673C4A5D18402FB42A3D8A30171EC3995CF3", 10650, 8⟩,
    ⟨asBytes ("Doodads\\Cityscape\\Structures\\City_LowWall_TallEndCapWithLantern\\" ++
        "City_LowWall_TallEndCapWithLantern.mdx"),
      asBytes "D16B129AE1055A891BFF74ABABB2CB91C40C29C31040D83E26500FDA5075B305", 4868, 1⟩,
    ⟨asBytes "Doodads\\LordaeronSummer\\Props\\brazierOmni\\brazierOmni.mdx",
      asBytes "59EA41E965317FE8664ECE3B37D00F348F79A2BAA38259A448D2C2611A6CFEB9", 5367, 1⟩,
    ⟨asBytes "Doodads\\Village\\Props\\Village_Lightpost\\Village_Lightpost.mdx",
      asBytes "382203CCBEAB88A9BB10CC1571EC9C24FF548A69303D27A1A5FE12B40FCC79CA", 5876, 5⟩,
    ⟨asBytes "Doodads\\LordaeronSummer\\Props\\LanternPost\\LanternPost0.mdx",
      asBytes "C6FD6DBDB38653AD1673608EFFC3642A1AE17C5C279CF22F43BA28F828FC033D", 10730, 8⟩,
    ⟨asBytes "Doodads\\LordaeronSummer\\Props\\TorchHuman\\TorchHuman.mdx",
      asBytes "98D1A8C63A13AC5C6FCD863EB0DF906ED096A6750941DEBC5F05CFE59BE81B6C", 4343, 2⟩,
    ⟨asBytes "Doodads\\LordaeronSummer\\Props\\brazierOmni\\brazierOmni.mdx",
      asBytes "AE326158DAC1FB880E9C59D7F29387B5BD1A737EB76FAE9F91F668E9E531160B", 5367, 1⟩,
    ⟨asBytes "Doodads\\Ruins\\Props\\Firepot\\Firepot.mdx",
      asBytes "D05461D94414B833DC1334A8DDF9E66D6825EC110C7C1226619D4A63629F0F59", 15815, 1⟩]

/-- `NativeLightPathChar`. -/
def nativeLightPathChar (ch : UInt8) : UInt8 :=
  if ch = 0x2f then 0x5c else if 0x41 ≤ ch ∧ ch ≤ 0x5a then ch + 0x20 else ch

/-- `NativeLightSamePath`. -/
def nativeLightSamePath (a b : Bytes) : Bool :=
  a.map nativeLightPathChar = b.map nativeLightPathChar

/-- `policyIndex`: the last candidate of a size, a hash and a path. -/
def findPolicy (size : ℕ) (path sha256 : Bytes) : Option (ℕ × Candidate) :=
  nativeModelLightShadowCandidates.zipIdx.foldl (fun found entry =>
    if size = entry.1.bytes ∧ sha256 = entry.1.sha256 ∧ nativeLightSamePath path entry.1.path then
      some (entry.2, entry.1)
    else found) none

structure Reviewed where
  version : Bool := false
  found : Bool := false
  hasLite : Bool := false
  out : Source := {}
  deriving DecidableEq, Repr

def reviewedTrack (data : Bytes) (stop track : ℕ) (_ : Unit) : Except Stop (ℕ × Unit) := do
  expect (16 ≤ stop - track)
  let t ← readWord UInt32 track data
  let n ← readWord UInt32 (track + 4) data
  let interp ← readWord UInt32 (track + 8) data
  expect (t ∉ attenuationTracks)
  let components := trackComponents t
  expect (components ≠ 0 && interp ≤ 3)
  let length := trackLength n interp components
  expect (length ≤ stop - track)
  pure (track + length, ())

def reviewedLight (data : Bytes) (policyIndex : ℕ) (id : UInt32) (stop pos fields ordinal : ℕ)
    (r : Reviewed) : Except Stop Reviewed := do
  expect !r.found
  let kind ← readWord UInt32 fields data
  let parent ← readWord UInt32 (pos + 92) data
  expect (kind = 0 && parent = UInt32.ofNat (2 ^ 32 - 1))
  let start ← readWord UInt32 (fields + 4) data
  let range ← readWord UInt32 (fields + 8) data
  expect (Binary32.isFinite start && Binary32.isFinite range && !Binary32.lt start 0 &&
    !Binary32.le range start && !Binary32.lt maxRange range)
  scan stop (reviewedTrack data stop) (fields + 44) ()
  let out : Source :=
    { policyIndex := some policyIndex, objectId := id, ordinal := ordinal, range := range }
  pure { r with out := out, found := true }

def reviewedRecord (data : Bytes) (policyIndex : ℕ) (policy : Candidate) (stop pos : ℕ)
    (s : ℕ × Reviewed) : Except Stop (ℕ × ℕ × Reviewed) := do
  let (ordinal, r) := s
  expect (144 ≤ stop - pos && ordinal < 16)
  let record ← readWord UInt32 pos data
  let node ← readWord UInt32 (pos + 4) data
  expect (144 ≤ record.toNat && record.toNat ≤ stop - pos && 96 ≤ node.toNat &&
    node.toNat ≤ record.toNat - 48)
  let fields := pos + 4 + node.toNat
  let id ← readWord UInt32 (pos + 88) data
  let r ← whenever (id = policy.lightObjectId)
    (reviewedLight data policyIndex id (pos + record.toNat) pos fields ordinal r) r
  pure (pos + record.toNat, ordinal + 1, r)

def reviewedVersion (data : Bytes) (pos : ℕ) (bytes : UInt32) (r : Reviewed) :
    Except Stop Reviewed := do
  expect (!r.version && bytes = 4)
  let version ← readWord UInt32 pos data
  expect (version = 800)
  pure { r with version := true }

def reviewedLights (data : Bytes) (policyIndex : ℕ) (policy : Candidate) (stop pos : ℕ)
    (r : Reviewed) : Except Stop Reviewed := do
  expect !r.hasLite
  let (ordinal, r) ← scan stop (reviewedRecord data policyIndex policy stop) pos
    (0, { r with hasLite := true })
  pure { r with out := { r.out with count := ordinal } }

def reviewedChunk (data : Bytes) (policyIndex : ℕ) (policy : Candidate) (pos : ℕ) (r : Reviewed) :
    Except Stop (ℕ × Reviewed) := do
  expect (8 ≤ data.length - pos)
  let tag ← readWord UInt32 pos data
  let bytes ← readWord UInt32 (pos + 4) data
  let pos := pos + 8
  expect (bytes.toNat ≤ data.length - pos)
  let stop := pos + bytes.toNat
  let r ← whenever (tag = tagVersion) (reviewedVersion data pos bytes r) r
  let r ← whenever (tag = tagLite) (reviewedLights data policyIndex policy stop pos r) r
  pure (stop, r)

/-- `DecodeReviewedSource`. -/
def decodeReviewedSource (data path sha256 : Bytes) : Except Stop Source := do
  let (policyIndex, policy) ← require (findPolicy data.length path sha256)
  expect (12 ≤ data.length)
  let head ← readRange 0 4 data
  expect (head = magic)
  let r ← scan data.length (reviewedChunk data policyIndex policy) 4 {}
  expect (r.version && r.found && r.hasLite && r.out.count ≠ 0)
  pure r.out

end War3VK.Model.NativeLight
