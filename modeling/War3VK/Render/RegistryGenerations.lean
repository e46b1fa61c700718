import War3VK.Model.PoseRegistry
import War3VK.Render.ShadowRegistryRules

/-!
# Lookups with a generation

Callers keep what the lookups of the registries of model instances, of poses and of shadow objects
found, with the generation that came with it, and take it as long as `mutationGeneration` returns the
same.
-/

namespace War3VK.Render

open Lib Model

/-- The memories that a call on the registry of instances makes one after the other. -/
def instanceWrites (call : InstanceOutside × InstanceRegistry.Writer) (s : InstanceRegistry) :
    List InstanceRegistry :=
  (InstanceRegistry.write call.1 call.2 (.start s)).made

def poseWrites (call : PoseRegistry.Writer) (s : PoseRegistry) : List PoseRegistry :=
  (PoseRegistry.write call (.start s)).made

def shadowWrites (call : ShadowOutside × ShadowRegistry.Writer) (s : ShadowRegistry) :
    List ShadowRegistry :=
  (ShadowRegistry.write call.1 call.2 (.start s)).made

abbrev InstanceScene (τ : Type) :=
  Scene InstanceRegistry τ InstanceRegistry.Query InstanceRegistry.Answer

abbrev PoseScene (τ : Type) := Scene PoseRegistry τ PoseRegistry.Query (Option PoseRegistry.AugmentView)

abbrev ShadowScene (τ : Type) := Scene ShadowRegistry τ ShadowRegistry.Query ShadowRegistry.Answer

variable {τ : Type} [DecidableEq τ]

abbrev InstanceReaches : InstanceScene τ → InstanceScene τ → Prop :=
  Scene.Reaches InstanceRegistry.mutationGeneration InstanceRegistry.look instanceWrites

abbrev PoseReaches : PoseScene τ → PoseScene τ → Prop :=
  Scene.Reaches PoseRegistry.mutationGeneration PoseRegistry.look poseWrites

abbrev ShadowReaches : ShadowScene τ → ShadowScene τ → Prop :=
  Scene.Reaches ShadowRegistry.mutationGeneration ShadowRegistry.look shadowWrites

/-- What a lookup returned with the generation of now is what it would return now. -/
theorem keptLookup_current :
    (∀ c : InstanceScene τ,
      InstanceReaches (Scene.init {}) c →
        ∀ r ∈ c.returned, c.memory.mutationGeneration = r.generation →
          c.memory.look r.key = r.answer) ∧
    (∀ c : PoseScene τ,
      PoseReaches (Scene.init {}) c →
        ∀ r ∈ c.returned, c.memory.mutationGeneration = r.generation →
          c.memory.look r.key = r.answer) ∧
    (∀ c : ShadowScene τ,
      ShadowReaches (Scene.init {}) c →
        ∀ r ∈ c.returned, c.memory.mutationGeneration = r.generation →
          c.memory.look r.key = r.answer) := by
  refine ⟨fun c hc r hr hg => ?_, fun c hc r hr hg => ?_, fun c hc r hr hg => ?_⟩
  · have hwrites (call : InstanceOutside × InstanceRegistry.Writer) (s : InstanceRegistry)
        (hs : Even s.mutationGeneration) :=
      (InstanceRegistry.kept_write (.start hs) call.1 call.2).made_chain
    have hcoherent : Scene.Coherent InstanceRegistry.mutationGeneration InstanceRegistry.look c :=
      .of_reaches (by exact Even.zero) hwrites hc
    exact hcoherent.current hr hg
  · have hwrites (call : PoseRegistry.Writer) (s : PoseRegistry) (hs : Even s.mutationGeneration) :=
      (PoseRegistry.kept_write (.start hs) call).made_chain
    have hcoherent : Scene.Coherent PoseRegistry.mutationGeneration PoseRegistry.look c :=
      .of_reaches (by exact Even.zero) hwrites hc
    exact hcoherent.current hr hg
  · have hwrites (call : ShadowOutside × ShadowRegistry.Writer) (s : ShadowRegistry)
        (hs : Even s.mutationGeneration) :=
      (ShadowRegistry.kept_write (.start hs) call.1 call.2).made_chain
    have hcoherent : Scene.Coherent ShadowRegistry.mutationGeneration ShadowRegistry.look c :=
      .of_reaches (by exact Even.zero) hwrites hc
    exact hcoherent.current hr hg

/-! ## A sample -/

/-- The scene after a call was made and a lookup after it, with nobody about. -/
def sampleScene {σ κ α ι : Type} (gen : σ → ℕ) (look : σ → κ → α) (op : ι → σ → List σ) (s : σ)
    (call : ι) (key : κ) : Scene σ Unit κ α :=
  let after := (s :: op call s).getLast (List.cons_ne_nil _ _)
  { Scene.init s with memory := after, returned := [⟨key, gen after, look after key⟩] }

theorem sampleScene_reached {σ κ α ι : Type} (gen : σ → ℕ) (look : σ → κ → α) (op : ι → σ → List σ)
    (s : σ) (call : ι) (key : κ) :
    Scene.Reaches gen look op (Scene.init s) (sampleScene gen look op s call key) :=
  .trans (.head (.lock call rfl fun _ => rfl) (Scene.Reaches.finish rfl))
    (Scene.Reaches.lookup () key rfl rfl)

def samplePosture : PoseRegistry.Posture := ⟨3, 0, one32, 0, 0, 0, 0, none⟩

def samplePoseNote : ShadowOutside × ShadowRegistry.Writer :=
  (⟨⟨fun _ _ => false, fun _ _ => false, fun _ => 0⟩, fun _ => none, fun _ => none, fun _ => none⟩,
    .notePose 0 0x500000 0 ⟨3, 0, one32, 0, 0, 0, 0, false, none, 0, 0⟩)

def sampleBinding : InstanceOutside × InstanceRegistry.Writer :=
  (⟨⟨fun _ _ => false, fun _ _ => false, fun _ => 0⟩, fun _ => none, fun _ => none⟩,
    .bindModelToInstance 0x500000 7)

/-- A lookup after a binding, one after a pose was recorded and one after a pose was noted are all still
good. -/
theorem keptLookup_current_sample :
    (∃ c : InstanceScene Unit, InstanceReaches (Scene.init {}) c ∧
      c.returned.map (·.answer) = [.directPacket (some ⟨0, 0x500000, 0, 0, 0, 0, 0, 7⟩)] ∧
      ∀ r ∈ c.returned, c.memory.look r.key = r.answer) ∧
    (∃ c : PoseScene Unit, PoseReaches (Scene.init {}) c ∧
      c.returned.map (·.answer.isSome) = [true] ∧
      ∀ r ∈ c.returned, c.memory.look r.key = r.answer) ∧
    ∃ c : ShadowScene Unit, ShadowReaches (Scene.init {}) c ∧
      c.returned.map (·.answer.view.isSome) = [true] ∧
      ∀ r ∈ c.returned, c.memory.look r.key = r.answer := by
  have hinstance := sampleScene_reached InstanceRegistry.mutationGeneration InstanceRegistry.look
    instanceWrites {} sampleBinding (.directPacket 0x500000 0 0 0)
  have hpose := sampleScene_reached PoseRegistry.mutationGeneration PoseRegistry.look poseWrites {}
    (.recordPose 0 0x500000 0 samplePosture) ⟨0, 0x500000, 0⟩
  have hshadow := sampleScene_reached ShadowRegistry.mutationGeneration ShadowRegistry.look
    shadowWrites {} samplePoseNote (.directPacket 0 0x500000 0 0 0)
  refine ⟨⟨_, hinstance, by decide +kernel, fun r hr => ?_⟩,
    ⟨_, hpose, by decide +kernel, fun r hr => ?_⟩,
    ⟨_, hshadow, by decide +kernel, fun r hr => ?_⟩⟩
  · exact keptLookup_current.1 _ hinstance r hr (by cases List.mem_singleton.mp hr; rfl)
  · exact keptLookup_current.2.1 _ hpose r hr (by cases List.mem_singleton.mp hr; rfl)
  · exact keptLookup_current.2.2 _ hshadow r hr (by cases List.mem_singleton.mp hr; rfl)

end War3VK.Render

/-!
## Skips in both registries

The registries of model instances and of shadow objects skip a render object that the collector of the
scene has noted in the frame, when its records agree.
-/

namespace War3VK.Render

open Lib Model

/-- What a skip accepts could be noted without a change of any table. -/
theorem sameFrameSkip_invisible :
    (∀ (calls : List (ShadowOutside × ShadowRegistry.Writer)) (o : ShadowOutside)
        (info : RenderObjectInfo),
      let s := ShadowRegistry.run calls
      (ShadowRegistry.trySkipExactSameFrameRenderObjectLocked info s.frameNumber (.start s)).1 = true →
        SameMaps s.maps (ShadowRegistry.noteInstanceIdentityLocked o info.worldObjectEntry
          info.sceneNode info.unitPtr 0 info.jHandle info.rawcode info.kind false
          (.start s)).now.maps) ∧
    (∀ (calls : List (InstanceOutside × InstanceRegistry.Writer)) (o : InstanceOutside)
        (info : RenderObjectInfo),
      let s := InstanceRegistry.run calls
      (InstanceRegistry.trySkipExactSameFrameRenderObjectLocked info s.frameNumber (.start s)).1 =
          true →
        (InstanceRegistry.noteInstanceIdentityLocked o info.worldObjectEntry info.sceneNode
          info.unitPtr 0 info.jHandle info.rawcode false (.start s)).now.maps = s.maps) := by
  constructor
  · intro calls o info s hskip
    have hhit : ShadowRegistry.skipOutcome s.maps info s.frameNumber = .hit :=
      of_decide_eq_true hskip
    exact ShadowRegistry.sameMaps_noteInstanceIdentityLocked (w := .start s) o
      (ShadowRegistry.plain_run calls) hhit
  · intro calls o info s hskip
    have hhit : InstanceRegistry.skipOutcome s.maps info s.frameNumber = .hit :=
      of_decide_eq_true hskip
    exact InstanceRegistry.maps_noteInstanceIdentityLocked (w := .start s) o hhit

/-! ### A sample -/

/-- A memory where the unit at `0x100000` has a sprite at `0x200000`, with a runtime model at
`0x300000`. -/
def sampleMemory : GameMemory where
  isReadableRange _ _ := false
  isReadableRangeFast _ _ := true
  word address := if address = 0x100028 then 0x200000 else if address = 0x200020 then 0x300000 else 1

def sampleModel : ModelResourceRecord := ⟨0x200000, 0x300000, 5, [120], 1, 0, 7⟩

def sampleOutside : ShadowOutside :=
  ⟨sampleMemory, fun _ => some sampleModel, fun _ => none, fun _ => none⟩

def sampleInstanceOutside : InstanceOutside :=
  ⟨sampleMemory, fun _ => some sampleModel, fun _ => none⟩

def sampleObject : RenderObjectInfo := ⟨0x400000, 0x500000, 0x100000, 0x100001, 9, .unit⟩

def sampleShadows : ShadowRegistry :=
  .run [(sampleOutside, .beginFrame), (sampleOutside, .noteRenderObjectsBatch [some sampleObject])]

def sampleInstances : InstanceRegistry :=
  .run [(sampleInstanceOutside, .beginFrame),
    (sampleInstanceOutside, .noteRenderObjectsBatch [some sampleObject])]

/-- The object is skipped in both registries, and could be noted. -/
theorem sameFrameSkip_invisible_sample :
    ((ShadowRegistry.trySkipExactSameFrameRenderObjectLocked sampleObject sampleShadows.frameNumber
          (.start sampleShadows)).1 = true ∧
      SameMaps sampleShadows.maps (ShadowRegistry.noteInstanceIdentityLocked sampleOutside 0x400000
        0x500000 0x100000 0 0x100001 9 .unit false (.start sampleShadows)).now.maps) ∧
    (InstanceRegistry.trySkipExactSameFrameRenderObjectLocked sampleObject
          sampleInstances.frameNumber (.start sampleInstances)).1 = true ∧
      (InstanceRegistry.noteInstanceIdentityLocked sampleInstanceOutside 0x400000 0x500000 0x100000
        0 0x100001 9 false (.start sampleInstances)).now.maps = sampleInstances.maps := by
  have hshadow : (ShadowRegistry.trySkipExactSameFrameRenderObjectLocked sampleObject
      sampleShadows.frameNumber (.start sampleShadows)).1 = true := by decide +kernel
  have hinstance : (InstanceRegistry.trySkipExactSameFrameRenderObjectLocked sampleObject
      sampleInstances.frameNumber (.start sampleInstances)).1 = true := by decide +kernel
  exact ⟨⟨hshadow, sameFrameSkip_invisible.1 _ sampleOutside sampleObject hshadow⟩, hinstance,
    sameFrameSkip_invisible.2 _ sampleInstanceOutside sampleObject hinstance⟩

end War3VK.Render
