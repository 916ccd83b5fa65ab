import VideoCapture.Proofs.Capture.Pool
import VideoCapture.Proofs.Selection.Entries
import VideoCapture.Proofs.Settings.Numbers
import VideoCapture.Capture.Source
import VideoCapture.Simulation.Stage
/-!
# The numbers that sizes and intervals are offered under

A frame size or interval is offered under one number, which has sixteen bits for each of its terms. Main statement:
a session with a number that was offered asks for what the device read out if both terms fit, and else for
something else, the terms modulo 2¹⁶ (`offered_values`). A device that reads out larger terms can come to have two
sizes offered under one number (`offered_twice`).
-/
namespace VideoCapture
variable {ω : Type}

/-! ### Stored numbers -/

open Settings in
theorem Resolution.resolution_choice (r : Resolution) (settings : Settings) :
    (Configuration.ofSettings (settings.setWord resolutionKey r.choice.value)).resolution =
      ⟨r.width % 65536,r.height % 65536⟩ := by
  rw [Configuration.resolution,Configuration.ofSettings,getWord_setWord,choice,unpack_pack]

open Settings in
theorem Fraction.interval_choice (f : Fraction) (settings : Settings) :
    (Configuration.ofSettings (settings.setWord framerateKey f.choice.value)).interval =
      ⟨f.numerator % 65536,f.denominator % 65536⟩ := by
  rw [Configuration.interval,Configuration.ofSettings,getWord_setWord,choice,unpack_pack]

/-! ### What a session asks for -/

/-- An event of a session that asks for nothing but the size and the interval of a configuration. -/
def Event.AsksFor (config : Configuration) : Event → Prop
  | .asked _ (.setFormat width height code) _ => ⟨width,height⟩ = config.resolution ∧ code = config.format
  | .asked _ (.setFrameInterval interval) _ => interval = config.interval
  | _ => True

theorem BufferPool.asksFor_of_request (config : Configuration) {e : Event} (request : isPoolRequest e = true) :
    e.AsksFor config := by
  unfold Event.AsksFor
  split
  · cases request
  · cases request
  · trivial

open Act in
theorem Source.openSession_asks (world : World ω) (config : Configuration) (s : ω) :
    (openSession world config).Yields s fun _ h => ∀ e ∈ h, e.AsksFor config := by
  have one {e : Event} {h : History} (first : e.AsksFor config) (others : ∀ e ∈ h, e.AsksFor config) :
      ∀ x ∈ e :: h, x.AsksFor config := List.forall_mem_cons.mpr ⟨first,others⟩
  have none : ∀ e ∈ ([] : History), e.AsksFor config := List.forall_mem_nil _
  unfold openSession
  refine yields_notice (yields_open (fun number s' => ?_) fun fault s' => yields_pure (one trivial none))
  refine yields_request fun answer s' => ?_
  rcases answer with fault | format
  · exact yields_pure (one trivial (one ⟨rfl,rfl⟩ none))
  refine yields_notice (yields_notice ?_)
  cases FrameGeometry.of format with
  | error error => exact yields_pure (one trivial (one ⟨rfl,rfl⟩ none))
  | ok geometry =>
  refine yields_request fun answer s' => ?_
  rcases answer with fault | interval
  · exact yields_pure (one trivial (one ⟨rfl,rfl⟩ (one rfl none)))
  refine yields_notice (yields_then (BufferPool.map_requests world _ s') fun result h s'' requests => ?_)
  have mapping : ∀ e ∈ h, e.AsksFor config := fun e member =>
    BufferPool.asksFor_of_request config (List.all_eq_true.mp requests e member)
  rcases result with error | pool
  · refine yields_pure (one trivial (one ⟨rfl,rfl⟩ (one rfl ?_)))
    rwa [List.append_nil]
  refine yields_spawn fun answer s' => ?_
  have spawned : ∀ e ∈ h ++ [.spawned answer], e.AsksFor config := by
    intro e member
    rcases List.mem_append.mp member with inside | last
    · exact mapping e inside
    · obtain rfl := List.mem_singleton.mp last
      trivial
  rcases answer with fault | _
  · exact yields_pure (one trivial (one ⟨rfl,rfl⟩ (one rfl spawned)))
  · exact yields_pure (one trivial (one ⟨rfl,rfl⟩ (one rfl spawned)))

open Settings in
/-- The sizes and intervals that are offered are those that the device reads out, or the fixed ones, each with its
    own label. A session with the number that one of them is offered under asks for its terms modulo 2¹⁶, so for
    what was offered if and only if both terms fit in 16 bits; and two of them have one number if and only if
    their terms are the same modulo 2¹⁶. -/
theorem offered_values (world : World ω) (device : Handle) (settings : Settings) :
    (∀ code s, (world.resolutions device code).Yields s fun items h => ∃ sizes,
      Offered (fun i answer => .asked device (.frameSize code i) answer) fallbackResolutions sizes h ∧
        items = sizes.map Resolution.choice) ∧
    (∀ code width height s, (world.framerates device code width height).Yields s fun items h => ∃ intervals,
      Offered (fun i answer => .asked device (.frameInterval code width height i) answer) fallbackIntervals
          intervals h ∧
        items = intervals.map Fraction.choice) ∧
    (∀ r : Resolution, let config := Configuration.ofSettings (settings.setWord resolutionKey r.choice.value)
      r.choice.label = r.text ∧ unpack r.choice.value = (r.width % 65536,r.height % 65536) ∧
        (config.resolution = r ↔ r.width < 65536 ∧ r.height < 65536) ∧
        (∀ s, (Source.openSession world config).Yields s fun _ h => ∀ d width height code answer,
          .asked d (.setFormat width height code) answer ∈ h → (width,height) = unpack r.choice.value) ∧
        ∀ other : Resolution, r.choice.value = other.choice.value ↔
          r.width % 65536 = other.width % 65536 ∧ r.height % 65536 = other.height % 65536) ∧
    ∀ f : Fraction, let config := Configuration.ofSettings (settings.setWord framerateKey f.choice.value)
      f.choice.label = f.label ∧ unpack f.choice.value = (f.numerator % 65536,f.denominator % 65536) ∧
        (config.interval = f ↔ f.numerator < 65536 ∧ f.denominator < 65536) ∧
        (∀ s, (Source.openSession world config).Yields s fun _ h => ∀ d interval answer,
          .asked d (.setFrameInterval interval) answer ∈ h →
            (interval.numerator,interval.denominator) = unpack f.choice.value) ∧
        ∀ other : Fraction, f.choice.value = other.choice.value ↔
          f.numerator % 65536 = other.numerator % 65536 ∧ f.denominator % 65536 = other.denominator % 65536 := by
  refine ⟨World.resolutions_offered world device,World.framerates_offered world device,?_,?_⟩
  · rintro ⟨width,height⟩ config
    have size : config.resolution = ⟨width % 65536,height % 65536⟩ := Resolution.resolution_choice _ settings
    refine ⟨rfl,unpack_pack _ _,?_,fun s => ?_,fun other => pack_eq_iff _ _ _ _⟩
    · rw [size,Resolution.mk.injEq,mod_eq_self_iff,mod_eq_self_iff]
    · refine Act.yields_mono ?_ (Source.openSession_asks world config s)
      intro result h asks d width' height' code answer member
      obtain ⟨asked,-⟩ := asks _ member
      rw [size,Resolution.mk.injEq] at asked
      rw [Resolution.choice,unpack_pack,asked.1,asked.2]
  · rintro ⟨numerator,denominator⟩ config
    have time : config.interval = ⟨numerator % 65536,denominator % 65536⟩ := Fraction.interval_choice _ settings
    refine ⟨rfl,unpack_pack _ _,?_,fun s => ?_,fun other => pack_eq_iff _ _ _ _⟩
    · rw [time,Fraction.mk.injEq,mod_eq_self_iff,mod_eq_self_iff]
    · refine Act.yields_mono ?_ (Source.openSession_asks world config s)
      intro result h asks d interval answer member
      have asked := asks _ member
      rw [asked,time,Fraction.choice,unpack_pack]

namespace World

open Simulation

/-- A camera that reads out a size and an interval with terms of more than 16 bits. -/
def wideCamera : Script := { Script.willing with
  sizes := [.ok (some (.discrete ⟨640,480⟩)),.ok (some (.discrete ⟨66176,480⟩))]
  intervals := [.ok (some (.discrete ⟨1,30⟩)),.ok (some (.discrete ⟨333333,10000000⟩))] }

/-- The camera waits to be opened. -/
def wideStage : Stage := .set (.ok []) [("/dev/video0",wideCamera)] ⟨false,false,false,none⟩ false

/-- The camera's two sizes are offered under one number, the one of 640 by 480; and its interval of 333333/10000000 is
    offered under the number of 5653/38528. -/
theorem offered_twice :
    let sizes := Stage.world.usingDevice "/dev/video0" fun device => Stage.world.resolutions device .yuyv
    let intervals := Stage.world.usingDevice "/dev/video0" fun device => Stage.world.framerates device .yuyv 640 480
    (sizes.run wideStage).value = .ok [⟨"640x480",41943520⟩,⟨"66176x480",41943520⟩] ∧
      unpack 41943520 = (640,480) ∧
      ((intervals.run wideStage).value.map fun items => items.map (unpack ·.value)) = .ok [(1,30),(5653,38528)] := by
  refine ⟨?_,?_,?_⟩
  · rfl
  · decide
  · rfl

end World
end VideoCapture
