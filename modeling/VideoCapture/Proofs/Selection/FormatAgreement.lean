import VideoCapture.Proofs.Capture.Pool
import VideoCapture.Proofs.Selection.Entries
import VideoCapture.Capture.Source
/-!
# Formats that are offered and formats that frames are built from

The list of pixel formats, the layouts that they are delivered in, the planes of a layout and the start of a session
each have their own table of formats. Main statement: the tables agree on every format, so a session whose device
settles on a format that would be listed never fails for want of a layout, and one whose device settles on any
other always does, before it asks for a buffer (`formats_agree`).
-/
namespace VideoCapture
variable {ω : Type} (world : World ω)

open Act

/-- The formats that frames are built from, each with its layout. -/
theorem VideoFormat.delivered_cases {code : FourCC} {format : VideoFormat} (delivered : ofFourCC? code = some format) :
    code = .yvyu ∧ format = yvyu ∨ code = .yuyv ∧ format = yuy2 ∨ code = .uyvy ∧ format = uyvy ∨
      code = .nv12 ∧ format = nv12 ∨ code = .yu12 ∧ format = i420 ∨ code = .yv12 ∧ format = i420 := by
  unfold ofFourCC? at delivered
  repeat' split at delivered
  all_goals grind

/-- A format that has a layout is laid out in as many planes as the layout has. -/
theorem ImageLayout.length_planes_of (width height stride : UInt32) {code : FourCC} {format : VideoFormat}
    (delivered : VideoFormat.ofFourCC? code = some format) :
    (of width height stride code).planes.length = format.planeCount := by
  rcases VideoFormat.delivered_cases delivered with
    ⟨rfl,rfl⟩ | ⟨rfl,rfl⟩ | ⟨rfl,rfl⟩ | ⟨rfl,rfl⟩ | ⟨rfl,rfl⟩ | ⟨rfl,rfl⟩ <;> rfl

theorem VideoFormat.planeCount_le (format : VideoFormat) : format.planeCount ≤ ImageLayout.maxPlanes := by
  cases format <;> decide

namespace FrameGeometry

/-- Whatever else is agreed on, frames can be built exactly if the pixel format has a layout. -/
theorem of_eq_ok_iff {agreed : AgreedFormat} {geometry : FrameGeometry} :
    of agreed = .ok geometry ↔ ∃ format, VideoFormat.ofFourCC? agreed.pixelFormat = some format ∧
      geometry = ⟨agreed.width,agreed.height,format,.of agreed.width agreed.height agreed.stride agreed.pixelFormat⟩ := by
  unfold of
  cases VideoFormat.ofFourCC? agreed.pixelFormat with
  | none => simp
  | some format => simp [eq_comm]

theorem of_eq_error_iff {agreed : AgreedFormat} {error : EngineError} :
    of agreed = .error error ↔
      VideoFormat.ofFourCC? agreed.pixelFormat = none ∧ error = .unsupportedFormat agreed.pixelFormat := by
  unfold of
  cases VideoFormat.ofFourCC? agreed.pixelFormat with
  | none => simp [eq_comm]
  | some format => simp

/-- Each frame of a session has the planes of its format. -/
theorem length_planes_view {agreed : AgreedFormat} {geometry : FrameGeometry} (built : of agreed = .ok geometry)
    (data : List UInt8) (buffer : FilledBuffer) :
    (geometry.view data buffer).planes.length = geometry.format.planeCount := by
  obtain ⟨format,delivered,rfl⟩ := of_eq_ok_iff.mp built
  rw [view,List.length_map]
  exact ImageLayout.length_planes_of _ _ _ delivered

end FrameGeometry

namespace FormatDescription

theorem label_eq (entry : FormatDescription) :
    entry.label = entry.description ++ if entry.flags &&& emulatedFlag ≠ 0 then " (Emulated)" else "" := by
  by_cases emulated : entry.flags &&& emulatedFlag = 0
  · simp [label,isEmulated,emulated]
  · simp [label,isEmulated,emulated]

theorem choice?_eq_some_iff {entry : FormatDescription} {item : Choice FourCC} :
    entry.choice? = some item ↔
      (∃ format, VideoFormat.ofFourCC? entry.pixelFormat = some format) ∧ item = ⟨entry.label,entry.pixelFormat⟩ := by
  rw [choice?,Option.ite_none_right_eq_some,Option.isSome_iff_exists,Option.some.injEq,eq_comm (a := item)]

theorem choice?_eq_none_iff {entry : FormatDescription} :
    entry.choice? = none ↔ VideoFormat.ofFourCC? entry.pixelFormat = none := by
  simp [choice?]

end FormatDescription

/-! ### The start of a session -/

/-- The format that a device agrees to by an event. -/
def Event.agreed? : Event → Option AgreedFormat
  | .asked _ (.setFormat _ _ _) (.ok format) => some format
  | _ => none

/-- The formats that devices agreed to. -/
def agreed (h : History) : List AgreedFormat := h.filterMap Event.agreed?

theorem agreed_append (h k : History) : agreed (h ++ k) = agreed h ++ agreed k := List.filterMap_append ..

namespace BufferPool

/-- No format is agreed to while buffers are mapped. -/
theorem agreed_of_requests {h : History} (requests : h.all isPoolRequest) : agreed h = [] := by
  refine List.filterMap_eq_nil_iff.mpr fun e member => ?_
  have request := List.all_eq_true.mp requests e member
  unfold Event.agreed?
  split
  · cases request
  · rfl

theorem MappedMore.supported {device : Handle} {slots : List Slot} {count : Nat} {h : History}
    {result : Except EngineError BufferPool} (mapped : MappedMore device slots count h result) (code : FourCC) :
    result ≠ .error (.unsupportedFormat code) := by
  induction mapped with
  | all => exact nofun
  | next rest ih => exact ih
  | notLocated _ => exact nofun
  | notMapped _ => exact nofun

theorem Mapped.supported {device : Handle} {h : History} {result : Except EngineError BufferPool}
    (mapped : Mapped device h result) (code : FourCC) : result ≠ .error (.unsupportedFormat code) := by
  cases mapped with
  | notGranted => exact nofun
  | tooFew _ => exact nofun
  | granted enough more => exact more.supported code

end BufferPool

/-- What becomes of a session by the format that its device agreed to. -/
def AgreedFormat.Decides (format : AgreedFormat) (failure : Option EngineError) (h : History) : Prop :=
  match VideoFormat.ofFourCC? format.pixelFormat with
  | some _ => ∀ code, failure ≠ some (.unsupportedFormat code)
  | none => failure = some (.unsupportedFormat format.pixelFormat) ∧ ∃ device width height code,
      h = [.opened device,.asked device (.setFormat width height code) (.ok format)]

theorem Source.openSession_decided (config : Configuration) (s : ω) :
    (openSession world config).Yields s fun result h => ∀ format ∈ agreed h, format.Decides result.2 h := by
  unfold openSession
  refine yields_notice (yields_open (fun number s' => ?_) fun fault s' => yields_pure nofun)
  refine yields_request fun answer s' => ?_
  rcases answer with fault | format
  · exact yields_pure nofun
  refine yields_notice (yields_notice ?_)
  cases built : FrameGeometry.of format with
  | error error =>
    obtain ⟨noLayout,rfl⟩ := FrameGeometry.of_eq_error_iff.mp built
    refine yields_pure fun format' member => ?_
    obtain rfl := List.mem_singleton.mp member
    rw [AgreedFormat.Decides,noLayout]
    exact ⟨rfl,_,_,_,_,rfl⟩
  | ok geometry =>
  obtain ⟨layout,delivered,-⟩ := FrameGeometry.of_eq_ok_iff.mp built
  -- From here on the format is agreed to, and it does not matter what else is seen.
  have settled {failure : Option EngineError} {h : History} (rest : History) (none : agreed rest = [])
      (other : ∀ code, failure ≠ some (.unsupportedFormat code)) :
      ∀ format' ∈ format :: agreed rest, format'.Decides failure h := by
    intro format' member
    rw [none] at member
    obtain rfl := List.mem_singleton.mp member
    rw [AgreedFormat.Decides,delivered]
    exact other
  refine yields_request fun answer s' => ?_
  rcases answer with fault | interval
  · exact yields_pure (settled [] rfl nofun)
  refine yields_notice (yields_then (yields_and (BufferPool.map_requests world _ s') (BufferPool.map_mapped world _ s'))
    fun result h s'' ⟨requests,mapped⟩ => ?_)
  have none : agreed h = [] := BufferPool.agreed_of_requests requests
  rcases result with error | pool
  · refine yields_pure (settled _ (by rwa [List.append_nil]) fun code same => ?_)
    cases same
    exact mapped.supported code rfl
  refine yields_spawn fun answer s' => ?_
  have noneYet : agreed (h ++ [.spawned answer]) = [] := by
    rw [agreed_append,none]
    rfl
  rcases answer with fault | _
  · exact yields_pure (settled _ noneYet nofun)
  · exact yields_pure (settled _ noneYet nofun)

/-- The pixel formats that are listed are, in order, those entries of the device that frames can be built from, each
    with the description that the device gives, and the mark of emulation where it has the flag. Frames can be
    built from the reply to a request with any of them, whatever the size and the stride, and then each has the
    planes of its layout; from a reply with any other none can. So a session whose device agrees to a format that
    is listed wherever it is an entry does not fail because of it; and one whose device agrees to another fails at
    once, before it asks for a buffer. -/
theorem formats_agree :
    (∀ device s, (world.formats device).Yields s fun items h => ∃ entries,
      Listed (fun i answer => .asked device (.format i) answer) World.indexBound 0 entries h ∧
        items = entries.filterMap FormatDescription.choice?) ∧
    (∀ (entry : FormatDescription) (width height stride sizeImage : UInt32),
      match FrameGeometry.of ⟨width,height,entry.pixelFormat,stride,sizeImage⟩ with
      | .ok geometry =>
        entry.choice? = some ⟨entry.description ++ if entry.flags &&& 0x2 ≠ 0 then " (Emulated)" else "",
            entry.pixelFormat⟩ ∧
          geometry.format.planeCount ≤ ImageLayout.maxPlanes ∧ ∀ data buffer,
            (geometry.view data buffer).format = geometry.format ∧
              (geometry.view data buffer).planes.length = geometry.format.planeCount
      | .error error => entry.choice? = none ∧ error = .unsupportedFormat entry.pixelFormat) ∧
    ∀ config s, (Source.openSession world config).Yields s fun result h => ∀ format ∈ agreed h,
      ∀ entry : FormatDescription, entry.pixelFormat = format.pixelFormat →
        match entry.choice? with
        | some _ => ∀ code, result.2 ≠ some (.unsupportedFormat code)
        | none => result.2 = some (.unsupportedFormat format.pixelFormat) ∧ ∃ device width height code,
            h = [.opened device,.asked device (.setFormat width height code) (.ok format)] := by
  refine ⟨World.formats_listed world,fun entry width height stride sizeImage => ?_,fun config s => ?_⟩
  · cases built : FrameGeometry.of ⟨width,height,entry.pixelFormat,stride,sizeImage⟩ with
    | ok geometry =>
      obtain ⟨format,delivered,-⟩ := FrameGeometry.of_eq_ok_iff.mp built
      have listed := FormatDescription.choice?_eq_some_iff.mpr ⟨⟨format,delivered⟩,rfl⟩
      rw [entry.label_eq] at listed
      refine ⟨listed,geometry.format.planeCount_le,fun data buffer => ⟨rfl,?_⟩⟩
      exact FrameGeometry.length_planes_view built data buffer
    | error error =>
      obtain ⟨noLayout,rfl⟩ := FrameGeometry.of_eq_error_iff.mp built
      exact ⟨FormatDescription.choice?_eq_none_iff.mpr noLayout,rfl⟩
  · refine yields_mono ?_ (Source.openSession_decided world config s)
    intro result h settled format member entry same
    have settled := settled format member
    rw [AgreedFormat.Decides,← same] at settled
    rw [← same,FormatDescription.choice?]
    cases delivered : VideoFormat.ofFourCC? entry.pixelFormat with
    | some layout =>
      rw [delivered] at settled
      exact settled
    | none =>
      rw [delivered] at settled
      exact settled

end VideoCapture
