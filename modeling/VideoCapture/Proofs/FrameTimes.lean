import VideoCapture.Frame
/-!
# The times of frames

A device says when it filled a buffer in seconds and microseconds, both signed. A frame has that time as one unsigned
number of nanoseconds, and gives it back as whole seconds with the nanoseconds beside. Main statement: the number is
what the device said, modulo 2⁶⁴; for a time that fits (`Timestamp.Representable`) it is exact, it is given back in
full, and numbers of such times are in the order of the times (`FrameGeometry.view_timed`).
-/
namespace VideoCapture

/-- A signed number that is taken for an unsigned one is the same modulo 2⁶⁴. -/
theorem toNat_toUInt64 (n : Int64) : (n.toUInt64.toNat : Int) = n.toInt % UInt64.size := by
  have below := n.toBitVec.isLt
  rw [← Int64.toNat_toBitVec,← Int64.toInt_toBitVec,BitVec.toInt_eq_toNat_cond,UInt64.size]
  split <;> omega

/-- The lower half of the unsigned numbers are the same when taken for signed ones. -/
theorem toInt_toInt64 {n : UInt64} (lower : 2 * n.toNat < UInt64.size) : n.toInt64.toInt = n.toNat := by
  rw [← UInt64.toNat_toBitVec] at lower
  rw [← Int64.toInt_toBitVec,UInt64.toBitVec_toInt64,BitVec.toInt_eq_toNat_of_lt lower,UInt64.toNat_toBitVec]

/-! ### Nanoseconds of a time -/

namespace Timestamp

/-- The nanoseconds that a time means, without bounds. -/
def exactNanos (t : Timestamp) : Int := t.sec.toInt * 1000000000 + t.usec.toInt * 1000

/-- A time since the clock began, its microseconds less than a second, its nanoseconds within 64 bits. -/
structure Representable (t : Timestamp) : Prop where
  begun : 0 ≤ t.sec
  forward : 0 ≤ t.usec
  within : t.usec < 1000000
  fits : t.exactNanos < UInt64.size

/-- One time is before another: in an earlier second, or earlier in the same one. -/
def Before (t u : Timestamp) : Prop := t.sec < u.sec ∨ t.sec = u.sec ∧ t.usec < u.usec

theorem toNat_nanos (t : Timestamp) : (t.nanos.toNat : Int) = t.exactNanos % UInt64.size := by
  have sec := toNat_toUInt64 t.sec
  have usec := toNat_toUInt64 t.usec
  -- The two products wrap and so does their sum.
  have wrapped : t.nanos.toNat =
      (t.sec.toUInt64.toNat * 1000000000 % UInt64.size + t.usec.toUInt64.toNat * 1000 % UInt64.size) %
        UInt64.size := by
    rw [nanos,UInt64.toNat_add,UInt64.toNat_mul,UInt64.toNat_mul]
    rfl
  rw [wrapped,exactNanos]
  unfold UInt64.size at *
  omega

/-- One second before the clock began, and the first time that is too late to fit. -/
example : (nanos ⟨-1,0⟩).toNat = UInt64.size - 1000000000 ∧ (nanos ⟨18446744073,709552⟩).toNat = 384 := by decide

variable {t u : Timestamp}

theorem eq_of_not_before (notBefore : ¬ t.Before u) (notAfter : ¬ u.Before t) : t = u := by
  obtain ⟨sec,usec⟩ := t
  obtain ⟨sec',usec'⟩ := u
  simp only [Before,Int64.lt_iff_toInt_lt,← Int64.toInt_inj] at notBefore notAfter
  rw [mk.injEq,← Int64.toInt_inj,← Int64.toInt_inj]
  omega

namespace Representable

theorem bounds (fit : t.Representable) : 0 ≤ t.sec.toInt ∧ 0 ≤ t.usec.toInt ∧ t.usec.toInt < 1000000 :=
  ⟨Int64.le_iff_toInt_le.mp fit.begun,Int64.le_iff_toInt_le.mp fit.forward,Int64.lt_iff_toInt_lt.mp fit.within⟩

theorem toNat_nanos_eq (fit : t.Representable) : (t.nanos.toNat : Int) = t.exactNanos := by
  obtain ⟨begun,forward,-⟩ := fit.bounds
  have positive : 0 ≤ t.exactNanos := by
    rw [exactNanos]
    omega
  rw [toNat_nanos,Int.emod_eq_of_lt positive fit.fits]

/-- Microseconds never make up for a second. -/
theorem nanos_lt_iff (fit : t.Representable) (fit' : u.Representable) : t.nanos < u.nanos ↔ t.Before u := by
  have exact := fit.toNat_nanos_eq
  have exact' := fit'.toNat_nanos_eq
  obtain ⟨-,forward,within⟩ := fit.bounds
  obtain ⟨-,forward',within'⟩ := fit'.bounds
  rw [exactNanos] at exact exact'
  rw [Before,UInt64.lt_iff_toNat_lt,Int64.lt_iff_toInt_lt,Int64.lt_iff_toInt_lt,← Int64.toInt_inj]
  omega

theorem nanos_inj (fit : t.Representable) (fit' : u.Representable) : t.nanos = u.nanos ↔ t = u := by
  constructor
  · intro same
    apply eq_of_not_before
    · rw [← fit.nanos_lt_iff fit',same]
      exact UInt64.lt_irrefl _
    · rw [← fit'.nanos_lt_iff fit,same]
      exact UInt64.lt_irrefl _
  · rintro rfl
    rfl

end Representable
end Timestamp

/-! ### Seconds and nanoseconds of a frame -/

namespace Frame
variable (frame : Frame)

theorem toInt_timestamp_fst : frame.timestamp.1.toInt = (frame.timestampNanos.toNat / 1000000000 : Nat) := by
  have seconds : (frame.timestampNanos / 1000000000).toNat = frame.timestampNanos.toNat / 1000000000 :=
    UInt64.toNat_div ..
  have below : frame.timestampNanos.toNat < UInt64.size := UInt64.toNat_lt_size _
  rw [timestamp,toInt_toInt64 (by rw [seconds]; omega),seconds]

theorem toNat_timestamp_snd : frame.timestamp.2.toNat = frame.timestampNanos.toNat % 1000000000 := by
  have rest : (frame.timestampNanos % 1000000000).toNat = frame.timestampNanos.toNat % 1000000000 :=
    UInt64.toNat_mod ..
  rw [timestamp,UInt64.toNat_toUInt32,rest]
  omega

theorem timestamp_of_representable {t : Timestamp} (fit : t.Representable) (timed : frame.timestampNanos = t.nanos) :
    frame.timestamp.1 = t.sec ∧ (frame.timestamp.2.toNat : Int) = t.usec.toInt * 1000 := by
  have exact := fit.toNat_nanos_eq
  obtain ⟨-,forward,within⟩ := fit.bounds
  rw [← Int64.toInt_inj,frame.toInt_timestamp_fst,frame.toNat_timestamp_snd,timed]
  rw [Timestamp.exactNanos] at exact
  omega

end Frame

/-- Whatever a device says, the nanoseconds of a frame are those of its buffer modulo 2⁶⁴. If the time of the buffer
    is a representable one, they are exact, and the seconds and nanoseconds of the frame are its seconds and
    microseconds; of two frames with representable times one has fewer nanoseconds if and only if its time is before
    the other, and as many if and only if their times are the same. -/
theorem FrameGeometry.view_timed (geometry : FrameGeometry) (data : List UInt8) (buffer : FilledBuffer) :
    let frame := geometry.view data buffer
    let time := buffer.timestamp
    (frame.timestampNanos.toNat : Int) = time.exactNanos % UInt64.size ∧
      (time.Representable → (frame.timestampNanos.toNat : Int) = time.exactNanos ∧
        frame.timestamp.1 = time.sec ∧ (frame.timestamp.2.toNat : Int) = time.usec.toInt * 1000 ∧
        ∀ (geometry' : FrameGeometry) (data' : List UInt8) (buffer' : FilledBuffer),
          let frame' := geometry'.view data' buffer'
          let time' := buffer'.timestamp
          time'.Representable → (frame.timestampNanos < frame'.timestampNanos ↔ time.Before time') ∧
            (frame.timestampNanos = frame'.timestampNanos ↔ time = time')) := by
  intro frame time
  have timed : frame.timestampNanos = time.nanos := rfl
  refine ⟨time.toNat_nanos,fun fit => ?_⟩
  obtain ⟨seconds,rest⟩ := frame.timestamp_of_representable fit timed
  refine ⟨fit.toNat_nanos_eq,seconds,rest,?_⟩
  intro geometry' data' buffer' frame' time' fit'
  exact ⟨fit.nanos_lt_iff fit',fit.nanos_inj fit'⟩

/-- The last time that fits and the last one in the second before. -/
theorem FrameGeometry.view_timed_last :
    let geometry : FrameGeometry := ⟨2,1,.yuy2,.of 2 1 4 .yuyv⟩
    let last : FilledBuffer := ⟨1,4,8,⟨18446744073,709551⟩⟩
    let earlier : FilledBuffer := ⟨0,4,7,⟨18446744072,999999⟩⟩
    let frame := geometry.view [0,1,2,3] last
    last.timestamp.Representable ∧ earlier.timestamp.Representable ∧
      (frame.timestampNanos.toNat : Int) = 18446744073709551000 ∧ frame.timestamp.1 = 18446744073 ∧
      (frame.timestamp.2.toNat : Int) = 709551000 ∧
      (geometry.view [4,5,6,7] earlier).timestampNanos < frame.timestampNanos := by
  intro geometry last earlier frame
  have fits : last.timestamp.Representable := ⟨by decide,by decide,by decide,by decide⟩
  have fits' : earlier.timestamp.Representable := ⟨by decide,by decide,by decide,by decide⟩
  obtain ⟨nanos,seconds,rest,-⟩ := (view_timed geometry [0,1,2,3] last).2 fits
  obtain ⟨-,-,-,ordered⟩ := (view_timed geometry [4,5,6,7] earlier).2 fits'
  have before : earlier.timestamp.Before last.timestamp := Or.inl (by decide)
  exact ⟨fits,fits',nanos.trans (by decide),seconds,rest.trans (by decide),
    (ordered geometry [0,1,2,3] last fits).1.mpr before⟩

end VideoCapture
