import VideoCapture.Capture.BufferPool
import VideoCapture.Proofs.Acts
/-!
# The pools that devices give

What is seen of a pool that is mapped and unmapped, request by request (`Mapped`, `Unmapped`). A pool that came of
mapping has as many buffers as the device granted, so that their indices are words; each of them is mapped where
the device said that the buffer of that index lies (`map_backed`).
-/
namespace VideoCapture.BufferPool
variable {ω : Type} (world : World ω)

open Act

/-! ### Request by request -/

/-- The buffers among slots that are mapped. -/
def places (slots : List Slot) : List BufferPlace := (slots.filter Slot.isMapped).map Slot.info

/-- What is seen when buffers are unmapped one after the other. The device may answer as it likes. -/
inductive Unmapped (device : Handle) : List BufferPlace → History → Prop
  | none : Unmapped device [] []
  | next {place : BufferPlace} {places : List BufferPlace} {answer : Except Fault Unit} {h : History}
      (rest : Unmapped device places h) :
      Unmapped device (place :: places) (.asked device (.unmapBuffer place.index place.length) answer :: h)

/-- What is seen when so many more buffers are mapped behind others, and what comes of it. -/
inductive MappedMore (device : Handle) : List Slot → Nat → History → Except EngineError BufferPool → Prop
  | all {slots : List Slot} : MappedMore device slots 0 [] (.ok ⟨device,slots⟩)
  | next {slots : List Slot} {count : Nat} {place : BufferPlace} {h : History} {result : Except EngineError BufferPool}
      (rest : MappedMore device (slots ++ [⟨place,true⟩]) count h result) :
      MappedMore device slots (count + 1)
        (.asked device (.queryBuffer (.ofNat slots.length)) (.ok place) ::
          .asked device (.mapBuffer place) (.ok ()) :: h) result
  | notLocated {slots : List Slot} {count : Nat} {fault : Fault} {h : History}
      (undone : Unmapped device (places slots) h) :
      MappedMore device slots (count + 1) (.asked device (.queryBuffer (.ofNat slots.length)) (.error fault) :: h)
        (.error (.mapping (.ofNat slots.length) fault))
  | notMapped {slots : List Slot} {count : Nat} {place : BufferPlace} {fault : Fault} {h : History}
      (undone : Unmapped device (places slots) h) :
      MappedMore device slots (count + 1)
        (.asked device (.queryBuffer (.ofNat slots.length)) (.ok place) ::
          .asked device (.mapBuffer place) (.error fault) :: h)
        (.error (.mapping (.ofNat slots.length) fault))

/-- What is seen when a device is asked for buffers and they are mapped, and what comes of it. -/
inductive Mapped (device : Handle) : History → Except EngineError BufferPool → Prop
  | notGranted {fault : Fault} :
      Mapped device [.asked device (.requestBuffers preferredCount) (.error fault)] (.error (.requestBuffers fault))
  | tooFew {granted : UInt32} (few : granted < leastCount) :
      Mapped device [.asked device (.requestBuffers preferredCount) (.ok granted)] (.error (.tooFewBuffers granted))
  | granted {granted : UInt32} {h : History} {result : Except EngineError BufferPool} (enough : leastCount ≤ granted)
      (more : MappedMore device [] granted.toNat h result) :
      Mapped device (.asked device (.requestBuffers preferredCount) (.ok granted) :: h) result

theorem places_cons (slot : Slot) (slots : List Slot) :
    places (slot :: slots) = if slot.isMapped then slot.info :: places slots else places slots := by
  cases mapped : slot.isMapped <;> simp [places,mapped]

theorem places_of_allMapped {slots : List Slot} (allMapped : ∀ slot ∈ slots, slot.isMapped = true) :
    places slots = slots.map Slot.info := by
  rw [places,List.filter_eq_self.mpr allMapped]

theorem places_allMapped (taken : List BufferPlace) : places (taken.map (⟨·,true⟩)) = taken := by
  rw [places_of_allMapped (by simp),List.map_map]
  exact List.map_id _

theorem unmapFrom_unmapped (device : Handle) (position : Nat) (slots : List Slot) (s : ω) :
    (unmapFrom world device position slots).Yields s fun _ h => Unmapped device (places slots) h := by
  induction slots generalizing position s with
  | nil => exact yields_pure .none
  | cons slot slots ih =>
    rw [places_cons]
    cases mapped : slot.isMapped with
    | false =>
      simp only [unmapFrom,mapped,Bool.false_eq_true,↓reduceIte]
      exact ih _ s
    | true =>
      simp only [unmapFrom,mapped,↓reduceIte]
      refine yields_request fun answer s' => ?_
      cases answer with
      | ok _ => exact yields_mono (fun _ _ unmapped => .next unmapped) (ih (position + 1) s')
      | error fault => exact yields_notice (yields_mono (fun _ _ unmapped => .next unmapped) (ih (position + 1) s'))

theorem unmap_unmapped (pool : BufferPool) (s : ω) :
    (pool.unmap world).Yields s fun _ h => Unmapped pool.device (places pool.slots) h := by
  refine yields_then (unmapFrom_unmapped world _ _ _ s) fun _ h s' unmapped => yields_pure ?_
  rwa [List.append_nil]

theorem mapMore_mapped (count : Nat) (pool : BufferPool) (s : ω) :
    (mapMore world count pool).Yields s fun result h => MappedMore pool.device pool.slots count h result := by
  induction count generalizing pool s with
  | zero => exact yields_pure .all
  | succ count ih =>
    have rollback (error : EngineError) (s : ω) :
        (do
          Act.notice (.mappingFailed error)
          let _ ← pool.unmap world
          return .error error : Act ω (Except EngineError BufferPool)).Yields s
            fun result h => Unmapped pool.device (places pool.slots) h ∧ result = .error error := by
      refine yields_notice (yields_then (unmap_unmapped world pool s) fun _ h s' unmapped => yields_pure ⟨?_,rfl⟩)
      rwa [List.append_nil]
    simp only [mapMore,mapSlot,bind_assoc]
    refine yields_request fun answer s' => ?_
    cases answer with
    | error fault =>
      refine yields_mono ?_ (rollback _ s')
      rintro _ h ⟨unmapped,rfl⟩
      exact .notLocated unmapped
    | ok place =>
      simp only [bind_assoc]
      refine yields_request fun answer s' => ?_
      cases answer with
      | error fault =>
        refine yields_mono ?_ (rollback _ s')
        rintro _ h ⟨unmapped,rfl⟩
        exact .notMapped unmapped
      | ok _ => exact yields_mono (fun _ _ mapped => .next mapped) (ih _ s')

theorem map_mapped (device : Handle) (s : ω) : (map world device).Yields s fun result h => Mapped device h result := by
  unfold map
  refine yields_request fun answer s' => ?_
  cases answer with
  | error fault => exact yields_pure .notGranted
  | ok granted =>
    by_cases few : granted < leastCount
    · simp only [few,↓reduceIte]
      exact yields_notice (yields_pure (.tooFew few))
    · simp only [few,↓reduceIte]
      refine yields_then (mapMore_mapped world granted.toNat ⟨device,[]⟩ s') fun result h s' more => ?_
      have mapped : Mapped device _ result := .granted (Nat.le_of_not_lt few) more
      rw [← List.append_nil h] at mapped
      cases result with
      | error error => exact yields_pure mapped
      | ok pool => exact yields_notice (yields_pure mapped)

/-! ### Pools that came of mapping -/

theorem exists_slot_of_mapping? {pool : BufferPool} {index : Nat} {place : BufferPlace}
    (found : pool.mapping? index = some place) :
    ∃ slot, pool.slots[index]? = some slot ∧ slot.isMapped = true ∧ slot.info = place := by
  rw [mapping?] at found
  cases there : pool.slots[index]? with
  | none => simp [there] at found
  | some slot =>
    simp only [there,Option.ite_none_right_eq_some,Option.some.injEq] at found
    exact ⟨slot,rfl,found.1,found.2⟩

/-- In a history, the device said where each buffer of the pool lies, and the buffer was mapped there. -/
structure Backed (device : Handle) (h : History) (pool : BufferPool) : Prop where
  device_eq : pool.device = device
  mapped : ∀ slot ∈ pool.slots, slot.isMapped = true
  placed : ∀ index slot, pool.slots[index]? = some slot →
    .asked device (.queryBuffer (.ofNat index)) (.ok slot.info) ∈ h ∧
      .asked device (.mapBuffer slot.info) (.ok ()) ∈ h

theorem Backed.mono {device : Handle} {h k : History} {pool : BufferPool} (backed : Backed device h pool)
    (more : ∀ e ∈ h, e ∈ k) : Backed device k pool where
  device_eq := backed.device_eq
  mapped := backed.mapped
  placed := by
    intro index slot found
    obtain ⟨queried,mapped⟩ := backed.placed index slot found
    exact ⟨more _ queried,more _ mapped⟩

theorem Backed.push {device : Handle} {h : History} {pool : BufferPool} (backed : Backed device h pool)
    (place : BufferPlace) :
    Backed device
      (h ++ [.asked device (.queryBuffer (.ofNat pool.length)) (.ok place),
        .asked device (.mapBuffer place) (.ok ())])
      { pool with slots := pool.slots ++ [⟨place,true⟩] } where
  device_eq := backed.device_eq
  mapped := by
    intro slot member
    rcases List.mem_append.mp member with before | last
    · exact backed.mapped slot before
    · rw [List.mem_singleton.mp last]
  placed := by
    intro index slot found
    rcases Nat.lt_or_ge index pool.slots.length with before | last
    · rw [List.getElem?_append_left before] at found
      obtain ⟨queried,mapped⟩ := backed.placed index slot found
      exact ⟨List.mem_append_left _ queried,List.mem_append_left _ mapped⟩
    · rw [List.getElem?_append_right last,List.getElem?_singleton] at found
      split at found
      · cases found
        have same : index = pool.length := by simp only [length]; omega
        rw [same]
        simp
      · cases found

theorem Backed.of_mapping? {device : Handle} {h : History} {pool : BufferPool}
    (backed : Backed device h pool) {index : UInt32} {place : BufferPlace}
    (found : pool.mapping? index.toNat = some place) :
    .asked device (.queryBuffer index) (.ok place) ∈ h ∧ .asked device (.mapBuffer place) (.ok ()) ∈ h := by
  obtain ⟨slot,there,-,rfl⟩ := exists_slot_of_mapping? found
  have placed := backed.placed index.toNat slot there
  rwa [UInt32.ofNat_toNat] at placed

/-- A buffer of a pool that came of mapping is mapped exactly if the pool has it. -/
theorem Backed.mapping?_isSome {device : Handle} {h : History} {pool : BufferPool}
    (backed : Backed device h pool) (index : Nat) :
    (pool.mapping? index).isSome = decide (index < pool.length) := by
  simp only [mapping?,length]
  cases found : pool.slots[index]? with
  | none =>
    have outside := List.getElem?_eq_none_iff.mp found
    exact (decide_eq_false (by omega)).symm
  | some slot =>
    have inside := (List.getElem?_eq_some_iff.mp found).1
    simp [backed.mapped slot (List.mem_of_getElem? found),inside]

theorem MappedMore.backed {device : Handle} {slots : List Slot} {count : Nat} {h k : History}
    {result : Except EngineError BufferPool} (mapped : MappedMore device slots count h result)
    (backed : Backed device k ⟨device,slots⟩) :
    ∀ pool, result = .ok pool → Backed device (k ++ h) pool ∧ pool.length = slots.length + count := by
  induction mapped generalizing k with
  | all =>
    rintro _ ⟨rfl⟩
    rw [List.append_nil]
    exact ⟨backed,rfl⟩
  | next rest ih =>
    intro pool same
    obtain ⟨whole,length⟩ := ih (backed.push _) pool same
    rw [List.append_assoc] at whole
    refine ⟨whole,?_⟩
    rw [length,List.length_append,List.length_singleton]
    omega
  | notLocated _ | notMapped _ => exact fun _ wrong => nomatch wrong

/-- A pool that came of mapping has as many buffers as the device granted, all of them backed. -/
theorem map_backed (device : Handle) (s : ω) :
    (map world device).Yields s fun result h => ∀ pool, result = .ok pool →
      Backed device h pool ∧ ∃ granted : UInt32, pool.length = granted.toNat ∧
        .asked device (.requestBuffers preferredCount) (.ok granted) ∈ h := by
  refine yields_mono ?_ (map_mapped world device s)
  intro result h mapped pool same
  cases mapped with
  | notGranted => cases same
  | tooFew few => cases same
  | @granted granted h _ enough more =>
    have empty : Backed device [.asked device (.requestBuffers preferredCount) (.ok granted)] ⟨device,[]⟩ :=
      ⟨rfl,by simp,by simp⟩
    obtain ⟨backed,length⟩ := more.backed empty pool same
    exact ⟨backed,granted,length.trans (Nat.zero_add _),List.mem_cons_self ..⟩

/-- Whether an event is a request that mapping or unmapping a pool makes. -/
def isPoolRequest : Event → Bool
  | .asked _ (.requestBuffers _) _ | .asked _ (.queryBuffer _) _ | .asked _ (.mapBuffer _) _
  | .asked _ (.unmapBuffer _ _) _ => true
  | _ => false

theorem Unmapped.requests {device : Handle} {places : List BufferPlace} {h : History}
    (unmapped : Unmapped device places h) : h.all isPoolRequest := by
  induction unmapped with
  | none => rfl
  | next rest ih => exact ih

theorem MappedMore.requests {device : Handle} {slots : List Slot} {count : Nat} {h : History}
    {result : Except EngineError BufferPool} (mapped : MappedMore device slots count h result) :
    h.all isPoolRequest := by
  induction mapped with
  | all => rfl
  | next rest ih => exact ih
  | notLocated undone | notMapped undone => exact undone.requests

theorem map_requests (device : Handle) (s : ω) :
    (map world device).Yields s fun _ h => h.all isPoolRequest := by
  refine yields_mono ?_ (map_mapped world device s)
  intro result h mapped
  cases mapped with
  | notGranted => rfl
  | tooFew few => rfl
  | granted enough more => exact more.requests

/-- The indices of a pool that came of mapping are words. -/
theorem map_words {device : Handle} {s : ω} {pool : BufferPool}
    (mapped : ((map world device).run s).value = .ok pool) : pool.length < UInt32.size := by
  obtain ⟨-,granted,length,-⟩ := map_backed world device s pool mapped
  rw [length]
  exact granted.toNat_lt

end VideoCapture.BufferPool
