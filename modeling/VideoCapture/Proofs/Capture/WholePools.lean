import VideoCapture.Proofs.Capture.Pool
/-!
# A pool is mapped whole or not at all

A device that grants enough buffers is asked for them in the order of their indices. Either each of them is located
and mapped, or one is missed: then those before it are unmapped again and nothing else is asked for
(`Concluded`). Main statement: every pool comes about so, and once a pool is unmapped there is nothing left that
could be unmapped again (`map_whole_or_nothing`).
-/
namespace VideoCapture.BufferPool
variable {ω : Type} (world : World ω)

open Act

/-- What is seen when buffers are located and mapped one after the other, from an index on. -/
def inOrder (device : Handle) : Nat → List BufferPlace → History
  | _,[] => []
  | index,place :: taken =>
    .asked device (.queryBuffer (.ofNat index)) (.ok place) :: .asked device (.mapBuffer place) (.ok ()) ::
      inOrder device (index + 1) taken

/-- What is seen of a buffer that cannot be located, or cannot be mapped where it lies. -/
inductive Missed (device : Handle) (index : UInt32) (fault : Fault) : History → Prop
  | notLocated : Missed device index fault [.asked device (.queryBuffer index) (.error fault)]
  | notMapped (place : BufferPlace) : Missed device index fault
      [.asked device (.queryBuffer index) (.ok place),.asked device (.mapBuffer place) (.error fault)]

/-- A pool with exactly these buffers, all of them mapped. -/
structure Whole (device : Handle) (taken : List BufferPlace) (pool : BufferPool) : Prop where
  device_eq : pool.device = device
  places_eq : places pool.slots = taken
  length_eq : pool.length = taken.length
  mapped_eq : pool.mapped = taken.length
  contents_eq : ∀ index s,
    (pool.contents? world index s).map List.length = taken[index]?.map fun place => place.length.toNat

/-- What is seen of mapping the buffers that a device granted, and what comes of it. -/
def Concluded (device : Handle) (granted : UInt32) (h : History) : Except EngineError BufferPool → Prop
  | .ok pool => ∃ taken, taken.length = granted.toNat ∧ h = inOrder device 0 taken ∧ pool.Whole world device taken
  | .error error => ∃ taken index fault missing undoing, taken.length = index.toNat ∧ index < granted ∧
      error = .mapping index fault ∧ Missed device index fault missing ∧ Unmapped device taken undoing ∧
        h = inOrder device 0 taken ++ (missing ++ undoing)

theorem inOrder_append (device : Handle) (index : Nat) (taken more : List BufferPlace) :
    inOrder device index (taken ++ more) = inOrder device index taken ++ inOrder device (index + taken.length) more := by
  induction taken generalizing index with
  | nil => rfl
  | cons place taken ih =>
    have next : index + 1 + taken.length = index + (taken.length + 1) := by omega
    simp only [List.cons_append,inOrder,ih,List.length_cons,next]

theorem whole (device : Handle) (taken : List BufferPlace) :
    Whole world device taken ⟨device,taken.map (⟨·,true⟩)⟩ where
  device_eq := rfl
  places_eq := places_allMapped taken
  length_eq := List.length_map _
  mapped_eq := by simp [mapped,List.countP_map,Function.comp_def]
  contents_eq := by
    intro index s
    simp only [contents?,mapping?,List.getElem?_map]
    cases taken[index]? with
    | none => rfl
    | some place => simp [World.contents]

variable {world}

/-- There are fewer buffers so far than the device granted, so the index of the one that is missed is a word. -/
theorem Missed.concluded {device : Handle} {taken : List BufferPlace} {granted : UInt32} {fault : Fault}
    {missing undoing : History} (missed : Missed device (.ofNat taken.length) fault missing)
    (undone : Unmapped device taken undoing) (more : taken.length < granted.toNat) :
    Concluded world device granted (inOrder device 0 taken ++ (missing ++ undoing))
      (.error (.mapping (.ofNat taken.length) fault)) := by
  have below : granted.toNat < UInt32.size := granted.toNat_lt
  have index : (UInt32.ofNat taken.length).toNat = taken.length := UInt32.toNat_ofNat_of_lt' (by omega)
  refine ⟨taken,_,fault,missing,undoing,index.symm,?_,rfl,missed,undone,rfl⟩
  rwa [UInt32.lt_iff_toNat_lt,index]

theorem MappedMore.concluded {device : Handle} {slots : List Slot} {count : Nat} {h : History}
    {result : Except EngineError BufferPool} (mapped : MappedMore device slots count h result)
    {taken : List BufferPlace} {granted : UInt32} (same : slots = taken.map (⟨·,true⟩))
    (left : taken.length + count = granted.toNat) :
    Concluded world device granted (inOrder device 0 taken ++ h) result := by
  -- What is taken grows with the slots, so those that are unmapped are just those that were mapped.
  induction mapped generalizing taken with
  | all =>
    subst same
    exact ⟨taken,left,List.append_nil _,whole world device taken⟩
  | @next slots count place h result rest ih =>
    subst same
    have more := @ih (taken ++ [place]) (by simp) (by simp; omega)
    rw [inOrder_append,Nat.zero_add,List.append_assoc] at more
    rw [List.length_map]
    exact more
  | @notLocated slots count fault h undone =>
    subst same
    rw [places_allMapped] at undone
    rw [List.length_map]
    exact Missed.notLocated.concluded undone (by omega)
  | @notMapped slots count place fault h undone =>
    subst same
    rw [places_allMapped] at undone
    rw [List.length_map]
    exact (Missed.notMapped place).concluded undone (by omega)

/-! ### Once a pool is unmapped -/

variable (world)

theorem unmapFrom_unmarked (device : Handle) (position : Nat) {slots : List Slot}
    (unmarked : ∀ slot ∈ slots, slot.isMapped = false) (s : ω) :
    (unmapFrom world device position slots).run s = ⟨(),[],s⟩ := by
  induction slots generalizing position with
  | nil => rfl
  | cons slot slots ih =>
    obtain ⟨first,others⟩ := List.forall_mem_cons.mp unmarked
    simp only [unmapFrom,first,Bool.false_eq_true,↓reduceIte]
    exact ih (position + 1) others

/-- A pool that nothing is left of but its slots. -/
structure Spent (pool : BufferPool) : Prop where
  mapped_eq : pool.mapped = 0
  contents_eq : ∀ index s, pool.contents? world index s = none
  unmap_eq : ∀ s, (pool.unmap world).run s = ⟨pool,[],s⟩

theorem spent_of_unmarked {pool : BufferPool} (unmarked : ∀ slot ∈ pool.slots, slot.isMapped = false) :
    pool.Spent world where
  mapped_eq := by
    refine List.countP_eq_zero.mpr fun slot member => ?_
    rw [unmarked slot member]
    exact Bool.false_ne_true
  contents_eq := by
    intro index s
    simp only [contents?,mapping?]
    cases found : pool.slots[index]? with
    | none => rfl
    | some slot => simp [unmarked slot (List.mem_of_getElem? found)]
  unmap_eq := by
    intro s
    have same : pool.slots.map (fun slot => { slot with isMapped := false }) = pool.slots := by
      refine (List.map_congr_left fun slot member => ?_).trans (List.map_id _)
      rw [← unmarked slot member]
      rfl
    rw [unmap,Course.run_bind,unmapFrom_unmarked world _ _ unmarked,Course.run_pure,same]
    rfl

theorem unmap_spends (pool : BufferPool) (s : ω) :
    (pool.unmap world).Yields s fun after h =>
      Unmapped pool.device (places pool.slots) h ∧ after.length = pool.length ∧ after.Spent world := by
  refine yields_then (unmapFrom_unmapped world _ _ _ s) fun _ h s' unmapped => yields_pure ⟨?_,List.length_map _,?_⟩
  · rwa [List.append_nil]
  · exact spent_of_unmarked world (by simp)

/-- A device is asked for buffers once. If it refuses, or grants less than two, that is all, and the failure says which.
    Else its buffers are located and mapped in the order of their indices, each at the length and offset that were
    reported for it. Either all of them are, and then the pool has exactly these, each with all its octets; or
    one is missed, and then those before it are unmapped one after the other, whether or not the device can, and the
    failure names the one that was missed. A pool that is unmapped gives up each of its mapped buffers once; then it
    has no contents, and to unmap it again changes nothing and asks for nothing. -/
theorem map_whole_or_nothing (device : Handle) :
    (∀ s, (map world device).Yields s fun result h => ∃ answer rest,
      h = .asked device (.requestBuffers preferredCount) answer :: rest ∧
        match answer with
        | .error fault => rest = [] ∧ result = .error (.requestBuffers fault)
        | .ok granted =>
          if granted < 2 then rest = [] ∧ result = .error (.tooFewBuffers granted)
          else Concluded world device granted rest result) ∧
    ∀ (pool : BufferPool) s, (pool.unmap world).Yields s fun after h =>
      Unmapped pool.device (places pool.slots) h ∧ after.length = pool.length ∧ after.Spent world := by
  refine ⟨fun s => ?_,unmap_spends world⟩
  refine yields_mono ?_ (map_mapped world device s)
  intro result h mapped
  cases mapped with
  | notGranted => exact ⟨_,[],rfl,rfl,rfl⟩
  | @tooFew granted few =>
    refine ⟨_,[],rfl,?_⟩
    have few : granted < 2 := few
    simp only [few,↓reduceIte,and_self]
  | @granted granted h _ enough more =>
    refine ⟨_,h,rfl,?_⟩
    have enough : ¬ granted < 2 := Nat.not_lt.mpr enough
    have concluded : Concluded world device granted (inOrder device 0 [] ++ h) result :=
      more.concluded rfl (Nat.zero_add _)
    simp only [enough,↓reduceIte]
    exact concluded

end VideoCapture.BufferPool
