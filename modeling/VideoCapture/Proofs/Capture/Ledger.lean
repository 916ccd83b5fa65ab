import VideoCapture.Proofs.Capture.Delivery
/-!
# The ledger of devices, buffers and threads

A `Ledger` is kept along a history: which devices are open, which buffers are mapped and how many capture
threads there are. `InOrder` says of an event whether it may happen at a ledger: only an open device is
closed, and only when none of its buffers is mapped; only a mapped buffer is unmapped, and only when there
is no thread; a frame is made from a mapped buffer; and a device is opened for a session only when nothing is
left of the session before. A history whose events are all in order is `Careful`: this states in terms of the
events themselves what that comes to (`Orderly.careful`).

`Leads` follows an act call by call as `Act.Yields` does, with the ledger.
-/
namespace VideoCapture
variable {ω α β : Type}

/-- What an unmapped buffer has to agree in with the mapped one. -/
structure Region where
  device : Handle
  index : UInt32
  length : UInt32
  deriving DecidableEq

/-- A buffer of a device that is mapped. -/
structure Mapping where
  device : Handle
  place : BufferPlace
  deriving DecidableEq

/-- The region that is unmapped for a mapping. -/
def Mapping.region (m : Mapping) : Region := ⟨m.device,m.place.index,m.place.length⟩

/-- What is open, mapped and running at some point of a history. -/
structure Ledger where
  /-- The open devices, the latest first. -/
  devices : List Handle
  /-- The mapped buffers, the latest last. -/
  mappings : List Mapping
  /-- The number of capture threads that are not over. -/
  threads : Nat
  /-- The format that a device agreed to last. -/
  format : Option AgreedFormat
  /-- The filled buffer that a device handed out last. -/
  filled : Option FilledBuffer

/-- Whether a device was opened for a session. -/
def Handle.isSession (device : Handle) : Bool := device.purpose = .session

namespace Ledger

/-- The ledger before anything happened. -/
def blank : Ledger := ⟨[],[],0,none,none⟩

/-- The ledger after an event. A device that fails to unmap a buffer is not asked again: the buffer counts
    as unmapped. -/
def after (x : Ledger) : Event → Ledger
  | .opened d => { x with devices := d :: x.devices }
  | .closed d => { x with devices := x.devices.erase d }
  | .asked _ (.setFormat _ _ _) (.ok format) => { x with format := some format }
  | .asked d (.mapBuffer place) (.ok ()) => { x with mappings := x.mappings ++ [⟨d,place⟩] }
  | .asked d (.unmapBuffer index length) _ =>
    { x with mappings := x.mappings.eraseP fun m => m.region = ⟨d,index,length⟩ }
  | .asked _ .dequeueBuffer (.ok buffer) => { x with filled := some buffer }
  | .spawned (.ok ()) => { x with threads := x.threads + 1 }
  | .stopped _ _ => { x with threads := x.threads - 1 }
  | _ => x

/-- The ledger after a history. -/
def afterAll (x : Ledger) (h : History) : Ledger := h.foldl after x

/-- Nothing is left of a session. -/
structure Clear (x : Ledger) : Prop where
  devices : x.devices.filter Handle.isSession = []
  mappings : x.mappings = []
  threads : x.threads = 0

/-- A frame is due for the buffer that was handed out last, with the memory of the mapping that has its index. -/
def Shows (world : World ω) (x : Ledger) (frame : Frame) : Prop :=
  ∃ format pixels buffer m s, x.format = some format ∧
    VideoFormat.ofFourCC? format.pixelFormat = some pixels ∧ x.filled = some buffer ∧
    x.mappings[buffer.index.toNat]? = some m ∧
    format.Due pixels (world.contents m.device m.place s) buffer frame

/-- An event may happen at a ledger. -/
def InOrder (world : World ω) (x : Ledger) : Event → Prop
  | .opened d => d.isSession → x.Clear
  | .closed d => d ∈ x.devices ∧ (∀ m ∈ x.mappings, m.device ≠ d) ∧ (d.isSession → x.threads = 0)
  | .asked d (.mapBuffer _) _ => d ∈ x.devices ∧ x.threads = 0
  | .asked d (.unmapBuffer index length) _ =>
    d ∈ x.devices ∧ x.threads = 0 ∧ ∃ m ∈ x.mappings, m.region = ⟨d,index,length⟩
  | .asked d _ _ => d ∈ x.devices
  | .spawned _ => x.threads = 0
  | .started _ _ | .stopped _ _ => 0 < x.threads
  | .delivered frame _ => 0 < x.threads ∧ Shows world x frame
  | _ => True

/-- All events of a history may happen, from a ledger on. -/
def Orderly (world : World ω) : Ledger → History → Prop
  | _, [] => True
  | x, e :: h => InOrder world x e ∧ Orderly world (x.after e) h

theorem afterAll_append (x : Ledger) (h k : History) :
    x.afterAll (h ++ k) = (x.afterAll h).afterAll k := List.foldl_append ..

theorem orderly_append {world : World ω} {x : Ledger} {h k : History} :
    Orderly world x (h ++ k) ↔ Orderly world x h ∧ Orderly world (x.afterAll h) k := by
  induction h generalizing x with
  | nil => simp [Orderly,afterAll]
  | cons e h ih => simp [Orderly,afterAll,ih,and_assoc]

/-! ### What the ledger keeps -/

/-- What holds of the ledger at every moment of an orderly history. -/
structure Sound (x : Ledger) : Prop where
  oneSession : (x.devices.filter Handle.isSession).length ≤ 1
  mappedOpen : ∀ m ∈ x.mappings, m.device ∈ x.devices
  oneThread : x.threads ≤ 1

theorem sound_blank : blank.Sound := ⟨by simp [blank],by simp [blank],by simp [blank]⟩

theorem Sound.after {world : World ω} {x : Ledger} {e : Event} (sound : x.Sound) (fits : InOrder world x e) :
    (x.after e).Sound := by
  obtain ⟨oneSession,mappedOpen,oneThread⟩ := sound
  cases e with
  | opened d =>
    refine ⟨?_,fun m member => .tail _ (mappedOpen m member),oneThread⟩
    cases session : d.isSession with
    | true => simp [Ledger.after,session,(fits session).devices]
    | false => simpa [Ledger.after,session] using oneSession
  | closed d =>
    obtain ⟨-,unmapped,-⟩ := fits
    refine ⟨?_,?_,oneThread⟩
    · exact Nat.le_trans (List.erase_sublist.filter _).length_le oneSession
    · intro m member
      exact (List.mem_erase_of_ne (unmapped m member)).mpr (mappedOpen m member)
  | asked d r answer =>
    cases r with
    | mapBuffer place =>
      cases answer with
      | error fault => exact ⟨oneSession,mappedOpen,oneThread⟩
      | ok _ =>
        refine ⟨oneSession,?_,oneThread⟩
        intro m member
        rcases List.mem_append.mp member with before | new
        · exact mappedOpen m before
        · rw [List.mem_singleton.mp new]
          exact fits.1
    | unmapBuffer index length =>
      exact ⟨oneSession,fun m member => mappedOpen m (List.mem_of_mem_eraseP member),oneThread⟩
    | setFormat width height code => cases answer <;> exact ⟨oneSession,mappedOpen,oneThread⟩
    | dequeueBuffer => cases answer <;> exact ⟨oneSession,mappedOpen,oneThread⟩
    | _ => exact ⟨oneSession,mappedOpen,oneThread⟩
  | spawned answer =>
    have none : x.threads = 0 := fits
    cases answer with
    | error fault => exact ⟨oneSession,mappedOpen,oneThread⟩
    | ok _ => exact ⟨oneSession,mappedOpen,by simp [Ledger.after,none]⟩
  | stopped frames returned => exact ⟨oneSession,mappedOpen,Nat.le_trans (Nat.sub_le _ _) oneThread⟩
  | _ => exact ⟨oneSession,mappedOpen,oneThread⟩

theorem Sound.afterAll {world : World ω} {x : Ledger} {h : History} (sound : x.Sound)
    (orderly : Orderly world x h) : (x.afterAll h).Sound := by
  induction h generalizing x with
  | nil => exact sound
  | cons e h ih => exact ih (sound.after orderly.1) orderly.2

/-- What is in stock at a ledger is what came in less what went out, if that is so at every event. -/
theorem balance {world : World ω} {gain loss : Event → Option α} (stock : Ledger → List α)
    (step : ∀ {x e}, InOrder world x e →
      (stock x ++ (gain e).toList).Perm ((loss e).toList ++ stock (x.after e)))
    {x : Ledger} {h : History} (orderly : Orderly world x h) :
    (stock x ++ h.filterMap gain).Perm (h.filterMap loss ++ stock (x.afterAll h)) := by
  have cons (f : Event → Option α) (e : Event) (h : History) :
      (e :: h).filterMap f = (f e).toList ++ h.filterMap f := by
    cases found : f e <;> simp [found]
  induction h generalizing x with
  | nil => simp [Ledger.afterAll]
  | cons e h ih =>
    have now := (step orderly.1).append_right (h.filterMap gain)
    have later := (ih orderly.2).append_left (loss e).toList
    rw [cons gain,cons loss]
    simp only [List.append_assoc] at now later ⊢
    exact now.trans later

/-- The device that an event opens. -/
def opened? : Event → Option Handle
  | .opened d => some d
  | _ => none

/-- The device that an event closes. -/
def closed? : Event → Option Handle
  | .closed d => some d
  | _ => none

/-- The region that an event maps. -/
def mapped? : Event → Option Region
  | .asked d (.mapBuffer place) (.ok ()) => some ⟨d,place.index,place.length⟩
  | _ => none

/-- The region that an event unmaps, or tries to. -/
def unmapped? : Event → Option Region
  | .asked d (.unmapBuffer index length) _ => some ⟨d,index,length⟩
  | _ => none

theorem opened_perm {world : World ω} {x : Ledger} {h : History} (orderly : Orderly world x h) :
    (x.devices ++ h.filterMap opened?).Perm (h.filterMap closed? ++ (x.afterAll h).devices) := by
  refine balance Ledger.devices ?_ orderly
  intro x e fits
  cases e with
  | opened d => exact List.perm_append_singleton d x.devices
  | closed d => exact (List.append_nil _).symm ▸ List.perm_cons_erase fits.1
  | asked d r answer =>
    have same : (x.after (.asked d r answer)).devices = x.devices := by
      unfold Ledger.after
      split <;> first | rfl | contradiction
    simp [opened?,closed?,same]
  | spawned answer => cases answer <;> simp [opened?,closed?,Ledger.after]
  | _ => simp [opened?,closed?,Ledger.after]

private theorem regions_eraseP {mappings : List Mapping} {m : Mapping} {region : Region}
    (member : m ∈ mappings) (same : m.region = region) :
    (mappings.map Mapping.region).Perm
      (region :: (mappings.eraseP fun m => m.region = region).map Mapping.region) := by
  obtain ⟨m',before,later,-,same',whole,rest⟩ :=
    List.exists_of_eraseP (p := fun m => decide (m.region = region)) member (decide_eq_true same)
  rw [rest,whole,← of_decide_eq_true same',List.map_append,List.map_append,List.map_cons]
  exact List.perm_middle

theorem mapped_perm {world : World ω} {x : Ledger} {h : History} (orderly : Orderly world x h) :
    (x.mappings.map Mapping.region ++ h.filterMap mapped?).Perm
      (h.filterMap unmapped? ++ (x.afterAll h).mappings.map Mapping.region) := by
  refine balance (fun x => x.mappings.map Mapping.region) ?_ orderly
  intro x e fits
  cases e with
  | asked d r answer =>
    cases r with
    | mapBuffer place =>
      cases answer with
      | ok _ => simp [mapped?,unmapped?,Ledger.after,Mapping.region]
      | error fault => simp [mapped?,unmapped?,Ledger.after]
    | unmapBuffer index length =>
      obtain ⟨-,-,m,member,same⟩ := fits
      exact (List.append_nil _).symm ▸ regions_eraseP member same
    | setFormat width height code => cases answer <;> simp [mapped?,unmapped?,Ledger.after]
    | dequeueBuffer => cases answer <;> simp [mapped?,unmapped?,Ledger.after]
    | _ => simp [mapped?,unmapped?,Ledger.after]
  | spawned answer => cases answer <;> simp [mapped?,unmapped?,Ledger.after]
  | _ => simp [mapped?,unmapped?,Ledger.after]

end Ledger

/-! ### Careful histories -/

open Ledger

/-- The ledger after a history from the beginning on. -/
def ledger (h : History) : Ledger := blank.afterAll h

/-- The devices that were opened for sessions have been closed and the buffers that were mapped have been
    unmapped, one for one. -/
def Settled (h : History) : Prop :=
  ((h.filterMap opened?).filter Handle.isSession).Perm ((h.filterMap closed?).filter Handle.isSession) ∧
    (h.filterMap mapped?).Perm (h.filterMap unmapped?)

/-- Devices, buffers and threads are treated with care in a history. -/
structure Careful (world : World ω) (h : History) : Prop where
  /-- At every moment there is at most one session device and one thread, and a buffer is mapped only while
      its device is open. -/
  sound : ∀ before after, h = before ++ after → (ledger before).Sound
  /-- At every moment the open devices are those that were opened and not closed. -/
  devices : ∀ before after, h = before ++ after →
    (before.filterMap opened?).Perm (before.filterMap closed? ++ (ledger before).devices)
  /-- At every moment the mapped buffers are those that were mapped and not unmapped. -/
  mappings : ∀ before after, h = before ++ after →
    (before.filterMap mapped?).Perm
      (before.filterMap unmapped? ++ (ledger before).mappings.map Mapping.region)
  /-- Every event may happen when it does. -/
  inOrder : ∀ before e after, h = before ++ e :: after → InOrder world (ledger before) e
  /-- Everything is settled when a session begins. -/
  replaced : ∀ before d after, h = before ++ .opened d :: after → d.isSession → Settled before
  /-- When a device is closed, every buffer that was mapped from it has been unmapped, one for one. -/
  released : ∀ before d after, h = before ++ .closed d :: after →
    ((before.filterMap mapped?).filter (·.device = d)).Perm ((before.filterMap unmapped?).filter (·.device = d))

/-- When nothing is left of a session, everything is settled. -/
theorem Ledger.Clear.settled {world : World ω} {h : History} (clear : (ledger h).Clear)
    (orderly : Orderly world blank h) : Settled h := by
  have devices := (opened_perm orderly).filter Handle.isSession
  have mappings := mapped_perm orderly
  rw [List.filter_append,List.filter_append,show (blank.afterAll h).devices.filter _ = [] from clear.devices]
    at devices
  rw [show (blank.afterAll h).mappings = [] from clear.mappings] at mappings
  exact ⟨by simpa [blank] using devices,by simpa [blank] using mappings⟩

theorem Ledger.Orderly.careful {world : World ω} {h : History} (orderly : Orderly world blank h) :
    Careful world h := by
  have until_ {before after : History} (cut : h = before ++ after) : Orderly world blank before := by
    rw [cut] at orderly
    exact (orderly_append.mp orderly).1
  have fits {before after : History} {e : Event} (cut : h = before ++ e :: after) :
      InOrder world (ledger before) e := by
    rw [cut] at orderly
    exact (orderly_append.mp orderly).2.1
  refine ⟨?_,?_,?_,?_,?_,?_⟩
  · intro before after cut
    exact sound_blank.afterAll (until_ cut)
  · intro before after cut
    exact opened_perm (until_ cut)
  · intro before after cut
    exact mapped_perm (until_ cut)
  · intro before e after cut
    exact fits cut
  · intro before d after cut session
    exact (fits cut session).settled (until_ cut)
  · intro before d after cut
    obtain ⟨-,unmapped,-⟩ := fits cut
    have nothing : ((ledger before).mappings.map Mapping.region).filter (·.device = d) = [] := by
      rw [List.filter_eq_nil_iff]
      intro region member same
      obtain ⟨m,live,rfl⟩ := List.mem_map.mp member
      exact unmapped m live (of_decide_eq_true same)
    have balanced := (mapped_perm (until_ cut)).filter (·.device = d)
    rw [List.filter_append,List.filter_append] at balanced
    rw [show ((blank.afterAll before).mappings.map Mapping.region).filter (·.device = d) = [] from nothing]
      at balanced
    simpa [blank] using balanced

/-! ### Acts that keep the ledger in order -/

namespace Act

variable {world : World ω} {sink : Sink ω} {x : Ledger} {post : β → Ledger → Prop}

/-- From a ledger on, all that an act does is in order, and its result and the ledger after it are as
    required. -/
def Leads (world : World ω) (x : Ledger) (act : Act ω α) (post : α → Ledger → Prop) : Prop :=
  ∀ s, act.Yields s fun y h => Orderly world x h ∧ post y (x.afterAll h)

theorem leads_pure {y : β} (holds : post y x) : Leads world x (pure y) post := fun _ => ⟨trivial,holds⟩

theorem leads_bind {act : Act ω α} {next : α → Act ω β}
    (first : Leads world x act fun y x' => Leads world x' (next y) post) :
    Leads world x (act >>= next) post := by
  intro s
  refine yields_bind (yields_mono ?_ (first s))
  intro y h ⟨orderly,rest⟩ s'
  refine yields_mono ?_ (rest s')
  intro z k ⟨orderly',holds⟩
  rw [orderly_append,afterAll_append]
  exact ⟨⟨orderly,orderly'⟩,holds⟩

theorem leads_mono {act : Act ω β} {pre : β → Ledger → Prop} (weaker : ∀ y x', pre y x' → post y x')
    (holds : Leads world x act pre) : Leads world x act post := fun s =>
  yields_mono (fun y _ ⟨orderly,here⟩ => ⟨orderly,weaker y _ here⟩) (holds s)

theorem leads_notice {notice : Notice} {next : Unit → Act ω β} (rest : Leads world x (next ()) post) :
    Leads world x (Act.notice notice >>= next) post := fun s => yields_notice (rest s)

theorem leads_notice_end {notice : Notice} {post : Unit → Ledger → Prop} (holds : post () x) :
    Leads world x (Act.notice notice) post := fun _ => ⟨trivial,holds⟩

/-- What is in order after an event that may happen is in order with the event before it. -/
private theorem yields_after {e : Event} {act : Act ω β} (fits : InOrder world x e)
    (rest : Leads world (x.after e) act post) (s : ω) :
    act.Yields s fun y h => Orderly world x (e :: h) ∧ post y (x.afterAll (e :: h)) :=
  yields_mono (fun _ _ ⟨orderly,holds⟩ => ⟨⟨fits,orderly⟩,holds⟩) (rest s)

theorem leads_list {next : Except Fault (List String) → Act ω β}
    (each : ∀ answer, Leads world x (next answer) post) : Leads world x (world.list >>= next) post := fun _ =>
  yields_list fun answer => yields_after trivial (each answer)

theorem leads_open {path : String} {purpose : Purpose} {next : Except Fault Handle → Act ω β}
    (fits : ∀ number, InOrder world x (.opened ⟨path,purpose,number⟩))
    (opens : ∀ number, Leads world (x.after (.opened ⟨path,purpose,number⟩)) (next (.ok ⟨path,purpose,number⟩)) post)
    (refuses : ∀ fault, Leads world x (next (.error fault)) post) :
    Leads world x (world.openAt path purpose >>= next) post := fun _ =>
  yields_open (fun number => yields_after (fits number) (opens number))
    fun fault => yields_after trivial (refuses fault)

theorem leads_request {device : Handle} {r : Request} {next : Except Fault r.Reply → Act ω β}
    (fits : ∀ answer, InOrder world x (.asked device r answer))
    (each : ∀ answer, Leads world (x.after (.asked device r answer)) (next answer) post) :
    Leads world x (world.request device r >>= next) post := fun _ =>
  yields_request fun answer => yields_after (fits answer) (each answer)

theorem leads_close {device : Handle} {next : Unit → Act ω β} (fits : InOrder world x (.closed device))
    (rest : Leads world (x.after (.closed device)) (next ()) post) :
    Leads world x (world.closeAt device >>= next) post := fun _ =>
  yields_close (yields_after fits rest)

theorem leads_spawn {next : Except Fault Unit → Act ω β} (fits : ∀ answer, InOrder world x (.spawned answer))
    (each : ∀ answer, Leads world (x.after (.spawned answer)) (next answer) post) :
    Leads world x (world.spawn >>= next) post := fun _ =>
  yields_spawn fun answer => yields_after (fits answer) (each answer)

end Act
end VideoCapture
