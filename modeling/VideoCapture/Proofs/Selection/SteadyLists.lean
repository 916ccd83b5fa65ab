import Mathlib.Data.Nat.Find
import VideoCapture.Proofs.Selection.Entries
import VideoCapture.Simulation.Stage
/-!
# Lists of steady devices

A device is steady if it reads each entry out the same however often it is asked for (`Steady`). What it offers can
then be said from its answers alone: the fixed list if its first entry is not a single value, and else the single
values among its entries in front of the first answer that is none (`ReadOut`). Main statement: this is what people
can choose of sizes and intervals, and the device is asked for nothing else (`World.lists_read_out`).
-/
namespace VideoCapture
variable {ω α β : Type} {world : World ω}

open Act

/-! ### Steady devices -/

/-- From a state on, each entry is read out the same, whatever entries were asked for before. -/
def Steady (entry : UInt32 → Act ω β) (reply : UInt32 → β) (s : ω) : Prop :=
  ∀ (asked : List UInt32) index,
    ((entry index).run (asked.foldl (fun s i => ((entry i).run s).state) s)).value = reply index

namespace Steady
variable {entry : UInt32 → Act ω β} {reply : UInt32 → β} {s : ω}

theorem value (steady : Steady entry reply s) (index : UInt32) : ((entry index).run s).value = reply index :=
  steady [] index

theorem after (steady : Steady entry reply s) (index : UInt32) : Steady entry reply ((entry index).run s).state :=
  fun asked => steady (index :: asked)

/-- A device is steady if it answers alike in states that it does not leave when it is asked. -/
theorem of_kept {known : ω → Prop} (same : ∀ s index, known s → ((entry index).run s).value = reply index)
    (kept : ∀ s index, known s → known ((entry index).run s).state) (holds : known s) : Steady entry reply s := by
  intro asked
  induction asked generalizing s with
  | nil => exact fun index => same s index holds
  | cons first asked ih => exact ih (kept s first holds)

end Steady

/-! ### What is read out -/

/-- Whether an answer ends a list. -/
def endsList : Except Fault (Option α) → Bool
  | .ok (some _) => false
  | _ => true

/-- The single value that an answer holds. -/
def single? : Except Fault (Option (Offer α)) → Option α
  | .ok (some offer) => offer.discrete?
  | _ => none

theorem single?_eq_some_iff {answer : Except Fault (Option (Offer α))} {value : α} :
    single? answer = some value ↔ answer = .ok (some (.discrete value)) := by
  rcases answer with fault | _ | offer | range | range <;> simp [single?,Offer.discrete?]

/-- What a steady device offers, and what it is asked for to find out. -/
def ReadOut (asked : UInt32 → Event) (reply : UInt32 → Except Fault (Option (Offer α))) (fixed values : List α)
    (h : History) : Prop :=
  match single? (reply 0) with
  | some _ => ∃ last < UInt32.size, endsList (reply (.ofNat last)) ∧ (∀ i < last, !endsList (reply (.ofNat i))) ∧
      values = (List.range last).filterMap (fun i => single? (reply (.ofNat i))) ∧
        h = asked 0 :: (List.range (last + 1)).map fun i => asked (.ofNat i)
  | none => values = fixed ∧ h = [asked 0]

theorem ReadOut.ne_nil {asked : UInt32 → Event} {reply : UInt32 → Except Fault (Option (Offer α))}
    {fixed values : List α} {h : History} (readOut : ReadOut asked reply fixed values h) (some_fixed : fixed ≠ []) :
    values ≠ [] := by
  unfold ReadOut at readOut
  cases first : single? (reply 0) with
  | none =>
    rw [first] at readOut
    rw [readOut.1]
    exact some_fixed
  | some value =>
    simp only [first] at readOut
    obtain ⟨last,-,ends,-,rfl,-⟩ := readOut
    have inside : 0 < last := by
      refine Nat.pos_of_ne_zero ?_
      rintro rfl
      change endsList (reply 0) = true at ends
      rw [single?_eq_some_iff.mp first] at ends
      cases ends
    refine List.ne_nil_of_mem (a := value) (List.mem_filterMap.mpr ⟨0,List.mem_range.mpr inside,?_⟩)
    exact first

theorem exists_first_end {reply : UInt32 → Except Fault (Option α)} (ends : ∃ index, endsList (reply index)) :
    ∃ last < UInt32.size, endsList (reply (.ofNat last)) ∧ ∀ i < last, !endsList (reply (.ofNat i)) := by
  obtain ⟨index,ends⟩ := ends
  have some_end : ∃ n, endsList (reply (.ofNat n)) := ⟨index.toNat,by rwa [UInt32.ofNat_toNat]⟩
  refine ⟨Nat.find some_end,?_,Nat.find_spec some_end,fun i before => ?_⟩
  · exact Nat.lt_of_le_of_lt (Nat.find_min' some_end (by rwa [UInt32.ofNat_toNat])) index.toNat_lt
  · simpa using Nat.find_min some_end before

/-- The entries from one on, so many of them and then the one that ends the list: what is listed of them, and what is
    seen of asking for them. -/
structure Passed (asked : UInt32 → Except Fault (Option (Offer α)) → Event) (choice : α → Choice UInt32)
    (reply : UInt32 → Except Fault (Option (Offer α))) (first left : Nat) (items : List (Choice UInt32)) (h : History) :
    Prop where
  items_eq : items = ((List.range' first left).filterMap fun i => single? (reply (.ofNat i))).map choice
  history_eq : h = (List.range' first (left + 1)).map fun i => asked (.ofNat i) (reply (.ofNat i))

namespace Passed
variable {asked : UInt32 → Except Fault (Option (Offer α)) → Event} {choice : α → Choice UInt32}
  {reply : UInt32 → Except Fault (Option (Offer α))} {first left : Nat} {items : List (Choice UInt32)} {h : History}

theorem ending {answer : Except Fault (Option (Offer α))} (same : reply (.ofNat first) = answer) :
    Passed asked choice reply first 0 [] [asked (.ofNat first) answer] where
  items_eq := rfl
  history_eq := by
    subst same
    rfl

/-- A single value is listed in front of those that come after it. -/
theorem single {value : α} (rest : Passed asked choice reply (first + 1) left items h)
    (answer : reply (.ofNat first) = .ok (some (.discrete value))) :
    Passed asked choice reply first (left + 1) (choice value :: items)
      (asked (.ofNat first) (.ok (some (.discrete value))) :: h) where
  items_eq := by
    rw [List.range'_succ,List.filterMap_cons_some (b := value) (by rw [answer]; rfl),List.map_cons,rest.items_eq]
  history_eq := by rw [List.range'_succ (n := left + 1),List.map_cons,answer,rest.history_eq]

/-- A range is passed over, and the list goes on. -/
theorem ranged {offer : Offer α} (rest : Passed asked choice reply (first + 1) left items h)
    (answer : reply (.ofNat first) = .ok (some offer)) (noSingle : offer.discrete? = none) :
    Passed asked choice reply first (left + 1) items (asked (.ofNat first) (.ok (some offer)) :: h) where
  items_eq := by
    rw [List.range'_succ,List.filterMap_cons_none (by rw [answer]; exact noSingle),rest.items_eq]
  history_eq := by rw [List.range'_succ (n := left + 1),List.map_cons,answer,rest.history_eq]

end Passed

namespace World

section
variable (entry : UInt32 → Act ω (Except Fault (Option (Offer α))))
  {asked : UInt32 → Except Fault (Option (Offer α)) → Event} {choice : α → Choice UInt32}
  {cut : UInt32 → Fault → Notice} {reply : UInt32 → Except Fault (Option (Offer α))}

theorem yields_entry {γ : Type} {post : γ → History → Prop}
    (each : ∀ index s, (entry index).Yields s fun answer h => h = [asked index answer]) {s : ω}
    (steady : Steady entry reply s) (index : UInt32) {next : Except Fault (Option (Offer α)) → Act ω γ}
    (rest : Yields (next (reply index)) ((entry index).run s).state fun y k => post y (asked index (reply index) :: k)) :
    Yields (entry index >>= next) s post := by
  have seen : observed ((entry index).run s).history = [asked index ((entry index).run s).value] := each index s
  refine yields_bind_run ?_
  rwa [seen,steady.value index]

variable (choice) (cut) in
/-- The entries in front of the first answer that ends the list are passed one after the other. -/
theorem discreteFrom_steady (each : ∀ index s, (entry index).Yields s fun answer h => h = [asked index answer])
    (first : Nat) {left count : Nat} {s : ω} (steady : Steady entry reply s) (room : left < count)
    (ends : endsList (reply (.ofNat (first + left)))) (goesOn : ∀ i < left, !endsList (reply (.ofNat (first + i)))) :
    (discreteFrom entry choice cut count (.ofNat first)).Yields s (Passed asked choice reply first left) := by
  -- The device is as steady after each round as before; with more rounds than entries, the list ends before the count.
  induction left generalizing first count s with
  | zero =>
    obtain ⟨count,rfl⟩ := Nat.exists_eq_succ_of_ne_zero (Nat.ne_of_gt room)
    unfold discreteFrom
    refine yields_entry entry each steady _ ?_
    rw [Nat.add_zero] at ends
    rcases answer : reply (.ofNat first) with fault | _ | offer
    · exact yields_notice (yields_pure (.ending answer))
    · exact yields_pure (.ending answer)
    · rw [answer] at ends
      cases ends
  | succ left ih =>
    obtain ⟨count,rfl⟩ := Nat.exists_eq_succ_of_ne_zero (Nat.ne_zero_of_lt room)
    have more := goesOn 0 (Nat.succ_pos left)
    rw [Nat.add_zero] at more
    have next : UInt32.ofNat first + 1 = .ofNat (first + 1) := (UInt32.ofNat_add first 1).symm
    have rest := ih (first + 1) (steady.after (.ofNat first)) (Nat.lt_of_succ_lt_succ room)
      (by rwa [Nat.add_right_comm]) (fun i below => by
        have goesOn := goesOn (i + 1) (by omega)
        rwa [← Nat.add_assoc,Nat.add_right_comm] at goesOn)
    unfold discreteFrom
    refine yields_entry entry each steady _ ?_
    rw [next]
    rcases answer : reply (.ofNat first) with fault | _ | value | range | range
    · rw [answer] at more
      cases more
    · rw [answer] at more
      cases more
    · refine yields_then rest fun items h _ passed => yields_pure ?_
      rw [List.append_nil]
      exact passed.single answer
    · exact yields_mono (fun _ _ passed => passed.ranged answer rfl) rest
    · exact yields_mono (fun _ _ passed => passed.ranged answer rfl) rest

/-- A steady device whose list ends is asked for its first entry, and then for no more than the first answer that ends
    the list. -/
theorem entry_readOut {fixed : List α} {next : Except Fault (Option (Offer α)) → Act ω (List (Choice UInt32))}
    (each : ∀ index s, (entry index).Yields s fun answer h => h = [asked index answer])
    (consults : Consults entry choice cut fixed next) {s : ω} (steady : Steady entry reply s)
    (ends : ∃ index, endsList (reply index)) :
    (entry 0 >>= next).Yields s fun items h => ∃ values,
      ReadOut (fun i => asked i (reply i)) reply fixed values h ∧ items = values.map choice := by
  refine yields_entry entry each steady 0 ?_
  cases first : single? (reply 0) with
  | none =>
    have ranged : ∀ value, reply 0 ≠ .ok (some (.discrete value)) := by
      intro value same
      rw [single?_eq_some_iff.mpr same] at first
      cases first
    refine yields_mono ?_ (consults.stops (reply 0) _ ranged)
    rintro items h ⟨rfl,rfl⟩
    refine ⟨fixed,?_,rfl⟩
    rw [ReadOut,first]
    exact ⟨rfl,rfl⟩
  | some value =>
    have single : reply 0 = .ok (some (.discrete value)) := single?_eq_some_iff.mp first
    obtain ⟨last,room,ends,goesOn⟩ := exists_first_end ends
    rw [single,consults.goesOn value]
    have listed := discreteFrom_steady entry choice cut each 0 (steady.after 0) room (by rwa [Nat.zero_add])
      fun i below => by rw [Nat.zero_add]; exact goesOn i below
    have zero : UInt32.ofNat 0 = 0 := rfl
    rw [zero] at listed
    refine yields_mono ?_ listed
    intro items h passed
    refine ⟨_,?_,passed.items_eq⟩
    simp only [ReadOut,first,List.range_eq_range']
    exact ⟨last,room,ends,goesOn,rfl,by rw [single,passed.history_eq]⟩

end

/-- If a device is steady in what it reads out of its sizes for a pixel format, or of its intervals for a pixel format
    and a size, and its list ends, then it is asked for the first entry. If that is no single value, the fixed list is
    offered and nothing else is asked for. If it is one, the entries are asked for once each in the order of their
    indices, up to the first that is absent or fails, and the single values among them are offered in this order.
    Something is always offered, each value under its text and the number that its terms are packed into. -/
theorem lists_read_out (world : World ω) (device : Handle) (s : ω) :
    (∀ code (sizes : UInt32 → Except Fault (Option (Offer Resolution))),
      Steady (fun i => world.request device (.frameSize code i)) sizes s → (∃ index, endsList (sizes index)) →
        (world.resolutions device code).Yields s fun items h => items ≠ [] ∧ ∃ values,
          ReadOut (fun i => .asked device (.frameSize code i) (sizes i)) sizes fallbackResolutions values h ∧
            items = values.map fun r => ⟨r.text,pack r.width r.height⟩) ∧
    ∀ code width height (intervals : UInt32 → Except Fault (Option (Offer Fraction))),
      Steady (fun i => world.request device (.frameInterval code width height i)) intervals s →
        (∃ index, endsList (intervals index)) →
          (world.framerates device code width height).Yields s fun items h => items ≠ [] ∧ ∃ values,
            ReadOut (fun i => .asked device (.frameInterval code width height i) (intervals i)) intervals
                fallbackIntervals values h ∧
              items = values.map fun f => ⟨f.label,pack f.numerator f.denominator⟩ := by
  refine ⟨fun code sizes steady ends => ?_,fun code width height intervals steady ends => ?_⟩
  · obtain ⟨next,same,consults⟩ := resolutions_consults world device code
    rw [same]
    refine yields_mono ?_ (entry_readOut (fun i => world.request device (.frameSize code i)) (fun _ _ => rfl) consults
      steady ends)
    rintro items h ⟨values,readOut,rfl⟩
    exact ⟨by simpa using readOut.ne_nil (by decide),values,readOut,rfl⟩
  · obtain ⟨next,same,consults⟩ := framerates_consults world device code width height
    rw [same]
    refine yields_mono ?_ (entry_readOut (fun i => world.request device (.frameInterval code width height i))
      (fun _ _ => rfl) consults steady ends)
    rintro items h ⟨values,readOut,rfl⟩
    exact ⟨by simpa using readOut.ne_nil (by decide),values,readOut,rfl⟩

open Simulation

/-- A device that plays a script and is reached without the system's interface. -/
structure Plays (device : Handle) (script : Script) (s : Stage) : Prop where
  direct : s.viaSystem = false
  playing : s.playing[device.number]? = some script

/-- A request that uses nothing of the script up is answered by it, now and later. -/
theorem Plays.ask {device : Handle} {script : Script} {s : Stage} (plays : Plays device script s) {r : Request}
    (quiet : script.answer r = (script.fixedAnswer r,script)) :
    (s.ask device r).1 = script.fixedAnswer r ∧ Plays device script (s.ask device r).2 := by
  have inside : device.number < s.playing.size := (Array.getElem?_eq_some_iff.mp plays.playing).1
  simp only [Stage.ask,plays.playing,plays.direct,quiet,Bool.false_eq_true,↓reduceIte]
  exact ⟨trivial,rfl,by simp [Stage.note,inside]⟩

theorem Plays.steady {device : Handle} {script : Script} {s : Stage} (plays : Plays device script s) (code : FourCC)
    (width height : UInt32) :
    Steady (β := Except Fault (Option (Offer Resolution))) (fun i => Stage.world.request device (.frameSize code i))
        (fun i => script.fixedAnswer (.frameSize code i)) s ∧
      Steady (β := Except Fault (Option (Offer Fraction)))
        (fun i => Stage.world.request device (.frameInterval code width height i))
        (fun i => script.fixedAnswer (.frameInterval code width height i)) s :=
  ⟨.of_kept (fun _ _ known => (known.ask rfl).1) (fun _ _ known => (known.ask rfl).2) plays,
    .of_kept (fun _ _ known => (known.ask rfl).1) (fun _ _ known => (known.ask rfl).2) plays⟩

/-- A camera that mixes single sizes with a range and fails before the last of them; its first interval is a range. -/
def mixedCamera : Script := { Script.willing with
  sizes := [.ok (some (.discrete ⟨640,480⟩)),.ok (some (.stepwise ⟨⟨16,16⟩,⟨4096,2160⟩,⟨16,16⟩⟩)),
    .ok (some (.discrete ⟨1280,720⟩)),.error (.system 5),.ok (some (.discrete ⟨1920,1080⟩))]
  intervals := [.ok (some (.continuous ⟨⟨1,120⟩,⟨1,1⟩,⟨1,120⟩⟩))] }

/-- The camera is open. -/
def mixedStage : Stage := { Stage.set (.ok []) [] ⟨false,false,false,none⟩ false with playing := #[mixedCamera] }

theorem lists_read_out_mixed :
    let device : Handle := ⟨"/dev/video0",.probe,0⟩
    let sizes (index : UInt32) : Except Fault (Option (Offer Resolution)) := mixedCamera.fixedAnswer (.frameSize .yuyv index)
    let intervals (index : UInt32) : Except Fault (Option (Offer Fraction)) :=
      mixedCamera.fixedAnswer (.frameInterval .yuyv 640 480 index)
    Steady (fun i => Stage.world.request device (.frameSize .yuyv i)) sizes mixedStage ∧ endsList (sizes 3) ∧
      Steady (fun i => Stage.world.request device (.frameInterval .yuyv 640 480 i)) intervals mixedStage ∧
      endsList (intervals 1) ∧
      ((Stage.world.resolutions device .yuyv).Yields mixedStage fun items h => items ≠ [] ∧ ∃ values,
        ReadOut (fun i => .asked device (.frameSize .yuyv i) (sizes i)) sizes fallbackResolutions values h ∧
          items = values.map fun r => ⟨r.text,pack r.width r.height⟩) ∧
      ((Stage.world.framerates device .yuyv 640 480).Yields mixedStage fun items h => items ≠ [] ∧ ∃ values,
        ReadOut (fun i => .asked device (.frameInterval .yuyv 640 480 i) (intervals i)) intervals fallbackIntervals
            values h ∧
          items = values.map fun f => ⟨f.label,pack f.numerator f.denominator⟩) ∧
      ((Stage.world.resolutions device .yuyv).run mixedStage).value.map (unpack ·.value) = [(640,480),(1280,720)] := by
  intro device sizes intervals
  have plays : Plays device mixedCamera mixedStage := ⟨rfl,rfl⟩
  obtain ⟨steadySizes,steadyIntervals⟩ := plays.steady .yuyv 640 480
  obtain ⟨resolutions,framerates⟩ := lists_read_out Stage.world device mixedStage
  refine ⟨steadySizes,rfl,steadyIntervals,rfl,?_,?_,by decide +kernel⟩
  · exact resolutions .yuyv sizes steadySizes ⟨3,rfl⟩
  · exact framerates .yuyv 640 480 intervals steadyIntervals ⟨1,rfl⟩

end World
end VideoCapture
