import VideoCapture.Proofs.Capture.FailedStarts
import VideoCapture.Proofs.Settings.Numbers
import VideoCapture.Proofs.Settings.Persistence
/-!
# A configuration on its way to the device

A configuration goes into a store, perhaps into a text and out of it again, then into a source and from there to the
device. What it stores is listed in `Configuration.entries`; what a start asks the device for by the time it has
come to a step is read off the steps that it took (`Startup.Reached.asked`). Main statement: the device is asked
for the terms of the two numbers that the configuration has (`Configuration.reaches_device`).
-/
namespace VideoCapture
variable {ω : Type}

/-! ### Into the store and out of it -/

namespace Configuration

open Settings

/-- What a configuration stores, and under which keys. -/
def entries (c : Configuration) : List (String × Setting) :=
  let word (n : UInt32) : Setting := .int n.toUInt64.toInt64
  [(deviceKey,.text c.device),(formatKey,word c.format.value),(resolutionKey,word c.packedResolution),
    (framerateKey,word c.packedInterval)]

/-- The keys of a configuration. -/
def keys : List String := [deviceKey,formatKey,resolutionKey,framerateKey]

theorem lookup_entries_of_not_mem (c : Configuration) {key : String} (other : key ∉ keys) :
    c.entries.lookup key = none := by
  rw [List.lookup_eq_none_iff]
  intro entry mine
  have key' : entry.1 ∈ keys := List.mem_map_of_mem (f := Prod.fst) mine
  exact bne_iff_ne.mpr fun same => other (same ▸ key')

/-- After a configuration is stored, its keys have what it stores, and other keys what they had. -/
theorem find?_storeIn (c : Configuration) (s : Settings) (key : String) :
    (c.storeIn s).values.find? key = (c.entries.lookup key).or (s.values.find? key) := by
  have set (s : Settings) (k : String) (value : Setting) :
      (s.set k value).values.find? key = if key = k then some value else s.values.find? key :=
    KeyMap.find?_insert _ _ _ _
  simp only [storeIn,setWord,setInt,setText,set]
  by_cases mine : key ∈ keys
  · simp only [keys,List.mem_cons,List.not_mem_nil,or_false] at mine
    rcases mine with rfl | rfl | rfl | rfl <;> rfl
  · rw [lookup_entries_of_not_mem c mine,Option.none_or]
    simp only [keys,List.mem_cons,List.not_mem_nil,or_false,not_or] at mine
    obtain ⟨device,format,resolution,framerate⟩ := mine
    rw [if_neg framerate,if_neg resolution,if_neg format,if_neg device]

/-- A store in which the entries of a configuration are found holds that configuration. -/
theorem ofSettings_of_entries {c : Configuration} {s : Settings}
    (stored : ∀ key value, c.entries.lookup key = some value → s.values.find? key = some value) :
    ofSettings s = c := by
  have found (key : String) (value : Setting) (entry : c.entries.lookup key = some value) :
      s.lookup key = some value := by
    rw [lookup,stored key value entry]
    rfl
  have device : s.getText deviceKey = c.device := by
    rw [getText,found deviceKey (.text c.device) rfl]
  have format := getWord_of_lookup (found formatKey _ rfl)
  have resolution := getWord_of_lookup (found resolutionKey _ rfl)
  have framerate := getWord_of_lookup (found framerateKey _ rfl)
  rw [ofSettings,device,format,resolution,framerate]

end Configuration

/-! ### What a start asks for -/

/-- The format that a device is asked for. -/
def Event.format? : Event → Option (Handle × UInt32 × UInt32 × FourCC)
  | .asked device (.setFormat width height code) _ => some (device,width,height,code)
  | _ => none

/-- The frame interval that a device is asked for. -/
def Event.interval? : Event → Option (Handle × Fraction)
  | .asked device (.setFrameInterval interval) _ => some (device,interval)
  | _ => none

/-- Whether a device agrees to a format, and to one whose frames can be described. -/
def Event.settlesFormat : Event → Bool
  | .asked _ (.setFormat _ _ _) (.ok format) => (FrameGeometry.of format).isOk
  | _ => false

/-- Which devices are opened in a history, which formats and which intervals they are asked for, and whether a format
    is settled. -/
structure Asks (h : History) (devices : List Handle) (formats : List (Handle × UInt32 × UInt32 × FourCC))
    (intervals : List (Handle × Fraction)) (settled : Bool) : Prop where
  devices : devicesOpened h = devices
  formats : h.filterMap Event.format? = formats
  intervals : h.filterMap Event.interval? = intervals
  settled : h.any Event.settlesFormat = settled

namespace Asks
variable {h k : History} {devices : List Handle} {formats : List (Handle × UInt32 × UInt32 × FourCC)}
  {intervals : List (Handle × Fraction)} {settled : Bool}

theorem of_opened (device : Handle) : Asks [.opened device] [device] [] [] false := ⟨rfl,rfl,rfl,rfl⟩

theorem of_setFormat {device : Handle} {width height : UInt32} {code : FourCC} {answer : Except Fault AgreedFormat}
    (means : (Event.asked device (.setFormat width height code) answer).settlesFormat = settled) :
    Asks [.asked device (.setFormat width height code) answer] [] [(device,width,height,code)] [] settled := by
  refine ⟨rfl,rfl,rfl,?_⟩
  simpa using means

theorem of_setFrameInterval (device : Handle) (interval : Fraction) (answer : Except Fault Fraction) :
    Asks [.asked device (.setFrameInterval interval) answer] [] [] [(device,interval)] false :=
  ⟨rfl,rfl,rfl,rfl⟩

theorem of_unmapped {device : Handle} {places : List BufferPlace} (unmapped : BufferPool.Unmapped device places h) :
    Asks h [] [] [] false := by
  induction unmapped with
  | none => exact ⟨rfl,rfl,rfl,rfl⟩
  | next rest ih => exact ⟨ih.devices,ih.formats,ih.intervals,ih.settled⟩

theorem append (first : Asks h devices formats intervals settled) {devices' : List Handle}
    {formats' : List (Handle × UInt32 × UInt32 × FourCC)} {intervals' : List (Handle × Fraction)} {settled' : Bool}
    (rest : Asks k devices' formats' intervals' settled') :
    Asks (h ++ k) (devices ++ devices') (formats ++ formats') (intervals ++ intervals') (settled || settled') := by
  constructor
  · rw [← first.devices,← rest.devices]
    exact List.filterMap_append
  · rw [List.filterMap_append,first.formats,rest.formats]
  · rw [List.filterMap_append,first.intervals,rest.intervals]
  · rw [List.any_append,first.settled,rest.settled]

theorem append_quiet (first : Asks h devices formats intervals settled) (quiet : Asks k [] [] [] false) :
    Asks (h ++ k) devices formats intervals settled := by
  simpa using first.append quiet

end Asks

namespace Startup
variable {config : Configuration}

/-- Whether the format is settled. -/
def agreed : Startup → Bool
  | opening | agreeing _ => false
  | _ => true

/-- Whether the frame interval is settled. -/
def paced : Startup → Bool
  | opening | agreeing _ | pacing _ _ _ => false
  | _ => true

/-- What a start asks a device for: the format of the configuration. -/
def asksFormat (config : Configuration) (device : Handle) : Handle × UInt32 × UInt32 × FourCC :=
  (device,config.resolution.width,config.resolution.height,config.format)

/-- A start that goes on has asked for the format once, and then for the interval once. -/
theorem Reached.asks {h : History} {x : Startup} (reached : Reached config h x) :
    Asks h x.device?.toList (if x.agreed then x.device?.toList.map (asksFormat config) else [])
      (if x.paced then x.device?.toList.map (·,config.interval) else []) x.agreed := by
  induction reached with
  | start => exact ⟨rfl,rfl,rfl,rfl⟩
  | step before move ih =>
    cases move with
    | opens number => exact ih.append (.of_opened _)
    | agrees described =>
      refine ih.append (.of_setFormat ?_)
      simp [Event.settlesFormat,described,Except.isOk,Except.toBool]
    | paces interval => exact ih.append (.of_setFrameInterval _ _ _)
    | _ => exact ih.append_quiet ⟨rfl,rfl,rfl,rfl⟩

theorem Undone.asks {x : Startup} {h : History} (undone : x.Undone h) : Asks h [] [] [] false := by
  rcases undone.course with rfl | ⟨device,unmapping,unmapped,rfl⟩
  · exact ⟨rfl,rfl,rfl,rfl⟩
  · exact (Asks.of_unmapped unmapped).append_quiet ⟨rfl,rfl,rfl,rfl⟩

theorem Reached.path {h : History} {x : Startup} (reached : Reached config h x) :
    ∀ device ∈ x.device?, device.path = config.device := by
  induction reached with
  | start => exact fun device holds => nomatch holds
  | step before move ih =>
    cases move with
    | opens number =>
      rintro device ⟨⟩
      rfl
    | _ => exact ih

/-- A start whose device opens asks it for the format once, and for the interval once if the format is settled. -/
theorem Attempted.asks {h : History} {session : Session} (attempted : Attempted config h session) :
    ∃ (device? : Option Handle) (settled : Bool), (∀ device ∈ device?, device.path = config.device) ∧
      Asks h device?.toList (device?.toList.map (asksFormat config))
        (if settled then device?.toList.map (·,config.interval) else []) settled := by
  cases attempted with
  | @running before terms places reached all =>
    exact ⟨some terms.device,true,reached.path,reached.asks.append_quiet ⟨rfl,rfl,rfl,rfl⟩⟩
  | @failed before after x e error reached fails undone =>
    -- The step that fails may ask the device too; what follows it does not.
    rw [List.append_cons]
    refine ⟨x.device?,x.agreed,reached.path,Asks.append_quiet ?_ undone.asks⟩
    cases fails with
    | notAgreed fault => exact reached.asks.append (.of_setFormat rfl)
    | notDescribed strange =>
      refine reached.asks.append (.of_setFormat ?_)
      simp [Event.settlesFormat,strange,Except.isOk,Except.toBool]
    | notPaced fault => exact reached.asks.append (.of_setFrameInterval _ _ _)
    | _ => exact reached.asks.append_quiet ⟨rfl,rfl,rfl,rfl⟩

end Startup

/-! ### The whole way -/

open Act in
/-- A new source whose settings name a device starts a session with the configuration that they hold. -/
theorem Source.new_attempted (world : World ω) (sink : Sink ω) {store : Settings}
    (named : store.getText Settings.deviceKey ≠ "") (s : ω) :
    (Source.new world sink store).Yields s fun (source,chosen) h =>
      chosen = store ∧ source.config = some (.ofSettings store) ∧
        Startup.Attempted (.ofSettings store) h source.session := by
  rw [Source.new,← updateAmid_nil]
  refine yields_mono ?_ (updateAmid_followed world sink [] blank store s)
  rintro ⟨source,chosen⟩ h ⟨meanwhile,following,settled,rfl,deliberated,followed⟩
  dsimp only at deliberated followed
  cases deliberated with
  | looked noDevice _ _ _ => exact absurd noDevice named
  | named _ =>
    cases followed with
    | unchanged same => cases same
    | blank _ noDevice _ => exact absurd noDevice named
    | @started ending starting session _ _ ended attempted =>
      obtain ⟨joining,unmapping,rfl,rfl,rfl⟩ := ended
      exact ⟨rfl,rfl,attempted⟩

namespace Configuration

/-- The store gives back what was stored in it, and so does a store that was read from the text that the first one
    is kept as; other keys and defaults are as they were, or left out of the text. If the configuration has a
    device, a new source with either store starts with this configuration, and its device, once opened, is asked
    for the format and then for the frame interval, once each, in the terms of 16 bits that the stored numbers
    consist of. -/
theorem reaches_device (world : World ω) (sink : Sink ω) (c : Configuration) (s : Settings) (surroundings : ω) :
    let stored := c.storeIn s
    (ofSettings stored = c ∧ stored.defaults = s.defaults ∧
      ∀ key ∉ keys, stored.values.find? key = s.values.find? key) ∧
    (∃ parsed, Settings.ofText stored.toText = .ok parsed ∧
      (ofSettings parsed = c ∧ s.merge parsed = stored ∧ parsed.defaults = .empty ∧
        ∀ key ∉ keys, parsed.values.find? key = s.values.find? key) ∧
      (c.device ≠ "" → ∀ store ∈ [stored,parsed],
        (Source.new world sink store).Yields surroundings fun (source,chosen) h =>
          source.config = some c ∧ chosen = store ∧ ∀ device, .opened device ∈ h →
            device.path = c.device ∧ devicesOpened h = [device] ∧
            h.filterMap Event.format? =
              [(device,c.packedResolution / 65536,c.packedResolution % 65536,c.format)] ∧
            h.filterMap Event.interval? =
              if h.any Event.settlesFormat then
                [(device,⟨c.packedInterval / 65536,c.packedInterval % 65536⟩)]
              else [])) ∧
    (∀ n, pack (unpack n).1 (unpack n).2 = n ∧ (unpack n).1 < 65536 ∧ (unpack n).2 < 65536) ∧
    ∀ a b, a < 65536 → b < 65536 → unpack (pack a b) = (a,b) := by
  intro stored
  have found := c.find?_storeIn s
  have others : ∀ key ∉ keys, stored.values.find? key = s.values.find? key := by
    intro key other
    rw [found,lookup_entries_of_not_mem c other,Option.none_or]
  have holds (store : Settings) (same : store.values = stored.values) : ofSettings store = c := by
    refine ofSettings_of_entries fun key value entry => ?_
    rw [same,found,entry]
    rfl
  have reading := stored.ofText_toText
  have merged : s.merge ⟨stored.values,.empty⟩ = stored := by
    rw [Settings.merge,Settings.mk.injEq]
    refine ⟨KeyMap.ext_find? fun key => ?_,rfl⟩
    rw [KeyMap.find?_merge,found]
    cases c.entries.lookup key <;> simp
  refine ⟨⟨holds stored rfl,rfl,others⟩,⟨_,reading,⟨holds _ rfl,merged,rfl,others⟩,?_⟩,?_,?_⟩
  · intro named store either
    have mine : ofSettings store = c := by
      simp only [List.mem_cons,List.not_mem_nil,or_false] at either
      rcases either with rfl | rfl
      · exact holds _ rfl
      · exact holds _ rfl
    have named' : store.getText Settings.deviceKey ≠ "" := by
      rwa [← mine] at named
    refine Act.yields_mono ?_ (Source.new_attempted world sink named' surroundings)
    rintro ⟨source,chosen⟩ h ⟨rfl,config,attempted⟩
    rw [mine] at config attempted
    refine ⟨config,rfl,fun device opened => ?_⟩
    obtain ⟨device?,settled,path,asks⟩ := attempted.asks
    have member : device ∈ devicesOpened h := List.mem_filterMap.mpr ⟨_,opened,rfl⟩
    rw [asks.devices,Option.mem_toList] at member
    obtain rfl : device? = some device := member
    have size : c.resolution = ⟨c.packedResolution / 65536,c.packedResolution % 65536⟩ := by
      rw [resolution,unpack_eq]
    have time : c.interval = ⟨c.packedInterval / 65536,c.packedInterval % 65536⟩ := by
      rw [interval,unpack_eq]
    refine ⟨path device rfl,asks.devices,?_,?_⟩
    · rw [asks.formats,Option.toList_some,List.map_singleton,Startup.asksFormat,size]
    · rw [asks.intervals,asks.settled,Option.toList_some,List.map_singleton,time]
  · exact fun n => ⟨pack_unpack n,unpack_lt n⟩
  · intro a b below below'
    rw [unpack_pack,(mod_eq_self_iff a).mpr below,(mod_eq_self_iff b).mpr below']

open Settings in
/-- Numbers with the highest bit come back from a store that had texts in their places. -/
example :
    let c : Configuration := ⟨"/dev/video0",.yuyv,0xFFFF8000,0x80000001⟩
    let s := (Settings.empty.setText resolutionKey "640x480").setText framerateKey "30"
    ofSettings (c.storeIn s) = c ∧ c.resolution = ⟨0xFFFF,0x8000⟩ ∧ c.interval = ⟨0x8000,1⟩ := by
  decide

end Configuration
end VideoCapture
